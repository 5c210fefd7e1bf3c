import MqttProfile.Proofs.Draft.Modes

/-!
# What selecting a mode erases

The fields of an identity are changed one by one and never built anew, so it might depend on everything that
happened to it.  But whatever selecting the generated mode or the typed one leaves of an identity are demands
that are the same in all of them, and the name of the credentials where the identity is typed in.

* `Identity.generated` and `Identity.typed` say what the two modes lead to without a look at the rest;
* `Identity.layout` is what a form shows of an identity apart from its texts.
-/

namespace MqttProfile

namespace Identity

/-! ## The two modes -/

/-- The identity that the generated mode draws. -/
def generated (g : Generator) : Identity × Generator :=
  let (credentialsName, g) := g.credentialsName
  let (clientId, g) := g.clientId
  let (username, g) := g.username
  ({ mode := .auto
     credentialsName := ⟨.str credentialsName, false, true⟩
     clientId := ⟨.str clientId, false, true⟩
     username := ⟨.str username, false, false⟩
     password := ⟨.null, false, false⟩
     reference := .plain none }, g)

/-- The identity that is typed in, as it is before anything is: that of the edited profile, under a name for
its credentials that is left as it was. -/
def typed (credentialsName : Field Json) (editing : Option Profile) (g : Generator) :
    Identity × Generator :=
  let (clientId, g) := clientIdOrDrawn (storedClientId editing) g
  ({ mode := .custom
     credentialsName
     clientId := .mandatory clientId
     username := .plain (storedUsername editing)
     password := .plain .null
     reference := .plain none }, g)

/-- Selecting the generated mode leaves nothing of an identity. -/
theorem selectMode_auto_eq {identity : Identity} (h : identity.WellFormed) (editing : Option Profile)
    (g : Generator) : identity.selectMode .auto editing g = generated g := by
  simp only [selectMode, selectAuto, generated, Field.set, Field.lock, h.credentialsName, h.clientId,
    h.username]
  rfl

/-- Selecting the typed mode leaves the name of the credentials, and nothing else. -/
theorem selectMode_custom_eq {identity : Identity} (h : identity.WellFormed) (editing : Option Profile)
    (g : Generator) :
    identity.selectMode .custom editing g = typed identity.credentialsName editing g := by
  simp only [selectMode, selectCustom, typed, Field.set, Field.unlock, h.clientId, h.username]
  rfl

/-! ## Layouts -/

/-- Whether the fields of an identity hold values, and whether they are open and have to be filled in. -/
structure Layout where
  mode : CredentialMode
  credentialsName : Field Bool
  clientId : Field Bool
  username : Field Bool
  password : Field Bool
  reference : Field Bool
deriving DecidableEq, Repr

/-- Whether a field holds a value, and its flags. -/
def presence (field : Field Json) : Field Bool :=
  ⟨field.value ≠ .null, field.enabled, field.required⟩

/-- The layout of an identity. -/
def layout (identity : Identity) : Layout where
  mode := identity.mode
  credentialsName := presence identity.credentialsName
  clientId := presence identity.clientId
  username := presence identity.username
  password := presence identity.password
  reference := ⟨identity.reference.value.isSome, identity.reference.enabled, identity.reference.required⟩

/-- All generated identities are laid out alike. -/
theorem layout_generated (g : Generator) :
    (generated g).1.layout
      = { mode := .auto
          credentialsName := ⟨true, false, true⟩
          clientId := ⟨true, false, true⟩
          username := ⟨true, false, false⟩
          password := ⟨false, false, false⟩
          reference := ⟨false, true, false⟩ } := by
  rw [generated]
  rfl

/-! ## Selections one after the other -/

/-- Selects modes one after the other. -/
def selectAll (identity : Identity) (editing : Option Profile) :
    List CredentialMode → Generator → Identity × Generator
  | [], g => (identity, g)
  | mode :: modes, g =>
    let (identity, g) := identity.selectMode mode editing g
    identity.selectAll editing modes g

/-- Whatever was selected before, the generated mode leads to a generated identity. -/
theorem selectAll_auto {identity : Identity} (h : identity.WellFormed) (editing : Option Profile)
    (modes : List CredentialMode) (g : Generator) :
    ∃ drawn, identity.selectAll editing (modes ++ [.auto]) g = generated drawn := by
  induction modes generalizing identity g with
  | nil =>
    refine ⟨g, ?_⟩
    rw [List.nil_append, selectAll, selectMode_auto_eq h]
    rfl
  | cons mode modes ih =>
    -- every mode keeps the demands that the last one relies on
    exact ih (h.selectMode mode editing g) (identity.selectMode mode editing g).2

end Identity

namespace Draft

/-- Two identities that were reached in any way, and that are those of one edited profile or of none: with
the same generator, selecting the generated mode makes them equal, and selecting the typed mode makes them
equal apart from the name of the credentials; the generators are equal, too.  Whatever modes are selected
before the generated one, and with whatever generators, it leads to one layout. -/
theorem mode_selection_erases_history (config config' : Config) (start start' draft draft' : Draft)
    (earlier earlier' events events' : List Event) (hstart : Started config earlier start)
    (hstart' : Started config' earlier' start') (hreached : Reached config start events draft)
    (hreached' : Reached config' start' events' draft') (hediting : draft.editing = draft'.editing) :
    let identity := draft.connection.identity
    let identity' := draft'.connection.identity
    (∀ g, identity.selectMode .auto draft.editing g = identity'.selectMode .auto draft'.editing g)
      ∧ (∀ g,
        let typed := identity.selectMode .custom draft.editing g
        let typed' := identity'.selectMode .custom draft'.editing g
        typed.2 = typed'.2
          ∧ { typed.1 with credentialsName := typed'.1.credentialsName } = typed'.1)
      ∧ ∀ modes g g', (identity.selectAll draft.editing (modes ++ [.auto]) g).1.layout
        = (identity'.selectMode .auto draft'.editing g').1.layout := by
  intro identity identity'
  have hwellFormed : identity.WellFormed := (hreached.wellFormed hstart.wellFormed).identity
  have hwellFormed' : identity'.WellFormed := (hreached'.wellFormed hstart'.wellFormed).identity
  refine ⟨fun g => ?_, fun g => ?_, fun modes g g' => ?_⟩
  · rw [Identity.selectMode_auto_eq hwellFormed, Identity.selectMode_auto_eq hwellFormed']
  · rw [Identity.selectMode_custom_eq hwellFormed, Identity.selectMode_custom_eq hwellFormed', hediting]
    exact ⟨rfl, rfl⟩
  · obtain ⟨drawn, hdrawn⟩ := Identity.selectAll_auto hwellFormed draft.editing modes g
    rw [hdrawn, Identity.selectMode_auto_eq hwellFormed', Identity.layout_generated,
      Identity.layout_generated]

/-- A draft that was linked to a gateway's credential forgets it: its identity ends like that of a draft that
nothing happened to. -/
theorem gateway_forgotten :
    let g : Generator := .ofStep 0 7
    let existing := Event.selectMode (.str "EXISTING")
    let attached := Event.changeReference (some gateway.record)
    ∃ linked, Reached Config.standard (first g) [attached, existing] linked
      ∧ linked.connection.identity ≠ (first g).connection.identity
      ∧ ∀ g', linked.connection.identity.selectMode .auto none g'
        = (first g).connection.identity.selectMode .auto none g' := by
  intro g existing attached
  have hmode : CredentialMode.ofJson (.str "EXISTING") = .ok .existing := by decide
  have hselected : Reached Config.standard (first g) [existing] _ := Reached.refl.selectMode hmode g
  have hlinked := hselected.attach gateway g
  have hstart : Started Config.standard [] (first g) := .begun (begun_first g)
  obtain ⟨hauto, -, -⟩ := mode_selection_erases_history Config.standard Config.standard (first g) (first g)
    _ (first g) [] [] _ [] hstart hstart hlinked .refl rfl
  exact ⟨_, hlinked, by decide +kernel, hauto⟩

end Draft

end MqttProfile
