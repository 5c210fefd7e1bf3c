import MqttProfile.Proofs.Draft.Repeating
import MqttProfile.Proofs.Identifier

/-!
# What events draw

Generated identifiers are drawn character by character from a generator that is shared by everything that
happens to a draft.  So that a run can be repeated from a seed it has to be known how much each event draws.  An
event that fails draws nothing, for all that can fail is read before the first character is drawn; one that
succeeds draws a number of characters that depends on the draft and the event, and not on the generator.

* `drawCount` is that number;
* `fails_or_draws` is the step: an event either fails and leaves the generator or succeeds and moves it on by
  that number, shown for each of the three kinds of events that may draw;
* `generator_after_event` says this of events, with what the generator has counted.
-/

namespace MqttProfile

/-- What an outcome leaves of a generator: a failure leaves it as it was, and a success moves it on by a number
of characters. -/
inductive FailsOrDraws {α : Type} (g : Generator) (count : Nat) : Except Error α × Generator → Prop
  | fails (error : Error) : FailsOrDraws g count (.error error, g)
  | draws (result : α) : FailsOrDraws g count (.ok result, g.after count)

theorem FailsOrDraws.map {α β : Type} {g : Generator} {count : Nat} {outcome : Except Error α × Generator}
    (h : FailsOrDraws g count outcome) (f : α → β) : FailsOrDraws g count (outcome.1.map f, outcome.2) := by
  cases h with
  | fails error => exact .fails error
  | draws result => exact .draws (f result)

namespace Identity

/-! ## Identities -/

/-- The number of characters that are drawn for a client identifier: none if there is one. -/
def clientIdCount (known : Bool) : Nat :=
  if known then 0 else 8

theorem generator_clientIdOrDrawn (clientId : Json) (g : Generator) :
    (clientIdOrDrawn clientId g).2 = g.after (clientIdCount clientId.truthy) := by
  cases htruthy : clientId.truthy with
  | true => rw [clientIdOrDrawn_of_truthy htruthy]; rfl
  | false => rw [clientIdOrDrawn_of_not_truthy htruthy, Generator.generator_clientId]; rfl

/-- The number of characters that selecting a mode draws, where the edited profile has a client identifier or
has none.  A generated identity takes a name of credentials, a client identifier and a user name. -/
def selectCount (stored : Bool) : CredentialMode → Nat
  | .auto => 21
  | .custom => clientIdCount stored
  | .existing => 0

/-- Selecting a mode draws as many. -/
theorem generator_selectMode (identity : Identity) (mode : CredentialMode) (editing : Option Profile)
    (g : Generator) :
    (identity.selectMode mode editing g).2 = g.after (selectCount (storedClientId editing).truthy mode) := by
  cases mode with
  | auto =>
    simp only [selectMode, selectAuto, Generator.generator_credentialsName, Generator.generator_clientId,
      Generator.generator_username, Generator.after_after, selectCount]
  | custom => simp only [selectMode, selectCustom, generator_clientIdOrDrawn, selectCount]
  | existing => simp only [selectMode, selectCount, Generator.after, Generator.drawMany]

/-- Attaching a credential draws a client identifier if neither the credential nor the edited profile has one. -/
theorem generator_attach (identity : Identity) (credential : LinkedCredential) (editing : Option Profile)
    (g : Generator) :
    (identity.attach (some credential) editing g).2
      = g.after (clientIdCount (credential.clientId.truthy || (storedClientId editing).truthy)) := by
  rw [attach_some, generator_clientIdOrDrawn, knownClientId, Json.truthy_orElse]

/-- The number of characters that are generated anew for a field. -/
def regenerateCount (field : String) : Nat :=
  if field = "credentials_name" then 5 else if field = "client_id" ∨ field = "username" then 8 else 0

/-- Generating a field anew draws its characters, and what is no such field draws none. -/
theorem regenerate_failsOrDraws (identity : Identity) (field : String) (g : Generator) :
    FailsOrDraws g (regenerateCount field) (identity.regenerate field g) := by
  unfold regenerate
  split
  · exact .draws _
  · exact .draws _
  · exact .draws _
  · exact .fails _

end Identity

namespace Draft

open Identity

/-! ## Events -/

/-- The number of characters that an event draws when it succeeds. -/
def drawCount (draft : Draft) : Event → Nat
  | .selectMode value =>
    match CredentialMode.ofJson value with
    | .ok mode => selectCount (storedClientId draft.editing).truthy mode
    | .error _ => 0
  | .changeReference (some reference) =>
    match reference.decode with
    | .ok decoded =>
      clientIdCount ((Credentials.clientId decoded).truthy || (storedClientId draft.editing).truthy)
    | .error _ => 0
  | .regenerate field => regenerateCount field.display
  | _ => 0

theorem drawCount_of_not_draws {event : Event} (h : event.mayDraw = false) (draft : Draft) :
    draft.drawCount event = 0 := by
  cases event with
  | selectMode _ | changeReference _ | regenerate _ => cases h
  | _ => rfl

/-- Selecting a mode fails before it draws. -/
theorem selectMode_failsOrDraws (draft : Draft) (value : Json) (g : Generator) :
    FailsOrDraws g (draft.drawCount (.selectMode value)) (draft.selectMode value g) := by
  rw [Draft.selectMode, drawCount]
  cases CredentialMode.ofJson value with
  | error fault => exact .fails _
  | ok mode =>
    dsimp only
    rw [Identity.generator_selectMode]
    exact .draws _

/-- Changing the credential fails before it draws: only a text that cannot be decoded makes it fail, and once it
was decoded it is read again without failing. -/
theorem changeReference_failsOrDraws (draft : Draft) (reference? : Option CredentialReference) (g : Generator) :
    FailsOrDraws g (draft.drawCount (.changeReference reference?)) (draft.changeReference reference? g) := by
  cases reference? with
  | none => exact .draws _
  | some reference =>
    rw [changeReference, drawCount]
    cases hdecode : reference.decode with
    | error fault =>
      rw [CredentialReference.link_eq_error hdecode]
      exact .fails _
    | ok decoded =>
      rw [CredentialReference.link_eq_ok hdecode]
      dsimp only [attach]
      rw [generator_attach]
      exact .draws _

/-- A field is generated anew if it has a name, and a field that cannot be shown has none. -/
theorem regenerate_failsOrDraws (draft : Draft) (field : Json) (g : Generator) :
    FailsOrDraws g (draft.drawCount (.regenerate field)) (draft.regenerate field g) := by
  rw [Draft.regenerate, drawCount]
  cases hname : field.shown with
  | error fault => exact .fails _
  | ok name =>
    rw [Json.eq_display_of_shown hname]
    exact (Identity.regenerate_failsOrDraws draft.connection.identity field.display g).map draft.withIdentity

/-- An event fails and leaves the generator, or it succeeds and draws the number of characters that follows from
the draft and the event. -/
theorem fails_or_draws (config : Config) (draft : Draft) (event : Event) (g : Generator) :
    FailsOrDraws g (draft.drawCount event) (draft.apply config event g) := by
  cases hdraws : event.mayDraw with
  | false =>
    rw [apply_of_not_draws hdraws draft g g, drawCount_of_not_draws hdraws]
    cases (draft.apply config event g).1 with
    | error error => exact .fails error
    | ok next => exact .draws next
  | true =>
    cases event with
    | selectMode value => exact selectMode_failsOrDraws draft value g
    | changeReference reference? => exact changeReference_failsOrDraws draft reference? g
    | regenerate field => exact regenerate_failsOrDraws draft field g
    | _ => cases hdraws

/-- An event that fails leaves the generator as it was.  One that succeeds draws the number of characters that
follows from the draft and the event: the generator is left as it is behind so many draws, and has counted
them. -/
theorem generator_after_event (config : Config) (draft : Draft) (event : Event) (g : Generator) :
    (∀ error, (draft.apply config event g).1 = .error error → (draft.apply config event g).2 = g)
      ∧ ∀ next, (draft.apply config event g).1 = .ok next →
        (draft.apply config event g).2 = g.after (draft.drawCount event)
          ∧ (draft.apply config event g).2.drawn = g.drawn + draft.drawCount event := by
  have hstep := fails_or_draws config draft event g
  generalize draft.apply config event g = outcome at hstep
  cases hstep with
  | fails error => exact ⟨fun _ _ => rfl, fun _ hnext => nomatch hnext⟩
  | draws next => exact ⟨fun _ herror => (nomatch herror), fun _ _ => ⟨rfl, g.drawn_after _⟩⟩

/-- A draft that starts afresh draws a whole identity when the generated mode is selected for it, nothing when a
credential is attached whose text is no JSON, and a client identifier when one is attached that names no
client. -/
theorem gateway_draws_client :
    let draft := first (.ofStep 0 7)
    let g : Generator := .ofStep 0 7
    let stray := Event.changeReference (some ⟨"c1", .str "Stray", .str "\x7b"⟩)
    (draft.apply Config.standard (.selectMode (.str "AUTO")) g).2.drawn = 21
      ∧ (draft.apply Config.standard stray g).1 = .error (.fault .malformedJson)
      ∧ (draft.apply Config.standard stray g).2 = g
      ∧ (draft.apply Config.standard (.changeReference (some gateway.record)) g).2.drawn = 8 := by
  intro draft g stray
  have hstray : (draft.apply Config.standard stray g).1 = .error (.fault .malformedJson) := by decide +kernel
  have hattached := apply_attach Config.standard draft gateway g
  have hcount : draft.drawCount (.changeReference (some gateway.record)) = 8 := by decide +kernel
  obtain ⟨-, hauto⟩ := generator_after_event Config.standard draft (.selectMode (.str "AUTO")) g
  obtain ⟨hunread, -⟩ := generator_after_event Config.standard draft stray g
  obtain ⟨-, hgateway⟩ := generator_after_event Config.standard draft (.changeReference (some gateway.record)) g
  refine ⟨(hauto _ rfl).2, hstray, hunread _ hstray, ?_⟩
  rw [(hgateway _ hattached).2, hcount]
  rfl

end Draft

end MqttProfile
