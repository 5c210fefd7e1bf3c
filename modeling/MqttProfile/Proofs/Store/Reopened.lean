import MqttProfile.Proofs.Assembly.Settled
import MqttProfile.Proofs.Store.Memory
import MqttProfile.Proofs.Transport

/-!
# Saving, opening and assembling again

A profile that was saved from a new draft is opened as a draft that restores it, with the credential that
was issued for it attached, and is assembled to the same profile again.  Only the record of a password is
lost, for no password is stored with a profile.
-/

namespace MqttProfile

namespace Draft

/-! ## Identities of opened profiles -/

/-- Typing in the identity of a profile without a credential restores it. -/
theorem restoresIdentity_selectCustom {profile : Profile} (identity : Identity) (g : Generator)
    (hlink : profile.configuration.clientCredentialsId = .null)
    (hclient : profile.configuration.clientId.IsText ∧ profile.configuration.clientId.truthy = true
      ∧ profile.configuration.clientId.trimmed = profile.configuration.clientId)
    (husername : profile.configuration.username.orNull = profile.configuration.username) :
    RestoresIdentity (identity.selectMode .custom (some profile) g).1 profile.configuration := by
  have hstored : Identity.storedClientId (some profile) = profile.configuration.clientId := by
    rw [Identity.storedClientId, Json.orNull, Json.orElse_of_truthy hclient.2.1]
  have hvalue : (identity.selectMode .custom (some profile) g).1.clientId.value
      = profile.configuration.clientId := by
    simp only [Identity.selectMode, Identity.selectCustom, Identity.demandPassword, hstored,
      Identity.clientIdOrDrawn, hclient.2.1, if_true]
    rfl
  have hgiven : profile.configuration.clientId.Given := by
    rw [← hclient.1.truthy_trimmed_iff, hclient.2.2]
    exact hclient.2.1
  constructor
  · intro hauto
    cases hauto
  · constructor
    · intro hauto
      cases hauto
    · intro _ _
      rw [hvalue]
      exact hgiven
    · intro _ _ hrequired
      cases hrequired
    · intro hexisting
      cases hexisting
  · exact hvalue
  · exact husername
  · rfl
  · exact hlink.symm

/-- Attaching the credential of a profile restores its identity. -/
theorem restoresIdentity_attach {c : Configuration} {identity : Identity}
    (hmode : identity.mode = .existing) (credential : LinkedCredential) (editing : Option Profile)
    (g : Generator) (hlink : c.clientCredentialsId = .str credential.record.id)
    (hclient : credential.clientId = c.clientId) (htruthy : c.clientId.truthy = true)
    (huser : credential.userName = c.username) (hpassword : credential.hasPassword = false) :
    RestoresIdentity (identity.attach (some credential) editing g).1 c := by
  have hknown : credential.clientId.truthy = true := by
    rw [hclient]
    exact htruthy
  have hfilled : (identity.attach (some credential) editing g).1.clientId
      = (identity.clientId.set credential.clientId).lock := by
    simp only [Identity.attach, Identity.demandPassword, Json.orElse_of_truthy hknown,
      Identity.clientIdOrDrawn, hknown, if_true]
  have hexisting : (identity.attach (some credential) editing g).1.mode ≠ .auto := by
    show identity.mode ≠ .auto
    rw [hmode]
    decide
  constructor
  · exact hexisting
  · constructor
    · intro hauto
      exact absurd hauto hexisting
    · intro _ henabled
      rw [hfilled] at henabled
      cases henabled
    · intro _ _ hrequired
      have hnone : (identity.attach (some credential) editing g).1.password.required
          = credential.hasPassword := rfl
      rw [hnone, hpassword] at hrequired
      cases hrequired
    · intro _ hnone
      cases hnone
  · rw [hfilled]
    exact hclient
  · exact huser
  · rfl
  · exact hlink.symm

/-! ## Opened profiles -/

theorem exists_transport {url : Json} (h : url.IsText) :
    ∃ transport, Transport.ofUrl url = .ok transport := by
  cases url with
  | null => exact ⟨.plain, rfl⟩
  | str s => exact ⟨_, Transport.ofUrl_str s⟩
  | bool _ | int _ | float _ | arr _ | obj _ => exact h.elim

/-- The last will of a settled configuration can be opened. -/
theorem exists_storedWill {c : Configuration} (h : c.Settled) :
    ∃ lastWill, storedWill c = .ok lastWill := by
  rw [storedWill]
  cases hmessage : c.lastWill with
  | none => exact ⟨none, rfl⟩
  | some message =>
    obtain ⟨will, hopen, -, -⟩ := h.lastWill message hmessage
    dsimp only
    rw [hopen]
    exact ⟨some will, rfl⟩

/-- An opened draft restores its profile as soon as its identity does. -/
theorem restores_hydrated {config : Config} {pageIsSecure : Bool} {profile : Profile} {g : Generator}
    {transport : Transport} {lastWill : Option LastWill} {initial identity : Identity}
    (hopened : (Draft.ofProfile config pageIsSecure profile g).1
      = .ok (hydrated config pageIsSecure profile transport initial lastWill))
    (hwill : storedWill profile.configuration = .ok lastWill) (hidentity : identity.WellFormed)
    (hrestores : RestoresIdentity identity profile.configuration) :
    (hydrated config pageIsSecure profile transport identity lastWill).Restores profile where
  wellFormed := { wellFormed_of_ofProfile hopened with identity := hidentity }
  editing := rfl
  name := rfl
  url := rfl
  rejectUnauthorized := rfl
  identity := hrestores
  advanced := rfl
  lastWill := hwill
  userProperties := rfl

variable {σ : Type}

/-- A settled profile without a credential is opened as a draft that restores it. -/
theorem exists_restores_of_unlinked (config : Config) (store : CredentialStore σ) (pageIsSecure : Bool)
    {profile : Profile} (g : Generator) (world : σ) (hsettled : profile.configuration.Settled)
    (hlink : profile.configuration.clientCredentialsId = .null)
    (husername : profile.configuration.username.orNull = profile.configuration.username) :
    ∃ draft g', Draft.openProfile config store pageIsSecure profile g world = (.ok draft, g', world)
      ∧ draft.Restores profile := by
  obtain ⟨transport, htransport⟩ := exists_transport hsettled.url.1
  obtain ⟨lastWill, hwill⟩ := exists_storedWill hsettled
  have hopened := ofProfile_of_read config pageIsSecure g htransport hwill
  have hmode : CredentialMode.initial (some profile) = .custom := by
    rw [CredentialMode.initial, if_pos hlink]
  have hidentity : RestoresIdentity (Identity.initial (some profile) g).1 profile.configuration := by
    rw [Identity.initial, hmode]
    exact restoresIdentity_selectCustom _ _ hlink hsettled.clientId husername
  have hrestores := restores_hydrated (congrArg Prod.fst hopened) hwill
    (Identity.wellFormed_initial (some profile) g) hidentity
  have hopen : Draft.openProfile config store pageIsSecure profile g world
      = (.ok (hydrated config pageIsSecure profile transport (Identity.initial (some profile) g).1
          lastWill), (Identity.initial (some profile) g).2, world) := by
    rw [openProfile, hopened]
    dsimp only
    rw [if_pos hlink]
  exact ⟨_, _, hopen, hrestores⟩

/-- A settled profile whose credential is found is opened as a draft that restores it. -/
theorem exists_restores_of_linked (config : Config) (store : CredentialStore σ) (pageIsSecure : Bool)
    {profile : Profile} (g : Generator) (world : σ) (hsettled : profile.configuration.Settled)
    (credential : LinkedCredential)
    (hlink : profile.configuration.clientCredentialsId = .str credential.record.id)
    (hfetch : store.fetch (.str credential.record.id) world = (.ok credential.record, world))
    (hclient : credential.clientId = profile.configuration.clientId)
    (huser : credential.userName = profile.configuration.username)
    (hpassword : credential.hasPassword = false) :
    ∃ draft g', Draft.openProfile config store pageIsSecure profile g world = (.ok draft, g', world)
      ∧ draft.Restores profile := by
  obtain ⟨transport, htransport⟩ := exists_transport hsettled.url.1
  obtain ⟨lastWill, hwill⟩ := exists_storedWill hsettled
  have hopened := ofProfile_of_read config pageIsSecure g htransport hwill
  have hne : profile.configuration.clientCredentialsId ≠ .null := by
    rw [hlink]
    intro hnull
    cases hnull
  have hmode : (Identity.initial (some profile) g).1.mode = .existing := by
    rw [Identity.initial, CredentialMode.initial, if_neg hne]
    rfl
  obtain ⟨initial, g₁, hinitial⟩ :
      ∃ initial g₁, Identity.initial (some profile) g = (initial, g₁) := ⟨_, _, rfl⟩
  have hwellFormed := Identity.wellFormed_initial (some profile) g
  rw [hinitial] at hopened hmode hwellFormed
  have hidentity := restoresIdentity_attach hmode credential (some profile) g₁ hlink hclient
    hsettled.clientId.2.1 huser hpassword
  have hrestores := restores_hydrated (congrArg Prod.fst hopened) hwill
    (hwellFormed.attach (some credential) (some profile) g₁) hidentity
  have hopen : Draft.openProfile config store pageIsSecure profile g world
      = (.ok (hydrated config pageIsSecure profile transport
          (initial.attach (some credential) (some profile) g₁).1 lastWill),
        (initial.attach (some credential) (some profile) g₁).2, world) := by
    rw [openProfile, hopened]
    dsimp only
    rw [if_neg hne, hlink, hfetch]
    dsimp only
    rw [changeReference]
    dsimp only
    rw [CredentialReference.link_eq_ok credential.decode_eq]
    rfl
  exact ⟨_, _, hopen, hrestores⟩

/-! ## Saved profiles -/

/-- A new draft that is saved in memory has passed its check and has no last will that cannot be encoded, and
its profile is the merged one with an identifier and a time of creation.  Saving it adds no credential to those
that the link is from. -/
theorem save_memory_of_new {supply : Supply} {credentials : CredentialStore Memory}
    {user : Option String} {draft : Draft} {g g' : Generator} {memory memory' : Memory}
    {saved : Assembly} (hediting : draft.editing = none)
    (h : draft.save credentials (Memory.profileStore supply) user g memory = (.ok saved, g', memory')) :
    ∃ intervals reference? before id createdTime,
      draft.check = .ok intervals
        ∧ draft.linkedReference credentials memory = (.ok reference?, before)
        ∧ draft.willEncodable = true
        ∧ saved.profile =
          { name := draft.connection.name.value.trimmed
            configuration :=
              draft.configuration intervals (linkTo reference?) (draft.assembledClientId g).1
                draft.willMessage?
            id, userId := user, createdTime }
        ∧ memory'.credentials = before.credentials := by
  obtain ⟨assembly, before, hassemble, hprofile, rfl⟩ := save_memory_ok h
  obtain ⟨intervals, reference?, hcheck, hlinked, hencodable, rfl, -⟩ :=
    (assemble_eq_ok_iff _ user draft g _ memory before assembly).mp hassemble
  obtain ⟨⟨id, createdTime, hcompleted⟩, hcredentials⟩ := Memory.exists_save_eq supply
    (draft.merged intervals reference? user g) before
  rw [hcompleted, merged_of_new hediting] at hprofile
  exact ⟨intervals, reference?, before, id, createdTime, hcheck, hlinked, hencodable, hprofile, hcredentials⟩

/-- A profile that was saved in memory from a new draft, with its identity generated or typed in, is
opened again without failing, wherever and by whomever, and the draft that is opened is assembled to the
same profile, except that no password is recorded.  The memory stays as it is, so no credential is issued
once more. -/
theorem saved_profile_restored (config : Config) (pageIsSecure : Bool) (connections : Int)
    (g₀ : Generator) (events : List Event) (draft : Draft) (supply : Supply) (user : Option String)
    (g₁ g₂ : Generator) (memory memory' : Memory) (saved : Assembly) (start : Draft)
    (hstart : (Draft.new config pageIsSecure connections g₀).1 = .ok start)
    (hreached : Reached config start events draft)
    (hmode : draft.credentialMode = .auto
      ∨ draft.credentialMode = .custom ∧ draft.connection.identity.reference.value = none)
    (hrestorable : draft.Restorable)
    (hsave : draft.save (Memory.credentialStore supply) (Memory.profileStore supply) user g₁ memory
      = (.ok saved, g₂, memory')) :
    ∀ (config' : Config) (pageIsSecure' : Bool) (user' : Option String) (g₃ : Generator),
      ∃ reopened g₄,
        Draft.openProfile config' (Memory.credentialStore supply) pageIsSecure' saved.profile g₃ memory'
            = (.ok reopened, g₄, memory')
          ∧ ∀ g₅, reopened.assemble (Memory.credentialStore supply) user' g₅ memory'
            = (.ok ⟨withoutPassword saved.profile, .null⟩, g₅, memory') := by
  intro config' pageIsSecure' user' g₃
  have hwellFormed := hreached.wellFormed (wellFormed_of_new hstart)
  have hediting : draft.editing = none := by
    obtain ⟨name, -, -, rfl⟩ := new_ok hstart
    exact hreached.editing_eq
  obtain ⟨intervals, reference?, before, id, createdTime, hcheck, hlinked, hencodable, hprofile,
      hcredentials⟩ :=
    save_memory_of_new hediting hsave
  obtain ⟨hconnection, -, -⟩ := (check_eq_ok_iff draft intervals).mp hcheck
  obtain ⟨hname, -, hidentity⟩ := ((checks_connection hwellFormed).passes ()).mp hconnection
  rw [hprofile]
  have hsettled := settled_configuration hwellFormed hediting hcheck hencodable hrestorable
    (linkTo reference?) g₁
  -- what was saved is settled, so it is enough to open a draft that restores it
  suffices hopens : ∃ reopened g₄, Draft.openProfile config' (Memory.credentialStore supply)
      pageIsSecure' _ g₃ memory' = (.ok reopened, g₄, memory') ∧ reopened.Restores _ by
    obtain ⟨reopened, g₄, hopen, hrestores⟩ := hopens
    exact ⟨reopened, g₄, hopen, fun g₅ => assemble_of_restores _ user' hrestores
      ((Json.given_trimmed_iff _).mpr hname) (Json.trimmed_trimmed _) hsettled g₅ _⟩
  rcases hmode with hauto | ⟨hcustom, hnone⟩
  · -- the issued credential is found again and names the client of the profile
    rw [linkedReference_memory supply hauto hrestorable.clientId hrestorable.username] at hlinked
    cases hlinked
    have htruthy : draft.connection.identity.clientId.value.trimmed.truthy = true :=
      hrestorable.clientId.truthy_trimmed_iff.mpr (hidentity.generated hauto).2
    obtain ⟨credential, hrecord, hnamed, huserName, hnopassword⟩ := Memory.exists_linked_nextRecord supply
      draft.connection.identity.credentialsName.value.trimmed memory hrestorable.clientId.trimmed
      hrestorable.username.trimmed
    refine exists_restores_of_linked config' _ pageIsSecure' g₃ _ hsettled credential ?_ ?_ ?_ huserName
      hnopassword
    · rw [hrecord]
      rfl
    · rw [hrecord]
      exact congrArg (·, memory') (Memory.fetch_nextRecord supply _ _ _ memory memory' hcredentials)
    · show credential.clientId = (draft.assembledClientId g₁).1
      rw [assembledClientId_of_truthy g₁ htruthy, hnamed]
      exact Json.orElse_of_truthy htruthy .null
  · rw [linkedReference_of_ne_auto _ (by rw [hcustom]; decide), hnone] at hlinked
    cases hlinked
    refine exists_restores_of_unlinked config' _ pageIsSecure' g₃ _ hsettled rfl ?_
    -- a user name that was typed in is null or more than blanks
    show draft.connection.identity.username.value.trimmed.orNull
      = draft.connection.identity.username.value.trimmed
    rcases hrestorable.typedUsername hcustom with hnull | hgiven
    · rw [hnull]
      rfl
    · exact Json.orElse_of_truthy (hrestorable.username.truthy_trimmed_iff.mpr hgiven) .null

/-- A first draft with a last will that announces an object. -/
def withReport (g : Generator) : Draft :=
  { first g with
    lastWill := some ⟨.str " status ", .obj [("online", .bool false)], .int 1, .bool true, .none⟩ }

/-- Identifiers that only count, and a clock that stands still. -/
def countingSupply : Supply where
  id n := Text.decimal n
  time _ := 0

/-- Its profile is restored, with the credential that was issued for it. -/
theorem report_profile_restored :
    ∃ saved g₂ memory',
      (withReport (.ofStep 0 7)).save (Memory.credentialStore countingSupply)
          (Memory.profileStore countingSupply) none (.ofStep 0 7) (.ofCredentials [])
        = (.ok saved, g₂, memory')
      ∧ ∃ reopened g₄,
        Draft.openProfile Config.standard (Memory.credentialStore countingSupply) false saved.profile
            (.ofStep 0 7) memory' = (.ok reopened, g₄, memory')
          ∧ reopened.assemble (Memory.credentialStore countingSupply) none g₄ memory'
            = (.ok ⟨withoutPassword saved.profile, .null⟩, g₄, memory') := by
  let g : Generator := .ofStep 0 7
  let event : Event := .editLastWill (withReport g).lastWill
  have hreached : Reached Config.standard (first g) [event] (withReport g) :=
    Reached.refl.step (g := g) rfl
  have hrestorable : (withReport g).Restorable := by
    constructor
    · trivial
    · trivial
    · trivial
    · intro hcustom
      cases hcustom
    · decide
    · decide
    · decide
    · decide
    · decide
    · rintro will ⟨⟩ -
      exact ⟨by decide, trivial, trivial⟩
  have hcheck : (withReport g).check = .ok ⟨60, 30000, 1000⟩ := by decide +kernel
  have hlinked := linkedReference_memory countingSupply (show (withReport g).credentialMode = .auto from rfl)
    hrestorable.clientId hrestorable.username (.ofCredentials [])
  have hassemble := assemble_of_linked _ none g (Memory.ofCredentials []) hcheck hlinked rfl
  have hsave := save_memory_of_assemble countingSupply hassemble
  obtain ⟨reopened, g₄, hopen, hagain⟩ := saved_profile_restored Config.standard false 0 g [event]
    (withReport g) countingSupply none g _ _ _ _ _ (new_standard g) hreached (.inl rfl) hrestorable hsave Config.standard
    false none g
  exact ⟨_, _, _, hsave, reopened, g₄, hopen, hagain g₄⟩

end Draft

end MqttProfile
