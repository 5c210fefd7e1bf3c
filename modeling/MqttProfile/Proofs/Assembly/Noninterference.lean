import MqttProfile.Proofs.Assembly.Effects
import MqttProfile.Proofs.Assembly.Password

/-!
# The password stays out of the profile

Two drafts that differ in nothing but the password that was typed in cannot be told apart by what becomes
of them, as long as both passwords are more than blanks.  Of a password the check only asks whether it is
missing, and the merge whether trimming leaves anything of it; no call of a store is made of it.  So saving
makes the same calls, draws the same identifiers, and fails in the same way or ends in the same profile.
Only the password that is handed over beside the profile is each draft's own.

The `_withPassword` lemmas say this of each phase; `save_runsAlike` follows two runs side by side.
-/

namespace MqttProfile

variable {σ : Type}

namespace Draft

/-! ## Drafts that differ in the password -/

def withPassword (draft : Draft) (password : Json) : Draft :=
  let identity := draft.connection.identity
  draft.withIdentity { identity with password := identity.password.set password }

/-- Drafts that are the same once the password is taken out of both. -/
def SameButPassword (first second : Draft) : Prop :=
  first.withPassword .null = second.withPassword .null

theorem withPassword_withPassword (draft : Draft) (password other : Json) :
    (draft.withPassword password).withPassword other = draft.withPassword other := rfl

theorem withPassword_enteredPassword (draft : Draft) :
    draft.withPassword draft.enteredPassword = draft := rfl

/-- A draft that differs in nothing but the password is the other one with its own password. -/
theorem SameButPassword.eq_withPassword {first second : Draft} (h : SameButPassword first second) :
    second = first.withPassword second.enteredPassword := by
  calc second = (second.withPassword .null).withPassword second.enteredPassword := by
        rw [withPassword_withPassword, withPassword_enteredPassword]
    _ = (first.withPassword .null).withPassword second.enteredPassword := by rw [h]
    _ = first.withPassword second.enteredPassword := by rw [withPassword_withPassword]

/-! ## Each phase -/

section Phases

variable {draft : Draft} {password : Json}

/-- The check only asks whether the password is missing. -/
theorem check_withPassword (h : password.missing = draft.enteredPassword.missing) :
    (draft.withPassword password).check = draft.check := by
  have hdemand : ∀ field : Field Json, field.value.missing = password.missing →
      demandOpen .connection "password" (field.set password)
        = demandOpen .connection "password" field := by
    intro field hfield
    rw [demandOpen, demandOpen, demand, demand, hfield]
    rfl
  have hidentity : checkIdentity (draft.withPassword password).connection.identity
      = checkIdentity draft.connection.identity := by
    unfold checkIdentity
    dsimp only [withPassword, withIdentity]
    rw [hdemand _ h.symm]
    rfl
  have hconnection : checkConnection (draft.withPassword password).connection
      = checkConnection draft.connection := by
    unfold checkConnection
    rw [hidentity]
    rfl
  unfold check
  rw [hconnection]
  rfl

/-- The merge only asks whether trimming leaves anything of the password. -/
theorem merged_withPassword (h : password.trimmed.truthy = draft.enteredPassword.trimmed.truthy)
    (intervals : Intervals) (reference? : Option CredentialReference) (user : Option String)
    (g : Generator) :
    (draft.withPassword password).merged intervals reference? user g
      = draft.merged intervals reference? user g := by
  have hconfiguration : ∀ credentialsId clientId lastWill,
      (draft.withPassword password).configuration intervals credentialsId clientId lastWill
        = draft.configuration intervals credentialsId clientId lastWill := by
    intro credentialsId clientId lastWill
    dsimp only [configuration, withPassword, withIdentity, Field.set]
    rw [h]
    rfl
  unfold merged
  simp only [hconfiguration]
  rfl

end Phases

/-! ## Two runs side by side -/

/-- Two runs that leave the same behind and either fail in the same way or end in the same profile, each
with a password of its own. -/
structure RunsAlike {τ : Type} (password other : Json) (first second : Except Error Assembly × τ) :
    Prop where
  effects : first.2 = second.2
  outcome : (∃ error, first.1 = .error error ∧ second.1 = .error error)
    ∨ ∃ profile, first.1 = .ok ⟨profile, password⟩ ∧ second.1 = .ok ⟨profile, other⟩

theorem RunsAlike.of_error {τ : Type} (password other : Json) (error : Error) (rest : τ) :
    RunsAlike password other (.error error, rest) (.error error, rest) :=
  ⟨rfl, .inl ⟨error, rfl, rfl⟩⟩

/-- A store answers alike to drafts that were assembled alike. -/
theorem RunsAlike.of_answer {τ : Type} (password other : Json) (profile : Profile)
    (outcome : Except Error Profile) (rest : τ) :
    RunsAlike password other (Assembly.answer ⟨profile, password⟩ outcome, rest)
      (Assembly.answer ⟨profile, other⟩ outcome, rest) := by
  cases outcome with
  | error cause =>
    exact .of_error password other (.showing profile.name (.persistence profile.name cause)) rest
  | ok stored => exact ⟨rfl, .inr ⟨stored, rfl, rfl⟩⟩

/-- A draft that is saved with one password or another runs alike, if both are more than blanks. -/
theorem save_runsAlike {draft : Draft} {password other : String}
    (hentered : draft.enteredPassword = .str password) (hpassword : Json.Given (.str password))
    (hother : Json.Given (.str other)) (credentials : CredentialStore σ) (profiles : ProfileStore σ)
    (user : Option String) (g : Generator) (world : σ) :
    RunsAlike (.str password) (.str other) (draft.save credentials profiles user g world)
      ((draft.withPassword (.str other)).save credentials profiles user g world) := by
  have hmissing : (Json.str other).missing = draft.enteredPassword.missing := by
    rw [hentered, (Json.missing_eq_false_iff _).mpr hpassword, (Json.missing_eq_false_iff _).mpr hother]
  have htrimmed : (Json.str other).trimmed.truthy = draft.enteredPassword.trimmed.truthy := by
    rw [hentered, Json.trimmed, Json.trimmed, (Json.truthy_trim_iff _).mpr hpassword,
      (Json.truthy_trim_iff _).mpr hother]
  have hsameCheck := check_withPassword hmissing
  -- neither the credential nor the last will looks at the password
  have hsameLink : (draft.withPassword (.str other)).linkedReference credentials world
      = draft.linkedReference credentials world := rfl
  have hsameWill : (draft.withPassword (.str other)).willEncodable = draft.willEncodable := rfl
  cases draft.ends credentials world with
  | refused hcheck =>
    rw [save_of_check_error _ _ user g _ hcheck, save_of_check_error _ _ user g _ (hsameCheck.trans hcheck)]
    exact .of_error _ _ _ (g, world)
  | @unlinked _ _ world' hcheck hlinked =>
    rw [save_of_linked_error _ _ user g _ hcheck hlinked,
      save_of_linked_error _ _ user g _ (hsameCheck.trans hcheck) (hsameLink.trans hlinked)]
    exact .of_error _ _ _ (g, world')
  | @unencodable _ _ world' hcheck hlinked hencodable =>
    rw [save_of_not_encodable _ _ user g _ hcheck hlinked hencodable,
      save_of_not_encodable _ _ user g _ (hsameCheck.trans hcheck) (hsameLink.trans hlinked)
        (hsameWill.trans hencodable)]
    exact .of_error _ _ (.fault .badValue) (draft.generatorAfter g, world')
  | assembled hcheck hlinked hencodable =>
    have hassembled := assemble_of_linked credentials user g world hcheck hlinked hencodable
    have hassembled' := assemble_of_linked credentials user g world (hsameCheck.trans hcheck)
      (hsameLink.trans hlinked) (hsameWill.trans hencodable)
    -- both profiles are the same merge, and each password is handed over as it was typed
    have hown : draft.connection.identity.password.value.orNull = .str password := by
      rw [← hpassword.orNull_eq, ← hentered]
      rfl
    have hown' : (draft.withPassword (.str other)).connection.identity.password.value.orNull
        = .str other := hother.orNull_eq
    rw [hown] at hassembled
    rw [merged_withPassword htrimmed, hown'] at hassembled'
    rw [save_of_assemble _ _ user g _ hassembled, save_of_assemble _ _ user g _ hassembled']
    exact .of_answer _ _ _ _ _

/-- Saving two drafts that differ in nothing but the password runs alike, and makes the same calls of the
stores with the same arguments, if both passwords are more than blanks. -/
theorem save_independent_of_password (first second : Draft) (password other : String)
    (hsame : SameButPassword first second) (hfirst : first.enteredPassword = .str password)
    (hsecond : second.enteredPassword = .str other) (hpassword : Json.Given (.str password))
    (hother : Json.Given (.str other)) (credentials : CredentialStore σ) (profiles : ProfileStore σ)
    (user : Option String) (g : Generator) (world : σ) :
    RunsAlike (.str password) (.str other) (first.save credentials profiles user g world)
        (second.save credentials profiles user g world)
      ∧ RunsAlike (.str password) (.str other)
        (first.recordedSave credentials profiles user g world)
        (second.recordedSave credentials profiles user g world) := by
  rw [hsame.eq_withPassword, hsecond]
  constructor
  · exact save_runsAlike hfirst hpassword hother credentials profiles user g world
  · exact save_runsAlike hfirst hpassword hother credentials.recorded profiles.recorded user g
      ([], world)

/-- Two passwords that are typed in go with the same profile, each as it was typed. -/
theorem typed_passwords_share_profile :
    let g : Generator := .ofStep 0 7
    let draft := withBlankPassword g
    let profiles : ProfileStore Unit := ⟨fun profile world => (.ok profile, world)⟩
    ∃ profile,
      ((draft.withPassword (.str "secret")).save (.broken "") profiles none g ()).1
          = .ok ⟨profile, .str "secret"⟩
        ∧ ((draft.withPassword (.str " other ")).save (.broken "") profiles none g ()).1
          = .ok ⟨profile, .str " other "⟩ := by
  intro g draft profiles
  obtain ⟨halike, -⟩ := save_independent_of_password (draft.withPassword (.str "secret"))
    (draft.withPassword (.str " other ")) "secret" " other " rfl rfl rfl
    ((Json.given_str_iff _).mpr (by decide)) ((Json.given_str_iff _).mpr (by decide)) (.broken "")
    profiles none g ()
  have hcheck : (draft.withPassword (.str "secret")).check = .ok ⟨60, 30000, 1000⟩ := by
    decide +kernel
  have hmode : (draft.withPassword (.str "secret")).credentialMode ≠ .auto := by decide
  have hassembled := assemble_of_linked (.broken "") none g () hcheck
    (linkedReference_of_ne_auto (.broken "") hmode ()) rfl
  rcases halike.outcome with ⟨error, hfailed, -⟩ | hsaved
  · rw [save_of_assemble _ profiles none g () hassembled] at hfailed
    cases hfailed
  · exact hsaved

end Draft

end MqttProfile
