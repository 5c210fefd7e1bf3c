import MqttProfile.Proofs.Assembly.Outcome
import MqttProfile.Proofs.Draft.Reached

/-!
# The password beside a profile

A profile only records whether it needs a password; the password itself is handed over beside it, as it
was typed.  The record is made from the trimmed password and the hand-over from the typed one.  The two
agree on every password but one kind: a text of blanks is handed over although the profile says that it
needs none.
-/

namespace MqttProfile

namespace Draft

variable {σ : Type}

/-- The password as it was entered. -/
def enteredPassword (draft : Draft) : Json :=
  draft.connection.identity.password.value

/-- A profile records a password exactly when one was given, that is when trimming leaves something. -/
theorem assembled_passwordRequired {store : CredentialStore σ} {user : Option String} {draft : Draft}
    {g : Generator} {world : σ} {assembly : Assembly}
    (h : (draft.assemble store user g world).1 = .ok assembly) :
    assembly.profile.configuration.passwordRequired = draft.enteredPassword.trimmed.truthy := by
  obtain ⟨intervals, reference?, -, -, -, rfl, -⟩ :=
    (assemble_eq_ok_iff store user draft g _ world _ assembly).mp (Prod.ext h rfl)
  rw [merged_configuration]
  rfl

/-- The password is handed over as it was entered, an empty one as null. -/
theorem assembled_password {store : CredentialStore σ} {user : Option String} {draft : Draft}
    {g : Generator} {world : σ} {assembly : Assembly}
    (h : (draft.assemble store user g world).1 = .ok assembly) :
    assembly.password = draft.enteredPassword.orNull := by
  obtain ⟨intervals, reference?, -, -, -, rfl, -⟩ :=
    (assemble_eq_ok_iff store user draft g _ world _ assembly).mp (Prod.ext h rfl)
  rfl

/-- A profile records a password exactly when the one that was entered is more than blanks, and one is
handed over exactly when the entered one is not empty.  So the record and the hand-over agree unless a
text of blanks was entered. -/
theorem passwordRequired_iff_handed_over (store : CredentialStore σ) (user : Option String)
    (draft : Draft) (g : Generator) (world : σ) (assembly : Assembly)
    (htext : draft.enteredPassword.IsText)
    (h : (draft.assemble store user g world).1 = .ok assembly) :
    (assembly.profile.configuration.passwordRequired = true ↔ draft.enteredPassword.Given)
      ∧ (assembly.password ≠ .null ↔ ∃ s, draft.enteredPassword = .str s ∧ s ≠ "")
      ∧ ((assembly.profile.configuration.passwordRequired = true ↔ assembly.password ≠ .null)
        ↔ ¬ ∃ s, draft.enteredPassword = .str s ∧ s ≠ "" ∧ Text.blank s = true) := by
  have hflag : assembly.profile.configuration.passwordRequired = true
      ↔ draft.enteredPassword.Given := by
    rw [assembled_passwordRequired h, htext.truthy_trimmed_iff]
  have hgiven : assembly.password ≠ .null ↔ ∃ s, draft.enteredPassword = .str s ∧ s ≠ "" := by
    rw [assembled_password h, htext.orNull_ne_null_iff]
  refine ⟨hflag, hgiven, ?_⟩
  rw [hflag, hgiven]
  constructor
  · intro hagree hexists
    rcases hexists with ⟨s, hs, hne, hblank⟩
    -- blanks would be handed over, so they would have to be recorded
    have hentered := hagree.mpr ⟨s, hs, hne⟩
    rw [hs, Json.given_str_iff, hblank] at hentered
    cases hentered
  · intro hno
    constructor
    · intro hentered
      obtain ⟨s, hs, hgiven⟩ := htext.exists_str hentered
      exact ⟨s, hs, hgiven.ne_empty⟩
    · intro hexists
      rcases hexists with ⟨s, hs, hne⟩
      rw [hs, Json.given_str_iff]
      by_contra hblank
      exact hno ⟨s, hs, hne, by rwa [Bool.not_eq_false] at hblank⟩

/-- A first draft with the identity typed in, and blanks for a password. -/
def withBlankPassword (g : Generator) : Draft :=
  let typed := (first g).withIdentity ((first g).connection.identity.selectMode .custom none g).1
  typed.editConnectionField .password (.str "  ")

/-- A password of blanks is handed over beside a profile that records none. -/
theorem blank_password_handed_over :
    ∃ assembly,
      ((withBlankPassword (.ofStep 0 7)).assemble (CredentialStore.broken (σ := Unit) "") none
          (.ofStep 0 7) ()).1 = .ok assembly
        ∧ assembly.profile.configuration.passwordRequired = false
        ∧ assembly.password ≠ .null := by
  let g : Generator := .ofStep 0 7
  have hentered : (withBlankPassword g).enteredPassword = .str "  " := rfl
  have hcheck : (withBlankPassword g).check = .ok ⟨60, 30000, 1000⟩ := by decide +kernel
  have hok := assemble_of_ne_auto (CredentialStore.broken (σ := Unit) "") none g () (by decide) hcheck rfl
  obtain ⟨hflag, hgiven, -⟩ := passwordRequired_iff_handed_over _ none (withBlankPassword g) g () _
    (by rw [hentered]; trivial) hok
  refine ⟨_, hok, ?_, ?_⟩
  · rw [← Bool.not_eq_true, hflag, hentered, Json.given_str_iff]
    decide
  · exact hgiven.mpr ⟨"  ", hentered, by decide⟩

end Draft

end MqttProfile
