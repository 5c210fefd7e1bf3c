import MqttProfile.Proofs.Password.Satisfiable

/-!
# Stricter and more relaxed policies

Every rule of a policy has a limit of its own, and each of them can be broken alone.  So the order of the limits
is the order of the reports: a policy is no stricter than another one exactly if, whatever the password, it finds
nothing that the other one does not find.  What the rules look at in a password is its `Makeup`, in which the
order of the characters has no place.

* `demand_imp_iff` and `tooLong_imp_iff` compare two limits of a rule;
* `noStricterThan_iff` compares two policies;
* `breaks_congr` says that nothing but the makeup of a password counts.
-/

namespace MqttProfile

namespace PasswordPolicy

/-! ## Comparing rules -/

/-- Where every count may occur, whatever falls short of one minimum falls short of another one exactly if the
other one demands no less. -/
theorem demand_imp_iff {count : List Char → Nat} (hcount : ∀ n, ∃ password, count password = n)
    (relaxed strict : Option Int) :
    (∀ password, decide (count password < demand relaxed) = true → decide (count password < demand strict) = true)
      ↔ effective relaxed ≤ effective strict := by
  have hrelaxed := cast_demand relaxed
  have hstrict := cast_demand strict
  simp only [decide_eq_true_eq]
  constructor
  · -- a password that has just what the other minimum demands
    intro himp
    obtain ⟨password, hpassword⟩ := hcount (demand strict)
    have hjust := himp password
    omega
  · intro hle password hshort
    omega

theorem exists_countP_eq (inClass : Char → Bool) (c : Char) (hc : inClass c = true) (n : Nat) :
    ∃ password : List Char, password.countP inClass = n :=
  ⟨List.replicate n c, by rw [List.countP_replicate, if_pos hc]⟩

/-- Whatever exceeds one maximum exceeds another one exactly if the first one is none, or the second one is one
and no greater. -/
theorem tooLong_imp_iff (relaxed strict : Option Int) :
    (∀ password : List Char, tooLong relaxed password.length = true → tooLong strict password.length = true)
      ↔ effective relaxed = 0 ∨ 0 < effective strict ∧ effective strict ≤ effective relaxed := by
  have hrelaxed := cast_demand relaxed
  have hstrict := cast_demand strict
  simp only [tooLong, Bool.or_eq_true, Bool.and_eq_true, beq_iff_eq, decide_eq_true_eq]
  constructor
  · -- a password that is one character too long
    intro himp
    have hnext := himp (List.replicate (demand relaxed + 1) 'a')
    rw [List.length_replicate] at hnext
    omega
  · intro hle password hlong
    omega

/-- White space is reported only where another policy reports it exactly if it is allowed where the other policy
allows it. -/
theorem whitespaces_imp_iff (relaxed strict : Bool) :
    (∀ password : List Char, (!relaxed && password.any isAsciiSpace) = true →
        (!strict && password.any isAsciiSpace) = true)
      ↔ (strict = true → relaxed = true) := by
  constructor
  · -- a password of one blank
    intro himp hstrict
    rw [hstrict] at himp
    cases relaxed with
    | true => rfl
    | false => exact nomatch himp [' '] (by decide)
  · intro himp password hspace
    cases strict with
    | true =>
      rw [himp rfl] at hspace
      cases hspace
    | false => exact (Bool.and_eq_true_iff.mp hspace).2

/-! ## Comparing policies -/

/-- A policy limits nothing more than another one does. -/
structure NoStricterThan (relaxed strict : PasswordPolicy) : Prop where
  minimum : effective relaxed.minimumLength ≤ effective strict.minimumLength
  upper : effective relaxed.minimumUppercaseLetters ≤ effective strict.minimumUppercaseLetters
  lower : effective relaxed.minimumLowercaseLetters ≤ effective strict.minimumLowercaseLetters
  digits : effective relaxed.minimumDigits ≤ effective strict.minimumDigits
  special : effective relaxed.minimumSpecialCharacters ≤ effective strict.minimumSpecialCharacters
  /-- It sets no maximum, or the other one sets one that is no greater. -/
  maximum : effective relaxed.maximumLength = 0
    ∨ 0 < effective strict.maximumLength ∧ effective strict.maximumLength ≤ effective relaxed.maximumLength
  whitespaces : strict.allowWhitespaces = true → relaxed.allowWhitespaces = true

/-- A policy is no stricter than another one exactly if each of its rules is broken only by passwords that break
the same rule of the other one. -/
theorem noStricterThan_iff (relaxed strict : PasswordPolicy) :
    relaxed.NoStricterThan strict
      ↔ ∀ violation password, relaxed.breaks password violation = true →
        strict.breaks password violation = true := by
  have hupper := demand_imp_iff (exists_countP_eq isUpper 'A' rfl)
    relaxed.minimumUppercaseLetters strict.minimumUppercaseLetters
  have hlower := demand_imp_iff (exists_countP_eq isLower 'a' rfl)
    relaxed.minimumLowercaseLetters strict.minimumLowercaseLetters
  have hdigits := demand_imp_iff (exists_countP_eq isDigit '0' rfl)
    relaxed.minimumDigits strict.minimumDigits
  have hspecial := demand_imp_iff (exists_countP_eq isSpecial '!' rfl)
    relaxed.minimumSpecialCharacters strict.minimumSpecialCharacters
  have hlength := demand_imp_iff (fun n => ⟨List.replicate n 'a', List.length_replicate⟩)
    relaxed.minimumLength strict.minimumLength
  have hmaximum := tooLong_imp_iff relaxed.maximumLength strict.maximumLength
  have hspaces := whitespaces_imp_iff relaxed.allowWhitespaces strict.allowWhitespaces
  constructor
  · intro h violation
    cases violation with
    | notUpperCase => exact hupper.mpr h.upper
    | notLowerCase => exact hlower.mpr h.lower
    | notNumeric => exact hdigits.mpr h.digits
    | notSpecial => exact hspecial.mpr h.special
    | minLength => exact hlength.mpr h.minimum
    | maxLength => exact hmaximum.mpr h.maximum
    | hasWhitespaces => exact hspaces.mpr h.whitespaces
    | alreadyUsed | differencePassword | samePassword => exact fun _ hbroken => nomatch hbroken
  · intro h
    exact {
      minimum := hlength.mp (h .minLength)
      upper := hupper.mp (h .notUpperCase)
      lower := hlower.mp (h .notLowerCase)
      digits := hdigits.mp (h .notNumeric)
      special := hspecial.mp (h .notSpecial)
      maximum := hmaximum.mp (h .maxLength)
      whitespaces := hspaces.mp (h .hasWhitespaces) }

theorem mem_violations_iff (policy : PasswordPolicy) (password : String) (violation : Violation) :
    violation ∈ (policy.check password).violations ↔ policy.breaks password.toList violation = true := by
  rw [check, List.mem_filter, and_iff_right violation.mem_all]

/-! ## What counts in a password -/

/-- What the rules of a policy look at in a password. -/
structure Makeup where
  length : Nat
  upper : Nat
  lower : Nat
  digits : Nat
  special : Nat
  hasSpace : Bool
deriving DecidableEq

/-- The makeup of a password. -/
def makeup (password : List Char) : Makeup where
  length := password.length
  upper := password.countP isUpper
  lower := password.countP isLower
  digits := password.countP isDigit
  special := password.countP isSpecial
  hasSpace := password.any isAsciiSpace

/-- Passwords of one makeup break the same rules. -/
theorem breaks_congr (policy : PasswordPolicy) {password other : List Char}
    (h : makeup password = makeup other) (violation : Violation) :
    policy.breaks password violation = policy.breaks other violation := by
  obtain ⟨hlength, hupper, hlower, hdigits, hspecial, hspace⟩ := Makeup.mk.inj h
  cases violation with
  | notUpperCase => rw [breaks, breaks, lacks, lacks, hupper]
  | notLowerCase => rw [breaks, breaks, lacks, lacks, hlower]
  | notNumeric => rw [breaks, breaks, lacks, lacks, hdigits]
  | notSpecial => rw [breaks, breaks, lacks, lacks, hspecial]
  | minLength => rw [breaks, breaks, hlength]
  | maxLength => rw [breaks, breaks, hlength]
  | hasWhitespaces => rw [breaks, breaks, hspace]
  | alreadyUsed | differencePassword | samePassword => rfl

/-- So they are reported alike. -/
theorem check_congr (policy : PasswordPolicy) {password other : String}
    (h : makeup password.toList = makeup other.toList) : policy.check password = policy.check other := by
  have hbreaks : policy.breaks password.toList = policy.breaks other.toList := funext (breaks_congr policy h)
  rw [check, check, hbreaks]

/-- The makeup of a password does not depend on the order of its characters. -/
theorem makeup_perm {password reordered : List Char} (h : password.Perm reordered) :
    makeup password = makeup reordered := by
  rw [makeup, makeup, h.length_eq, h.countP_eq, h.countP_eq, h.countP_eq, h.countP_eq, h.any_eq]

/-- A policy is no stricter than another one exactly if it never reports anything that the other one does not
report.  What a policy reports depends on nothing but the length of the password, the numbers of its characters
in the four classes and whether it has white space, so that reordering the characters changes nothing. -/
theorem relaxed_reports_less (relaxed strict : PasswordPolicy) (password reordered : String) :
    (relaxed.NoStricterThan strict
        ↔ ∀ entered, (relaxed.check entered).violations ⊆ (strict.check entered).violations)
      ∧ (makeup password.toList = makeup reordered.toList → relaxed.check password = relaxed.check reordered)
      ∧ (password.toList.Perm reordered.toList → relaxed.check password = relaxed.check reordered) := by
  refine ⟨?_, check_congr relaxed, fun hperm => check_congr relaxed (makeup_perm hperm)⟩
  rw [noStricterThan_iff]
  constructor
  · intro himp entered violation hmem
    rw [mem_violations_iff] at hmem ⊢
    exact himp violation _ hmem
  · intro hsubset violation password hbroken
    have hmem := hsubset (String.ofList password) (a := violation)
    rw [mem_violations_iff, mem_violations_iff, String.toList_ofList] at hmem
    exact hmem hbroken

/-- The policy with room for nine characters, with more room, white space, and no digits demanded. -/
def lenient : PasswordPolicy :=
  { roomy with maximumLength := some 12, minimumDigits := some (-1), allowWhitespaces := true }

/-- It reports no more about a password with a blank, and the same about its characters in another order and
about other ones of the same classes. -/
theorem lenient_reports_less :
    lenient.NoStricterThan roomy
      ∧ (lenient.check "AB ab").violations ⊆ (roomy.check "AB ab").violations
      ∧ lenient.check "AB ab" = lenient.check "xY Zw"
      ∧ lenient.check "AB ab" = lenient.check "ba BA" := by
  have hlenient : lenient.NoStricterThan roomy :=
    ⟨by decide, by decide, by decide, by decide, by decide, by decide, by decide⟩
  have hmakeup : makeup "AB ab".toList = makeup "xY Zw".toList := by decide +kernel
  have hperm : "AB ab".toList.Perm "ba BA".toList := by decide +kernel
  exact ⟨hlenient, (relaxed_reports_less lenient roomy "AB ab" "xY Zw").1.mp hlenient "AB ab",
    (relaxed_reports_less lenient roomy "AB ab" "xY Zw").2.1 hmakeup,
    (relaxed_reports_less lenient roomy "AB ab" "ba BA").2.2 hperm⟩

end PasswordPolicy

end MqttProfile
