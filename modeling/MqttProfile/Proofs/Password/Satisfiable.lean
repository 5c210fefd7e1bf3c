import Mathlib.Data.List.Basic
import MqttProfile.Password.Report

/-!
# Policies that can be met

Every character belongs to exactly one of the four classes, so what the minimums of the classes demand adds up:
a password that meets a policy has at least as many characters as they demand together.  Nothing else stands in
the way of a password, and `PasswordPolicy.fitting` is one of the least length.

* `violations_eq_nil_iff` says what a password without a broken rule is;
* `exists_met_iff` says which policies some password meets, and `met_iff_room` says it in the limits that the
  policy sets;
* `accepted_policy_met_iff` says which of those whose settings have no problem do.
-/

namespace MqttProfile

namespace PasswordPolicy

/-! ## Classes of characters -/

/-- Every character is in exactly one class. -/
theorem class_cases (c : Char) :
    (isUpper c).toNat + (isLower c).toNat + (isDigit c).toNat + (isSpecial c).toNat = 1 := by
  -- the three ranges do not meet, and whatever is in none of them is special
  have hupper : isLower c = true → isUpper c = false := by
    simp only [isLower, isUpper, Bool.and_eq_true, Bool.and_eq_false_iff, decide_eq_true_eq,
      decide_eq_false_iff_not, Char.le_def, UInt32.le_iff_toNat_le]
    have hfirst : 'a'.val.toNat = 97 := rfl
    have hlast : 'Z'.val.toNat = 90 := rfl
    omega
  have hletter : isDigit c = true → isUpper c = false ∧ isLower c = false := by
    simp only [isDigit, isLower, isUpper, Bool.and_eq_true, Bool.and_eq_false_iff, decide_eq_true_eq,
      decide_eq_false_iff_not, Char.le_def, UInt32.le_iff_toNat_le]
    have hlast : '9'.val.toNat = 57 := rfl
    have hfirst : 'A'.val.toNat = 65 := rfl
    have hsmall : 'a'.val.toNat = 97 := rfl
    omega
  unfold isSpecial
  cases hU : isUpper c <;> cases hL : isLower c <;> cases hD : isDigit c <;> simp_all

/-- The characters of the four classes are all that there are. -/
theorem countP_classes (password : List Char) :
    password.countP isUpper + password.countP isLower + password.countP isDigit
      + password.countP isSpecial = password.length := by
  induction password with
  | nil => rfl
  | cons c cs ih =>
    have hcons (inClass : Char → Bool) :
        (c :: cs).countP inClass = cs.countP inClass + (inClass c).toNat := by
      cases h : inClass c <;> simp [h]
    have hone := class_cases c
    rw [hcons, hcons, hcons, hcons, List.length_cons]
    omega

/-! ## Passwords that meet a policy -/

/-- The number of characters that the minimums of the classes demand together. -/
def classTotal (policy : PasswordPolicy) : Nat :=
  demand policy.minimumUppercaseLetters + demand policy.minimumLowercaseLetters
    + demand policy.minimumDigits + demand policy.minimumSpecialCharacters

/-- The least length of a password that meets the minimums of a policy. -/
def leastNeeded (policy : PasswordPolicy) : Nat :=
  max 1 (max (demand policy.minimumLength) policy.classTotal)

/-- A password meets every minimum of a policy. -/
structure MeetsMinimums (policy : PasswordPolicy) (password : List Char) : Prop where
  upper : demand policy.minimumUppercaseLetters ≤ password.countP isUpper
  lower : demand policy.minimumLowercaseLetters ≤ password.countP isLower
  digits : demand policy.minimumDigits ≤ password.countP isDigit
  special : demand policy.minimumSpecialCharacters ≤ password.countP isSpecial
  length : demand policy.minimumLength ≤ password.length

/-- A password breaks no rule exactly if it meets every minimum, has no white space that is not allowed, and is
neither empty nor too long. -/
theorem violations_eq_nil_iff (policy : PasswordPolicy) (password : String) :
    (policy.check password).violations = []
      ↔ policy.MeetsMinimums password.toList
        ∧ (policy.allowWhitespaces = true ∨ ∀ c ∈ password.toList, isAsciiSpace c = false)
        ∧ 0 < password.toList.length
        ∧ (demand policy.maximumLength = 0 ∨ password.toList.length ≤ demand policy.maximumLength) := by
  have hspace : (!policy.allowWhitespaces && password.toList.any isAsciiSpace) = false
      ↔ policy.allowWhitespaces = true ∨ ∀ c ∈ password.toList, isAsciiSpace c = false := by
    rw [Bool.and_eq_false_iff, Bool.not_eq_false', List.any_eq_false]
    simp only [Bool.not_eq_true]
  have hlong : tooLong policy.maximumLength password.toList.length = false
      ↔ 0 < password.toList.length
        ∧ (demand policy.maximumLength = 0 ∨ password.toList.length ≤ demand policy.maximumLength) := by
    simp only [tooLong, Bool.or_eq_false_iff, Bool.and_eq_false_iff, beq_eq_false_iff_ne,
      decide_eq_false_iff_not]
    omega
  have hrules : (policy.check password).violations = []
      ↔ ∀ violation ∈ Violation.all, policy.breaks password.toList violation = false := by
    simp [check, List.filter_eq_nil_iff]
  rw [hrules]
  simp only [Violation.all, List.forall_mem_cons, breaks, lacks, hspace, hlong, decide_eq_false_iff_not,
    Nat.not_lt]
  constructor
  · rintro ⟨-, -, hspaces, hlength, hmin, hlower, hdigits, hspecial, hupper, -⟩
    exact ⟨⟨hupper, hlower, hdigits, hspecial, hmin⟩, hspaces, hlength⟩
  · rintro ⟨hmin, hspaces, hlength⟩
    exact ⟨trivial, trivial, hspaces, hlength, hmin.length, hmin.lower, hmin.digits, hmin.special, hmin.upper,
      trivial, nofun⟩

/-- A password that meets the minimums and is not empty is at least as long as they need. -/
theorem leastNeeded_le_length {policy : PasswordPolicy} {password : List Char}
    (h : policy.MeetsMinimums password) (hpos : 0 < password.length) :
    policy.leastNeeded ≤ password.length := by
  have hsum := countP_classes password
  have hupper := h.upper
  have hlower := h.lower
  have hdigits := h.digits
  have hspecial := h.special
  have hlength := h.length
  unfold leastNeeded classTotal
  omega

/-- A password of the least length: as many characters of each class as are demanded, and then small letters. -/
def fitting (policy : PasswordPolicy) : List Char :=
  List.replicate (demand policy.minimumUppercaseLetters) 'A'
    ++ List.replicate (demand policy.minimumLowercaseLetters) 'a'
    ++ List.replicate (demand policy.minimumDigits) '0'
    ++ List.replicate (demand policy.minimumSpecialCharacters) '!'
    ++ List.replicate (policy.leastNeeded - policy.classTotal) 'a'

theorem length_fitting (policy : PasswordPolicy) : policy.fitting.length = policy.leastNeeded := by
  have hle : policy.classTotal ≤ policy.leastNeeded := by
    unfold leastNeeded
    omega
  simp only [fitting, List.length_append, List.length_replicate]
  unfold classTotal at hle ⊢
  omega

/-- The password that is made for a policy meets the minimums. -/
theorem meetsMinimums_fitting (policy : PasswordPolicy) : policy.MeetsMinimums policy.fitting := by
  have hcount (inClass : Char → Bool) (n : Nat) (c : Char) :
      (List.replicate n c).countP inClass = if inClass c then n else 0 := List.countP_replicate
  refine ⟨?_, ?_, ?_, ?_, ?_⟩
  · simp [fitting, hcount, isUpper]
  · simp [fitting, hcount, isLower]
  · simp [fitting, hcount, isDigit]
  · simp [fitting, hcount, isSpecial, isUpper, isLower, isDigit]
  · rw [length_fitting]
    unfold leastNeeded
    omega

theorem not_space_of_mem_fitting {policy : PasswordPolicy} {c : Char} (h : c ∈ policy.fitting) :
    isAsciiSpace c = false := by
  simp only [fitting, List.mem_append, List.mem_replicate] at h
  rcases h with (((⟨-, rfl⟩ | ⟨-, rfl⟩) | ⟨-, rfl⟩) | ⟨-, rfl⟩) | ⟨-, rfl⟩ <;> decide

/-- Some password meets a policy exactly if the length that its minimums need is allowed. -/
theorem exists_met_iff (policy : PasswordPolicy) :
    (∃ password, (policy.check password).violations = [])
      ↔ demand policy.maximumLength = 0 ∨ policy.leastNeeded ≤ demand policy.maximumLength := by
  constructor
  · rintro ⟨password, hmet⟩
    obtain ⟨hmin, -, hpos, hmax⟩ := (violations_eq_nil_iff policy password).mp hmet
    have hneeded := leastNeeded_le_length hmin hpos
    omega
  · intro hallowed
    refine ⟨String.ofList policy.fitting, (violations_eq_nil_iff policy _).mpr ?_⟩
    have hpos : 0 < policy.leastNeeded := by
      unfold leastNeeded
      omega
    rw [String.toList_ofList, length_fitting]
    exact ⟨meetsMinimums_fitting policy, .inr fun c hc => not_space_of_mem_fitting hc, hpos, hallowed⟩

/-! ## The limits of a policy -/

/-- What a limit counts: one that is missing or not positive counts as zero, which limits nothing. -/
def effective (limit : Option Int) : Int :=
  max 0 (limit.getD 0)

theorem cast_demand (limit : Option Int) : (demand limit : Int) = effective limit := by
  unfold demand effective
  omega

/-- The length that the minimums need is the greatest of one, the minimum length and the sum of what the classes
demand. -/
theorem cast_leastNeeded (policy : PasswordPolicy) :
    (policy.leastNeeded : Int)
      = max 1 (max (effective policy.minimumLength)
          (effective policy.minimumUppercaseLetters + effective policy.minimumLowercaseLetters
            + effective policy.minimumDigits + effective policy.minimumSpecialCharacters)) := by
  simp only [← cast_demand]
  unfold leastNeeded classTotal
  omega

/-- Some password meets a policy exactly if the policy sets no maximum length, or one that is not positive, or
one that is no less than the greatest of one, the minimum length and the sum of the positive minimums of the
classes. -/
theorem met_iff_room (policy : PasswordPolicy) :
    (∃ password, (policy.check password).violations = [])
      ↔ policy.maximumLength = none ∨ ∃ maximum, policy.maximumLength = some maximum
        ∧ (maximum ≤ 0
          ∨ max 1 (max (effective policy.minimumLength)
              (effective policy.minimumUppercaseLetters + effective policy.minimumLowercaseLetters
                + effective policy.minimumDigits + effective policy.minimumSpecialCharacters)) ≤ maximum) := by
  rw [exists_met_iff, ← cast_leastNeeded]
  cases policy.maximumLength with
  | none => exact iff_of_true (.inl rfl) (.inl rfl)
  | some maximum =>
    have hmaximum : (demand (some maximum) : Int) = max 0 maximum := cast_demand (some maximum)
    simp only [reduceCtorEq, false_or, Option.some.injEq, exists_eq_left']
    omega

/-! ## Policies whose settings have no problem -/

/-- A maximum without a problem is missing, or is no smaller than either bound for minimums. -/
theorem maximumProblem_eq_none_iff (minimum maximum : Option Int) :
    maximumProblem minimum maximum = none
      ↔ ∀ n, maximum = some n → leastLength ≤ n ∧ ∀ least, minimum = some least → least ≤ n := by
  cases maximum with
  | none => simp [maximumProblem]
  | some n =>
    simp only [maximumProblem, Option.some.injEq, forall_eq']
    by_cases hlow : n < leastLength
    · simp only [hlow, if_true, reduceCtorEq, false_iff, not_and]
      omega
    · cases minimum with
      | none => simp [hlow, Int.not_lt.mp hlow]
      | some least => simp [hlow, Int.not_lt.mp hlow]

/-- A policy whose settings have no problem has a minimum length of at least six, which is no greater than the
maximum length. -/
theorem lengths_of_problems_eq_nil {policy : PasswordPolicy} (h : policy.problems = []) :
    ∃ least, policy.minimumLength = some least ∧ leastLength ≤ least
      ∧ ∀ n, policy.maximumLength = some n → least ≤ n := by
  simp only [problems, List.filterMap_eq_nil_iff, List.forall_mem_cons, Option.map_eq_none_iff] at h
  obtain ⟨hmin, hmax, -⟩ := h
  cases hleast : policy.minimumLength with
  | none =>
    rw [hleast] at hmin
    cases hmin
  | some least =>
    rw [hleast, minimumProblem, ite_eq_left_iff] at hmin
    rw [hleast, maximumProblem_eq_none_iff] at hmax
    have hbetween : leastLength ≤ least ∧ least ≤ greatestMinimum := by
      by_contra hout
      cases hmin hout
    exact ⟨least, rfl, hbetween.1, fun n hn => (hmax n hn).2 least rfl⟩

/-- A policy whose settings have no problem is met by some password exactly if its maximum length, where it has
one, leaves room for the characters that its classes demand together. -/
theorem accepted_policy_met_iff (policy : PasswordPolicy) (h : policy.problems = []) :
    (∃ password, (policy.check password).violations = [])
      ↔ ∀ maximum, policy.maximumLength = some maximum → (policy.classTotal : Int) ≤ maximum := by
  obtain ⟨least, hleast, hsix, hle⟩ := lengths_of_problems_eq_nil h
  have hdemand : demand policy.minimumLength = least.toNat := by
    rw [hleast]
    rfl
  rw [exists_met_iff, leastNeeded, hdemand]
  cases hmaximum : policy.maximumLength with
  | none => simp [demand]
  | some maximum =>
    have hroom := hle maximum hmaximum
    have hsix' : (6 : Int) ≤ least := hsix
    simp only [demand, Option.getD_some, Option.some.injEq, forall_eq']
    omega

/-- A policy whose classes demand eight of at most nine characters. -/
def roomy : PasswordPolicy :=
  { unrestricted with
    minimumLength := some 6
    maximumLength := some 9
    minimumUppercaseLetters := some 3
    minimumLowercaseLetters := some 3
    minimumDigits := some 2 }

/-- Some password meets it. -/
theorem roomy_met :
    roomy.problems = [] ∧ (∀ maximum, roomy.maximumLength = some maximum → (roomy.classTotal : Int) ≤ maximum)
      ∧ ∃ password, (roomy.check password).violations = [] := by
  have hproblems : roomy.problems = [] := by decide
  have hroom : ∀ maximum, roomy.maximumLength = some maximum → (roomy.classTotal : Int) ≤ maximum := by
    intro maximum hmaximum
    cases hmaximum
    decide
  exact ⟨hproblems, hroom, (accepted_policy_met_iff roomy hproblems).mpr hroom⟩

/-- The same policy with special characters: its classes demand ten of at most nine characters. -/
def crowded : PasswordPolicy :=
  { roomy with minimumSpecialCharacters := some 2 }

/-- Its settings have no problem, and yet no password meets it. -/
theorem crowded_unmet :
    crowded.problems = [] ∧ ¬ ∃ password, (crowded.check password).violations = [] := by
  refine ⟨by decide, ?_⟩
  rw [exists_met_iff]
  decide

end PasswordPolicy

end MqttProfile
