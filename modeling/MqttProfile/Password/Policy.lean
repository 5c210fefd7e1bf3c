import MqttProfile.Intake

/-!
# Password policies

A policy as an administrator sets it, the intake of its stored form, and the check of its settings.
Limits that are missing, zero or negative limit nothing.
-/

namespace MqttProfile

/-- What a password has to satisfy. -/
structure PasswordPolicy where
  minimumLength : Option Int
  maximumLength : Option Int
  minimumUppercaseLetters : Option Int
  minimumLowercaseLetters : Option Int
  minimumDigits : Option Int
  minimumSpecialCharacters : Option Int
  allowWhitespaces : Bool
  forceUserToResetPasswordIfNotValid : Bool
  passwordExpirationPeriodDays : Option Int
  passwordReuseFrequencyDays : Option Int
deriving DecidableEq, Repr

namespace PasswordPolicy

/-- The policy that demands nothing and allows no white space. -/
def unrestricted : PasswordPolicy :=
  ⟨none, none, none, none, none, none, false, false, none, none⟩

/-- Reads a policy; each field is known under its stored name and under its plain name. -/
def ofJson : Json → Intake PasswordPolicy :=
  Intake.document fun members =>
    let integer (stored plain : String) : Intake (Option Int) :=
      Intake.field members [stored, plain] none (Intake.nullable Intake.int)
    let switch (stored plain : String) : Intake Bool :=
      Intake.field members [stored, plain] false Intake.bool
    let start : Intake _ := .ok PasswordPolicy.mk
    start
      |>.also (integer "minimumLength" "minimum_length")
      |>.also (integer "maximumLength" "maximum_length")
      |>.also (integer "minimumUppercaseLetters" "minimum_uppercase_letters")
      |>.also (integer "minimumLowercaseLetters" "minimum_lowercase_letters")
      |>.also (integer "minimumDigits" "minimum_digits")
      |>.also (integer "minimumSpecialCharacters" "minimum_special_characters")
      |>.also (switch "allowWhitespaces" "allow_whitespaces")
      |>.also (switch "forceUserToResetPasswordIfNotValid" "force_user_to_reset_password_if_not_valid")
      |>.also (integer "passwordExpirationPeriodDays" "password_expiration_period_days")
      |>.also (integer "passwordReuseFrequencyDays" "password_reuse_frequency_days")

/-- An integer, or null where there is none. -/
private def ofLimit : Option Int → Json
  | some n => .int n
  | none => .null

/-- The stored form of a policy. -/
def toJson (policy : PasswordPolicy) : Json :=
  .obj
    [("minimumLength", ofLimit policy.minimumLength),
     ("maximumLength", ofLimit policy.maximumLength),
     ("minimumUppercaseLetters", ofLimit policy.minimumUppercaseLetters),
     ("minimumLowercaseLetters", ofLimit policy.minimumLowercaseLetters),
     ("minimumDigits", ofLimit policy.minimumDigits),
     ("minimumSpecialCharacters", ofLimit policy.minimumSpecialCharacters),
     ("allowWhitespaces", .bool policy.allowWhitespaces),
     ("forceUserToResetPasswordIfNotValid", .bool policy.forceUserToResetPasswordIfNotValid),
     ("passwordExpirationPeriodDays", ofLimit policy.passwordExpirationPeriodDays),
     ("passwordReuseFrequencyDays", ofLimit policy.passwordReuseFrequencyDays)]

/-! ## The settings of a policy -/

/-- The least length that a policy may set, as its minimum and as its maximum. -/
def leastLength : Int := 6

/-- The greatest minimum length that a policy may set. -/
def greatestMinimum : Int := 50

/-- What can be wrong with a setting. -/
inductive Problem where
  | required
  | notBetween (low high : Int)
  | below (low : Int)
  | belowMinimum
  | negative
deriving DecidableEq, Repr

/-- A problem in words. -/
def Problem.message : Problem → String
  | .required => "required"
  | .notBetween low high => s!"must be between {Text.decimal low} and {Text.decimal high}"
  | .below low => s!"must be at least {Text.decimal low}"
  | .belowMinimum => "must not be less than minimumLength"
  | .negative => "must not be negative"

/-- The problem of a minimum length: it has to be there and between the two bounds. -/
def minimumProblem : Option Int → Option Problem
  | none => some .required
  | some n =>
    if leastLength ≤ n ∧ n ≤ greatestMinimum then none
    else some (.notBetween leastLength greatestMinimum)

/-- The problem of a maximum length: it may be missing, but not be too small or below the minimum. -/
def maximumProblem (minimum : Option Int) : Option Int → Option Problem
  | none => none
  | some n =>
    if n < leastLength then some (.below leastLength)
    else match minimum with
      | some least => if n < least then some .belowMinimum else none
      | none => none

/-- The problem of any other number: it may be missing, but not be negative. -/
def countProblem : Option Int → Option Problem
  | none => none
  | some n => if n < 0 then some .negative else none

/-- The settings of a policy that have a problem, by their stored names. -/
def problems (policy : PasswordPolicy) : List (String × Problem) :=
  [("minimumLength", minimumProblem policy.minimumLength),
   ("maximumLength", maximumProblem policy.minimumLength policy.maximumLength),
   ("minimumUppercaseLetters", countProblem policy.minimumUppercaseLetters),
   ("minimumLowercaseLetters", countProblem policy.minimumLowercaseLetters),
   ("minimumDigits", countProblem policy.minimumDigits),
   ("minimumSpecialCharacters", countProblem policy.minimumSpecialCharacters),
   ("passwordExpirationPeriodDays", countProblem policy.passwordExpirationPeriodDays),
   ("passwordReuseFrequencyDays", countProblem policy.passwordReuseFrequencyDays)].filterMap
    fun (name, problem) => problem.map (name, ·)

end PasswordPolicy

end MqttProfile
