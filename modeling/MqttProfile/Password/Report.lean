import MqttProfile.Password.Policy

/-!
# Password reports

The rules of a policy, each judged on its own, and the report that a form shows.  A report that was
evaluated and found nothing is not the same as one that was not evaluated.
-/

namespace MqttProfile

/-- The rules that a password form can report as broken. -/
inductive Violation where
  | alreadyUsed
  | differencePassword
  | hasWhitespaces
  | maxLength
  | minLength
  | notLowerCase
  | notNumeric
  | notSpecial
  | notUpperCase
  | samePassword
deriving DecidableEq, Repr

namespace Violation

def all : List Violation :=
  [.alreadyUsed, .differencePassword, .hasWhitespaces, .maxLength, .minLength, .notLowerCase,
   .notNumeric, .notSpecial, .notUpperCase, .samePassword]

theorem mem_all (violation : Violation) : violation ∈ all := by
  cases violation <;> decide

/-- The name of a rule. -/
def name : Violation → String
  | .alreadyUsed => "alreadyUsed"
  | .differencePassword => "differencePassword"
  | .hasWhitespaces => "hasWhitespaces"
  | .maxLength => "maxLength"
  | .minLength => "minLength"
  | .notLowerCase => "notLowerCase"
  | .notNumeric => "notNumeric"
  | .notSpecial => "notSpecial"
  | .notUpperCase => "notUpperCase"
  | .samePassword => "samePassword"

end Violation

/-- The outcome of a check: the broken rules, in the order of their names. -/
structure PasswordReport where
  violations : List Violation
  evaluated : Bool
deriving DecidableEq, Repr

namespace PasswordReport

/-- The report of a check that found nothing. -/
def clean : PasswordReport := ⟨[], true⟩

/-- The report of a check that could not be made. -/
def notEvaluated : PasswordReport := ⟨[], false⟩

/-- The report with one broken rule. -/
def single (violation : Violation) : PasswordReport := ⟨[violation], true⟩

/-- A report is good when the check was made and no rule is broken. -/
def ok (report : PasswordReport) : Bool :=
  report.evaluated && report.violations.isEmpty

def contains (report : PasswordReport) (violation : Violation) : Bool :=
  report.violations.contains violation

/-- The report with the broken rules of another one added. -/
def merged (report other : PasswordReport) : PasswordReport :=
  { report with violations := Violation.all.filter fun v => report.contains v || other.contains v }

end PasswordReport

namespace PasswordPolicy

/-! ## Classes of characters -/

def isUpper (c : Char) : Bool := 'A' ≤ c && c ≤ 'Z'

def isLower (c : Char) : Bool := 'a' ≤ c && c ≤ 'z'

def isDigit (c : Char) : Bool := '0' ≤ c && c ≤ '9'

/-- Every character that is neither a letter nor a digit of ASCII. -/
def isSpecial (c : Char) : Bool := !(isUpper c || isLower c || isDigit c)

/-- The white space of ASCII. -/
def isAsciiSpace (c : Char) : Bool := ('\x09' ≤ c && c ≤ '\x0d') || c == ' '

/-! ## Rules -/

/-- What a minimum demands: a missing or negative one demands nothing. -/
def demand (minimum : Option Int) : Nat := (minimum.getD 0).toNat

/-- Whether a password has fewer characters of a class than are demanded. -/
def lacks (inClass : Char → Bool) (minimum : Option Int) (password : List Char) : Bool :=
  password.countP inClass < demand minimum

/-- Whether a password of a length is too long; the empty one counts as too long under every
policy. -/
def tooLong (maximum : Option Int) (length : Nat) : Bool :=
  length == 0 || (0 < demand maximum && demand maximum < length)

/-- Whether a password breaks a rule of the policy. -/
def breaks (policy : PasswordPolicy) (password : List Char) : Violation → Bool
  | .notUpperCase => lacks isUpper policy.minimumUppercaseLetters password
  | .notLowerCase => lacks isLower policy.minimumLowercaseLetters password
  | .notNumeric => lacks isDigit policy.minimumDigits password
  | .notSpecial => lacks isSpecial policy.minimumSpecialCharacters password
  | .hasWhitespaces => !policy.allowWhitespaces && password.any isAsciiSpace
  | .minLength => password.length < demand policy.minimumLength
  | .maxLength => tooLong policy.maximumLength password.length
  | .alreadyUsed | .differencePassword | .samePassword => false

/-- Judges a password by every rule of the policy. -/
def check (policy : PasswordPolicy) (password : String) : PasswordReport :=
  ⟨Violation.all.filter (policy.breaks password.toList), true⟩

end PasswordPolicy

namespace PasswordReport

/-- A new password must differ from the current one. -/
def ofDifference (new current : String) : PasswordReport :=
  if new = current then single .samePassword else clean

/-- The confirmation must repeat the new password. -/
def ofConfirmation (confirmation new : String) : PasswordReport :=
  if confirmation = new then clean else single .differencePassword

end PasswordReport

end MqttProfile
