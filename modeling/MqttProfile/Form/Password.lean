import MqttProfile.Json.Agreement
import MqttProfile.Password.Session

/-!
# Passwords in forms

A form may hold any value where a password is meant.  A value that is no text has no characters to count,
so it is judged only by a policy that looks at no single character, and its length is the number of its
parts.  What a form shows of the judgement is the broken rules by name, and whether the judgement was made
at all.
-/

namespace MqttProfile

/-! ## Judging -/

namespace PasswordPolicy

/-- Whether the policy looks at single characters. -/
def looksAtCharacters (policy : PasswordPolicy) : Bool :=
  !policy.allowWhitespaces ||
    [policy.minimumUppercaseLetters, policy.minimumLowercaseLetters, policy.minimumDigits,
      policy.minimumSpecialCharacters].any fun minimum => 0 < demand minimum

/-- Judges the password of a form by every rule of the policy. -/
def checkForm (policy : PasswordPolicy) : Json → Except Fault PasswordReport
  | .str password => .ok (policy.check password)
  | value => do
    if policy.looksAtCharacters then .error .wrongKind
    let passes (bound : Option Int) (breaks : Nat → Nat → Bool) : Except Fault Bool :=
      if demand bound = 0 then .ok true
      else value.parts.map fun parts => !breaks parts.length (demand bound)
    let longEnough ← passes policy.minimumLength fun size bound => size < bound
    let shortEnough ←
      if value.truthy then passes policy.maximumLength fun size bound => bound < size
      else .ok false
    return ⟨(if shortEnough then [] else [.maxLength]) ++ (if longEnough then [] else [.minLength]), true⟩

end PasswordPolicy

namespace PasswordReport

/-- A new password must differ from the current one. -/
def ofDifferenceForm (new current : Json) : PasswordReport :=
  if new.agrees current then single .samePassword else clean

/-- The confirmation must repeat the new password. -/
def ofConfirmationForm (confirmation new : Json) : PasswordReport :=
  if confirmation.agrees new then clean else single .differencePassword

theorem ofDifferenceForm_str (new current : String) :
    ofDifferenceForm (.str new) (.str current) = ofDifference new current := by
  simp [ofDifferenceForm, ofDifference]

theorem ofConfirmationForm_str (confirmation new : String) :
    ofConfirmationForm (.str confirmation) (.str new) = ofConfirmation confirmation new := by
  simp [ofConfirmationForm, ofConfirmation]

end PasswordReport

namespace PasswordSession

variable {σ : Type}

/-- The reports on a change under the policy that the session holds. -/
def assessForm (session : PasswordSession) : (current new confirmation : Json) →
    Except Fault PasswordChange
  | .str current, .str new, .str confirmation => .ok (session.assess current new confirmation)
  | current, new, confirmation => do
    let strength ← match session.policy with
      | some policy => policy.checkForm new
      | none => .ok .notEvaluated
    return {
      current := .clean
      new := strength.merged (.ofDifferenceForm new current)
      confirmation := .ofConfirmationForm confirmation new }

/-- Judges a change, fetching the policy if need be. -/
def checkForm (source : PolicySource σ) (current new confirmation : Json) (session : PasswordSession)
    (world : σ) : Except Error PasswordChange × PasswordSession × σ :=
  let (session, world) := session.ensure source world
  (liftFault (session.assessForm current new confirmation), session, world)

/-- Judges a change that is about to be made; without a policy it is refused. -/
def submitForm (source : PolicySource σ) (current new confirmation : Json) (session : PasswordSession)
    (world : σ) : Except Error PasswordChange × PasswordSession × σ :=
  let (outcome, session, world) := session.checkForm source current new confirmation world
  (outcome.bind fun change =>
    if session.policy.isSome then .ok change else .error .changeBlocked, session, world)

/-- Texts are judged in a form as they are anywhere. -/
theorem checkForm_str (source : PolicySource σ) (current new confirmation : String)
    (session : PasswordSession) (world : σ) :
    session.checkForm source (.str current) (.str new) (.str confirmation) world
      = (.ok (session.check source current new confirmation world).1,
          (session.check source current new confirmation world).2) :=
  rfl

/-- Texts are submitted in a form as they are anywhere. -/
theorem submitForm_str (source : PolicySource σ) (current new confirmation : String)
    (session : PasswordSession) (world : σ) :
    session.submitForm source (.str current) (.str new) (.str confirmation) world
      = session.submit source current new confirmation world :=
  rfl

end PasswordSession

/-! ## Showing -/

/-- The names of rules. -/
private def ruleNames (violations : List Violation) : Json :=
  .arr (violations.map fun v => .str v.name)

/-- A report on one field. -/
def PasswordReport.toForm (report : PasswordReport) : Json :=
  .obj
    [("violations", ruleNames report.violations),
     ("evaluated", .bool report.evaluated),
     ("ok", .bool report.ok),
     ("contains", ruleNames (Violation.all.filter report.contains)),
     ("is_not_evaluated", .bool (report == .notEvaluated))]

/-- The reports on the three fields of a password form. -/
def PasswordChange.toForm (change : PasswordChange) : Json :=
  .obj
    [("current", change.current.toForm), ("new", change.new.toForm),
     ("confirmation", change.confirmation.toForm), ("ok", .bool change.ok)]

end MqttProfile
