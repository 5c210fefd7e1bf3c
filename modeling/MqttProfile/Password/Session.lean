import MqttProfile.Error
import MqttProfile.Password.Report

/-!
# A session of changing a password

A session fetches the policy once, when it is first needed, and keeps it.  While no policy has loaded
the strength of a password is left open, and submitting is refused.
-/

namespace MqttProfile

/-- A source of password policies in a world `σ`. -/
structure PolicySource (σ : Type) where
  fetch : σ → Except Error PasswordPolicy × σ

/-- The policy that a session holds, and why the last attempt to fetch one failed. -/
structure PasswordSession where
  policy : Option PasswordPolicy
  lastError : Option Error
deriving DecidableEq

/-- The reports on the three fields of a password form. -/
structure PasswordChange where
  current : PasswordReport
  new : PasswordReport
  confirmation : PasswordReport
deriving DecidableEq, Repr

/-- A change is acceptable when every report on it is good, or was left open without a broken rule. -/
def PasswordChange.ok (change : PasswordChange) : Bool :=
  [change.current, change.new, change.confirmation].all fun report =>
    report.ok || (!report.evaluated && report.violations.isEmpty)

/-- Whether a report was left open makes no difference to a change: it is acceptable when no rule is
broken. -/
theorem PasswordChange.ok_eq (change : PasswordChange) :
    change.ok = [change.current, change.new, change.confirmation].all (·.violations.isEmpty) := by
  have hreport (report : PasswordReport) :
      (report.ok || (!report.evaluated && report.violations.isEmpty)) = report.violations.isEmpty := by
    cases h : report.evaluated <;> simp [PasswordReport.ok, h]
  simp only [ok, hreport]

/-- How a failure to fetch the policy is reported: a source that says so itself is quoted as it is. -/
def Error.asPolicyFailure : Error → Error
  | .policyMissing message => .policyMissing message
  | .policyFetch cause => .policyFetch cause
  | cause => .policyFetch cause

namespace PasswordSession

variable {σ : Type}

/-- A session that has fetched nothing. -/
def start : PasswordSession := ⟨none, none⟩

/-- Fetches the policy unless the session has one. -/
def ensure (source : PolicySource σ) (session : PasswordSession) (world : σ) :
    PasswordSession × σ :=
  if session.policy.isSome then (session, world)
  else match source.fetch world with
    | (.ok policy, world) => (⟨some policy, none⟩, world)
    | (.error cause, world) => ({ session with lastError := some cause.asPolicyFailure }, world)

/-- Gives the policy up to fetch it again, and takes it back when that brings none. -/
def reload (source : PolicySource σ) (session : PasswordSession) (world : σ) :
    PasswordSession × σ :=
  let (fetched, world) := { session with policy := none }.ensure source world
  (if fetched.policy.isSome then fetched else { fetched with policy := session.policy }, world)

theorem ensure_of_isSome (source : PolicySource σ) {session : PasswordSession} (world : σ)
    (h : session.policy.isSome = true) : session.ensure source world = (session, world) :=
  if_pos h

/-- A reload is one call of the source, whatever the session holds. -/
theorem reload_eq (source : PolicySource σ) (session : PasswordSession) (world : σ) :
    session.reload source world = match source.fetch world with
      | (.ok policy, world) => (⟨some policy, none⟩, world)
      | (.error cause, world) => (⟨session.policy, some cause.asPolicyFailure⟩, world) := by
  rcases hfetch : source.fetch world with ⟨_ | _, _⟩ <;> simp [reload, ensure, hfetch]

theorem ensure_of_isNone (source : PolicySource σ) {session : PasswordSession} (world : σ)
    (h : session.policy = none) : session.ensure source world = session.reload source world := by
  rw [reload_eq]
  rcases hfetch : source.fetch world with ⟨_ | _, _⟩ <;> simp [ensure, hfetch, h]

/-- The strength of a password as far as it can be judged. -/
def strength (session : PasswordSession) (new : String) : PasswordReport :=
  match session.policy with
  | some policy => policy.check new
  | none => .notEvaluated

/-- The reports on a change under the policy that the session holds. -/
def assess (session : PasswordSession) (current new confirmation : String) : PasswordChange where
  current := .clean
  new := (session.strength new).merged (.ofDifference new current)
  confirmation := .ofConfirmation confirmation new

/-- Judges a change, fetching the policy if need be. -/
def check (source : PolicySource σ) (current new confirmation : String) (session : PasswordSession)
    (world : σ) : PasswordChange × PasswordSession × σ :=
  let (session, world) := session.ensure source world
  (session.assess current new confirmation, session, world)

/-- Judges a change that is about to be made; without a policy it is refused. -/
def submit (source : PolicySource σ) (current new confirmation : String) (session : PasswordSession)
    (world : σ) : Except Error PasswordChange × PasswordSession × σ :=
  let (change, session, world) := session.check source current new confirmation world
  (if session.policy.isSome then .ok change else .error .changeBlocked, session, world)

/-- Takes a refusal of the server for the field that it concerns.  A refusal of the password's
strength means that the policy has changed, so it is fetched again; other messages concern no
field. -/
def interpretRejection (source : PolicySource σ) (message : String) (session : PasswordSession)
    (world : σ) : Option PasswordChange × PasswordSession × σ :=
  if message = "Current password doesn't match!" then
    (some ⟨.single .differencePassword, .clean, .clean⟩, session, world)
  else if "Password must".toList.isPrefixOf message.toList then
    let (session, world) := session.reload source world
    (some ⟨.clean, .notEvaluated, .clean⟩, session, world)
  else if "Password was already used".toList.isPrefixOf message.toList then
    (some ⟨.clean, .single .alreadyUsed, .clean⟩, session, world)
  else (none, session, world)

end PasswordSession

end MqttProfile
