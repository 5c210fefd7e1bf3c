import MqttProfile.Password.Session

/-!
# Password sessions and what they fetched

A session is a view of what its source answered so far: it holds the policy of the latest fetch that
succeeded, and the failure of the latest fetch if that one failed.  The answers are written down by a source
that records them and otherwise does what the source behind it does.

* `PasswordCall.run` makes one call of a session, `PasswordCall.runAll` one after the other;
* `PasswordCall.run_ofLog` says what one call makes of a session that is the view of a log;
* `session_meets_log` says it of every call of every run, whatever the source answers.
-/

namespace MqttProfile

/-! ## Calls -/

/-- A call of a session. -/
inductive PasswordCall where
  | ensure
  | reload
  | check (current new confirmation : String)
  | submit (current new confirmation : String)
  | reject (message : String)
deriving DecidableEq

/-- What a call answers. -/
inductive PasswordReply where
  | policy (policy : Option PasswordPolicy)
  | change (change : PasswordChange)
  | rejection (change : Option PasswordChange)
deriving DecidableEq

/-- A call of a session in a world, with what it answered and what it left. -/
structure PasswordStep (σ : Type) where
  call : PasswordCall
  before : PasswordSession
  outcome : Except Error PasswordReply
  after : PasswordSession
  world : σ

namespace PasswordCall

variable {σ : Type}

/-- Whether a call needs a policy, and fetches one if there is none. -/
def needsPolicy : PasswordCall → Bool
  | .ensure | .check _ _ _ | .submit _ _ _ => true
  | .reload | .reject _ => false

/-- Whether a call fetches a policy even if there is one. -/
def reloads : PasswordCall → Bool
  | .reload => true
  | .reject message => "Password must".toList.isPrefixOf message.toList
  | _ => false

/-- Makes a call. -/
def run (source : PolicySource σ) (call : PasswordCall) (session : PasswordSession) (world : σ) :
    Except Error PasswordReply × PasswordSession × σ :=
  match call with
  | .ensure =>
    let (session, world) := session.ensure source world
    (.ok (.policy session.policy), session, world)
  | .reload =>
    let (session, world) := session.reload source world
    (.ok (.policy session.policy), session, world)
  | .check current new confirmation =>
    let (change, session, world) := session.check source current new confirmation world
    (.ok (.change change), session, world)
  | .submit current new confirmation =>
    let (outcome, session, world) := session.submit source current new confirmation world
    (outcome.map .change, session, world)
  | .reject message =>
    let (change, session, world) := session.interpretRejection source message world
    (.ok (.rejection change), session, world)

/-- Makes calls one after the other. -/
def runAll (source : PolicySource σ) (calls : List PasswordCall) (session : PasswordSession) (world : σ) :
    List (PasswordStep σ) × PasswordSession × σ :=
  match calls with
  | [] => ([], session, world)
  | call :: calls =>
    let (outcome, after, world) := call.run source session world
    let (steps, last) := runAll source calls after world
    (⟨call, session, outcome, after, world⟩ :: steps, last)

end PasswordCall

/-! ## Logs -/

/-- What a source answered, the latest answer first. -/
abbrev FetchLog := List (Except Error PasswordPolicy)

namespace FetchLog

/-- The policy of the latest fetch that succeeded. -/
def lastLoaded (log : FetchLog) : Option PasswordPolicy :=
  log.findSome? Except.toOption

/-- The failure of the latest fetch, if it failed. -/
def lastFailure : FetchLog → Option Error
  | .error cause :: _ => some cause.asPolicyFailure
  | _ => none

/-- No failure is held if nothing was fetched or the latest fetch succeeded, and only then. -/
theorem lastFailure_eq_none_iff (log : FetchLog) :
    log.lastFailure = none ↔ log = [] ∨ ∃ policy earlier, log = .ok policy :: earlier := by
  cases log with
  | nil => exact iff_of_true rfl (.inl rfl)
  | cons outcome earlier =>
    cases outcome with
    | ok policy => exact iff_of_true rfl (.inr ⟨policy, earlier, rfl⟩)
    | error cause =>
      refine iff_of_false (nomatch ·) ?_
      rintro (hnil | ⟨policy, _, hcons⟩)
      · cases hnil
      · cases hcons

/-- There is no policy exactly as long as no fetch succeeded. -/
theorem lastLoaded_eq_none_iff (log : FetchLog) :
    log.lastLoaded = none ↔ ∀ policy, Except.ok policy ∉ log := by
  rw [lastLoaded, List.findSome?_eq_none_iff]
  constructor
  · intro hnone policy hmem
    cases hnone _ hmem
  · intro hnone outcome hmem
    cases outcome with
    | ok policy => exact absurd hmem (hnone policy)
    | error cause => rfl

end FetchLog

/-- The source with its answers recorded. -/
def PolicySource.recorded {σ : Type} (source : PolicySource σ) : PolicySource (FetchLog × σ) where
  fetch past :=
    let (outcome, world) := source.fetch past.2
    (outcome, outcome :: past.1, world)

/-- A step of a run whose source is recorded, without the record. -/
def PasswordStep.forget {σ : Type} (step : PasswordStep (FetchLog × σ)) : PasswordStep σ :=
  { step with world := step.world.2 }

/-! ## Reports -/

/-- Nothing is found by two checks together exactly if neither finds anything. -/
theorem PasswordReport.merged_violations_eq_nil_iff (report other : PasswordReport) :
    (report.merged other).violations = [] ↔ report.violations = [] ∧ other.violations = [] := by
  rw [merged, List.filter_eq_nil_iff]
  simp only [contains, Bool.or_eq_true, List.contains_iff_mem, not_or]
  constructor
  · intro hnone
    rw [List.eq_nil_iff_forall_not_mem, List.eq_nil_iff_forall_not_mem]
    exact ⟨fun violation => (hnone violation violation.mem_all).1,
      fun violation => (hnone violation violation.mem_all).2⟩
  · rintro ⟨hreport, hother⟩ violation -
    rw [hreport, hother]
    exact ⟨List.not_mem_nil, List.not_mem_nil⟩

theorem PasswordReport.ofDifference_violations_eq_nil_iff (new current : String) :
    (ofDifference new current).violations = [] ↔ new ≠ current := by
  rw [ofDifference]
  split
  · rename_i hsame
    exact iff_of_false (List.cons_ne_nil _ _) (not_not_intro hsame)
  · rename_i hdiffers
    exact iff_of_true rfl hdiffers

theorem PasswordReport.ofConfirmation_violations_eq_nil_iff (confirmation new : String) :
    (ofConfirmation confirmation new).violations = [] ↔ confirmation = new := by
  rw [ofConfirmation]
  split
  · rename_i hsame
    exact iff_of_true rfl hsame
  · rename_i hdiffers
    exact iff_of_false (List.cons_ne_nil _ _) hdiffers

namespace PasswordSession

variable {σ : Type}

/-- A password is strong enough if the policy, where there is one, finds nothing. -/
theorem strength_violations_eq_nil_iff (session : PasswordSession) (new : String) :
    (session.strength new).violations = []
      ↔ ∀ policy, session.policy = some policy → (policy.check new).violations = [] := by
  rw [strength]
  cases session.policy with
  | none => exact iff_of_true rfl fun policy hnone => nomatch hnone
  | some policy =>
    constructor
    · rintro hnone _ ⟨⟩
      exact hnone
    · intro hall
      exact hall policy rfl

/-- What a session accepts: a new password that is not the current one and is repeated, and that is strong
enough. -/
theorem assess_ok_iff (session : PasswordSession) (current new confirmation : String) :
    (session.assess current new confirmation).ok = true
      ↔ new ≠ current ∧ confirmation = new
        ∧ ∀ policy, session.policy = some policy → (policy.check new).violations = [] := by
  have hall : (session.assess current new confirmation).ok = true
      ↔ ((session.strength new).merged (.ofDifference new current)).violations = []
        ∧ (PasswordReport.ofConfirmation confirmation new).violations = [] := by
    rw [PasswordChange.ok_eq, assess]
    simp only [List.all_cons, List.all_nil, Bool.and_true, Bool.and_eq_true, List.isEmpty_iff]
    exact and_iff_right rfl
  rw [hall, PasswordReport.merged_violations_eq_nil_iff, strength_violations_eq_nil_iff,
    PasswordReport.ofDifference_violations_eq_nil_iff,
    PasswordReport.ofConfirmation_violations_eq_nil_iff]
  constructor
  · rintro ⟨⟨hpolicy, hdiffers⟩, hsame⟩
    exact ⟨hdiffers, hsame, hpolicy⟩
  · rintro ⟨hdiffers, hsame, hpolicy⟩
    exact ⟨⟨hpolicy, hdiffers⟩, hsame⟩

/-! ## Sessions as views -/

/-- The session as the view of a log. -/
def ofLog (log : FetchLog) : PasswordSession :=
  ⟨log.lastLoaded, log.lastFailure⟩

/-- What is left in a world with a record, whether a policy is fetched or not. -/
def left (source : PolicySource σ) (fetches : Bool) (past : FetchLog × σ) : FetchLog × σ :=
  if fetches then (source.recorded.fetch past).2 else past

theorem length_left (source : PolicySource σ) (fetches : Bool) (past : FetchLog × σ) :
    (left source fetches past).1.length = past.1.length + if fetches then 1 else 0 := by
  cases fetches <;> rfl

/-- A policy that is held is still held when a fetch was recorded. -/
theorem isSome_left (source : PolicySource σ) (fetches : Bool) (past : FetchLog × σ)
    (h : past.1.lastLoaded.isSome = true) : (left source fetches past).1.lastLoaded.isSome = true := by
  cases fetches with
  | false => exact h
  | true =>
    obtain ⟨outcome, world, hfetch⟩ :
        ∃ outcome world, source.recorded.fetch past = (outcome, outcome :: past.1, world) := ⟨_, _, rfl⟩
    rw [left, if_pos rfl, hfetch]
    cases outcome with
    | ok policy => rfl
    | error cause => exact h

/-- The view of a log stays the view of it when the policy is fetched again. -/
theorem reload_ofLog (source : PolicySource σ) (past : FetchLog × σ) :
    (ofLog past.1).reload source.recorded past
      = (ofLog (left source true past).1, left source true past) := by
  obtain ⟨outcome, world, hfetch⟩ :
      ∃ outcome world, source.recorded.fetch past = (outcome, outcome :: past.1, world) := ⟨_, _, rfl⟩
  rw [reload_eq, left, if_pos rfl, hfetch]
  cases outcome with
  | ok policy => rfl
  | error cause => rfl

/-- So it does when the policy is fetched unless there is one. -/
theorem ensure_ofLog (source : PolicySource σ) (past : FetchLog × σ) :
    (ofLog past.1).ensure source.recorded past
      = (ofLog (left source (ofLog past.1).policy.isNone past).1,
          left source (ofLog past.1).policy.isNone past) := by
  cases hpolicy : (ofLog past.1).policy with
  | some policy => exact ensure_of_isSome _ _ (Option.isSome_iff_exists.mpr ⟨policy, hpolicy⟩)
  | none =>
    rw [ensure_of_isNone _ _ hpolicy]
    exact reload_ofLog source past

end PasswordSession

namespace PasswordCall

variable {σ : Type}

open PasswordSession

/-- Whether a call fetches a policy in a session. -/
def fetches (call : PasswordCall) (session : PasswordSession) : Bool :=
  call.reloads || (call.needsPolicy && session.policy.isNone)

/-- A call fetches either because it needs a policy that is not there or because it reloads, never for both
reasons. -/
theorem fetches_eq_add (call : PasswordCall) (session : PasswordSession) :
    (if call.fetches session then 1 else 0)
      = (if call.needsPolicy && session.policy.isNone then 1 else 0) + if call.reloads then 1 else 0 := by
  have honce : call.needsPolicy = true → call.reloads = false := by
    cases call <;> intro hneeds <;> first | rfl | cases hneeds
  rw [fetches]
  cases hneeds : call.needsPolicy with
  | true => rw [honce hneeds, Bool.true_and, Bool.false_or, if_neg Bool.false_ne_true, Nat.add_zero]
  | false => rw [Bool.false_and, Bool.or_false, if_neg Bool.false_ne_true, Nat.zero_add]

/-- A call makes the view of a log the view of what it leaves of the log. -/
theorem run_ofLog (source : PolicySource σ) (call : PasswordCall) (past : FetchLog × σ) :
    (call.run source.recorded (ofLog past.1) past).2
      = (ofLog (left source (call.fetches (ofLog past.1)) past).1,
          left source (call.fetches (ofLog past.1)) past) := by
  cases call with
  | ensure => exact ensure_ofLog source past
  | reload => exact reload_ofLog source past
  | check current new confirmation => exact ensure_ofLog source past
  | submit current new confirmation => exact ensure_ofLog source past
  | reject message =>
    show ((ofLog past.1).interpretRejection source.recorded message past).2 = _
    rw [interpretRejection, fetches, needsPolicy, Bool.false_and, Bool.or_false, reloads]
    split
    · rename_i hcurrent
      rw [hcurrent]
      rfl
    · split
      · rename_i hmust
        rw [hmust, reload_ofLog]
      · rename_i hother
        rw [Bool.not_eq_true] at hother
        rw [hother]
        split <;> rfl

end PasswordCall

/-! ## Single calls -/

/-- What is to be said of a call whose source is recorded. -/
structure PasswordStep.Meets {σ : Type} (step : PasswordStep (FetchLog × σ)) : Prop where
  /-- The policy is that of the latest fetch that succeeded. -/
  policy : step.after.policy = step.world.1.lastLoaded
  /-- No failure is held if nothing was fetched or the latest fetch succeeded, and only then. -/
  lastError : step.after.lastError = none
    ↔ step.world.1 = [] ∨ ∃ policy earlier, step.world.1 = .ok policy :: earlier
  /-- A policy is never lost. -/
  kept : step.before.policy.isSome = true → step.after.policy.isSome = true
  /-- A change is not submitted as long as no fetch succeeded, and nothing else fails. -/
  blocked : ∀ error, step.outcome = .error error
    ↔ error = .changeBlocked ∧ (∃ current new confirmation, step.call = .submit current new confirmation)
      ∧ ∀ policy, .ok policy ∉ step.world.1
  /-- A change is acceptable if it is one, if it is repeated and if the policy, once there is one, finds
  nothing. -/
  judged : ∀ current new confirmation, step.call = .check current new confirmation →
    ∃ change, step.outcome = .ok (.change change)
      ∧ (change.ok = true ↔ new ≠ current ∧ confirmation = new
        ∧ ∀ policy, step.after.policy = some policy → (policy.check new).violations = [])

namespace PasswordCall

variable {σ : Type}

open PasswordSession

/-- A call fails only if a change is submitted without a policy. -/
theorem outcome_eq_error_iff (source : PolicySource σ) (call : PasswordCall) (session : PasswordSession)
    (world : σ) (error : Error) :
    (call.run source session world).1 = .error error
      ↔ error = .changeBlocked ∧ (∃ current new confirmation, call = .submit current new confirmation)
        ∧ (call.run source session world).2.1.policy = none := by
  cases call with
  | submit current new confirmation =>
    have hrun : ((PasswordCall.submit current new confirmation).run source session world).1
        = (if (session.ensure source world).1.policy.isSome then
            .ok ((session.ensure source world).1.assess current new confirmation)
          else .error .changeBlocked : Except Error PasswordChange).map .change := rfl
    have hafter : ((PasswordCall.submit current new confirmation).run source session world).2.1
        = (session.ensure source world).1 := rfl
    rw [hrun, hafter]
    cases hpolicy : (session.ensure source world).1.policy with
    | some policy =>
      refine iff_of_false (nomatch ·) ?_
      rintro ⟨-, -, hnone⟩
      cases hnone
    | none =>
      constructor
      · rintro ⟨⟩
        exact ⟨rfl, ⟨_, _, _, rfl⟩, rfl⟩
      · rintro ⟨rfl, -, -⟩
        rfl
  | _ =>
    refine iff_of_false (nomatch ·) ?_
    rintro ⟨-, ⟨_, _, _, hcall⟩, -⟩
    cases hcall

/-- A call on the view of a log is as it is to be. -/
theorem meets_run (source : PolicySource σ) (call : PasswordCall) (past : FetchLog × σ) :
    let (outcome, after, world) := call.run source.recorded (ofLog past.1) past
    PasswordStep.Meets ⟨call, ofLog past.1, outcome, after, world⟩ := by
  obtain ⟨outcome, after, world, hrun⟩ : ∃ outcome after world,
      call.run source.recorded (ofLog past.1) past = (outcome, after, world) := ⟨_, _, _, rfl⟩
  have hstate := run_ofLog source call past
  rw [hrun] at hstate ⊢
  obtain ⟨hafter, hworld⟩ := Prod.mk.inj hstate
  constructor
  · show after.policy = world.1.lastLoaded
    rw [hafter, ← hworld]
    rfl
  · show after.lastError = none ↔ _
    rw [hafter, ← hworld]
    exact world.1.lastFailure_eq_none_iff
  · intro hheld
    show after.policy.isSome = true
    rw [hafter]
    exact isSome_left source _ past hheld
  · intro error
    have hfails := outcome_eq_error_iff source.recorded call (ofLog past.1) past error
    rw [hrun] at hfails
    have hnone : after.policy = none ↔ ∀ policy, Except.ok policy ∉ world.1 := by
      rw [← FetchLog.lastLoaded_eq_none_iff, hafter, ← hworld]
      rfl
    rw [← hnone]
    exact hfails
  · intro current new confirmation hcall
    obtain rfl : call = .check current new confirmation := hcall
    cases hrun
    exact ⟨_, rfl, assess_ok_iff _ current new confirmation⟩

/-! ## Runs -/

/-- What a run over the view of a log makes of it. -/
theorem runAll_ofLog (source : PolicySource σ) (calls : List PasswordCall) (past : FetchLog × σ) :
    ∃ steps log world, runAll source.recorded calls (ofLog past.1) past = (steps, ofLog log, log, world)
      ∧ log.length = past.1.length
        + (steps.countP (fun step => step.call.needsPolicy && step.before.policy.isNone)
          + steps.countP (·.call.reloads))
      ∧ ∀ step ∈ steps, step.Meets := by
  -- by induction on the calls, with what was recorded before them
  induction calls generalizing past with
  | nil => exact ⟨[], past.1, past.2, rfl, rfl, fun _ hmem => absurd hmem List.not_mem_nil⟩
  | cons call calls ih =>
    have hmeets := meets_run source call past
    obtain ⟨outcome, hrun⟩ : ∃ outcome, call.run source.recorded (ofLog past.1) past
        = (outcome, ofLog (left source (call.fetches (ofLog past.1)) past).1,
          left source (call.fetches (ofLog past.1)) past) :=
      ⟨_, Prod.ext rfl (run_ofLog source call past)⟩
    obtain ⟨steps, log, world, hsteps, hlength, hall⟩ := ih (left source (call.fetches (ofLog past.1)) past)
    rw [hrun] at hmeets
    refine ⟨_ :: steps, log, world, ?_, ?_, List.forall_mem_cons.mpr ⟨hmeets, hall⟩⟩
    · rw [runAll, hrun]
      dsimp only
      rw [hsteps]
    · rw [hlength, length_left, fetches_eq_add, List.countP_cons, List.countP_cons]
      dsimp only
      omega

end PasswordCall

/-! ## Runs without a record -/

namespace PasswordSession

variable {σ : Type} (source : PolicySource σ) (session : PasswordSession) (past : FetchLog × σ)

/-- Recording the answers changes nothing else about a reload. -/
theorem exists_reload_recorded :
    ∃ log, session.reload source.recorded past
      = ((session.reload source past.2).1, log, (session.reload source past.2).2) := by
  obtain ⟨outcome, world, hfetch⟩ : ∃ outcome world, source.fetch past.2 = (outcome, world) := ⟨_, _, rfl⟩
  have hrecorded : source.recorded.fetch past = (outcome, outcome :: past.1, world) := by
    show ((source.fetch past.2).1, (source.fetch past.2).1 :: past.1, (source.fetch past.2).2) = _
    rw [hfetch]
  refine ⟨outcome :: past.1, ?_⟩
  rw [reload_eq, reload_eq, hrecorded, hfetch]
  cases outcome <;> rfl

theorem exists_ensure_recorded :
    ∃ log, session.ensure source.recorded past
      = ((session.ensure source past.2).1, log, (session.ensure source past.2).2) := by
  cases hpolicy : session.policy with
  | some policy =>
    have hheld : session.policy.isSome = true := by rw [hpolicy, Option.isSome_some]
    exact ⟨past.1, by rw [ensure_of_isSome _ _ hheld, ensure_of_isSome _ _ hheld]⟩
  | none =>
    rw [ensure_of_isNone _ _ hpolicy, ensure_of_isNone _ _ hpolicy]
    exact exists_reload_recorded source session past

theorem exists_interpretRejection_recorded (message : String) :
    ∃ log, session.interpretRejection source.recorded message past
      = ((session.interpretRejection source message past.2).1,
          (session.interpretRejection source message past.2).2.1, log,
          (session.interpretRejection source message past.2).2.2) := by
  obtain ⟨log, hreload⟩ := exists_reload_recorded source session past
  rw [interpretRejection, interpretRejection, hreload]
  by_cases hcurrent : message = "Current password doesn't match!"
  · rw [if_pos hcurrent, if_pos hcurrent]
    exact ⟨past.1, rfl⟩
  · rw [if_neg hcurrent, if_neg hcurrent]
    by_cases hmust : "Password must".toList.isPrefixOf message.toList = true
    · rw [if_pos hmust, if_pos hmust]
      exact ⟨log, rfl⟩
    · rw [if_neg hmust, if_neg hmust]
      by_cases hused : "Password was already used".toList.isPrefixOf message.toList = true
      · rw [if_pos hused, if_pos hused]
        exact ⟨past.1, rfl⟩
      · rw [if_neg hused, if_neg hused]
        exact ⟨past.1, rfl⟩

end PasswordSession

namespace PasswordCall

variable {σ : Type}

/-- A call answers the same, whether the source is recorded or not. -/
theorem exists_run_recorded (source : PolicySource σ) (call : PasswordCall) (session : PasswordSession)
    (past : FetchLog × σ) :
    ∃ log, call.run source.recorded session past
      = ((call.run source session past.2).1, (call.run source session past.2).2.1, log,
          (call.run source session past.2).2.2) := by
  obtain ⟨log, hensure⟩ := session.exists_ensure_recorded source past
  cases call with
  | ensure =>
    refine ⟨log, ?_⟩
    rw [run, hensure]
    rfl
  | reload =>
    obtain ⟨log, hreload⟩ := session.exists_reload_recorded source past
    refine ⟨log, ?_⟩
    rw [run, hreload]
    rfl
  | check current new confirmation =>
    refine ⟨log, ?_⟩
    rw [run, PasswordSession.check, hensure]
    rfl
  | submit current new confirmation =>
    refine ⟨log, ?_⟩
    rw [run, PasswordSession.submit, PasswordSession.check, hensure]
    rfl
  | reject message =>
    obtain ⟨log, hreject⟩ := session.exists_interpretRejection_recorded source past message
    refine ⟨log, ?_⟩
    rw [run, hreject]
    rfl

/-- So does a run. -/
theorem runAll_of_recorded {source : PolicySource σ} {calls : List PasswordCall}
    {session last : PasswordSession} {past final : FetchLog × σ}
    {steps : List (PasswordStep (FetchLog × σ))}
    (h : runAll source.recorded calls session past = (steps, last, final)) :
    runAll source calls session past.2 = (steps.map PasswordStep.forget, last, final.2) := by
  induction calls generalizing session past steps with
  | nil =>
    cases h
    rfl
  | cons call calls ih =>
    obtain ⟨log, hrecorded⟩ := exists_run_recorded source call session past
    obtain ⟨outcome, after, world, hrun⟩ :
        ∃ outcome after world, call.run source session past.2 = (outcome, after, world) := ⟨_, _, _, rfl⟩
    rw [hrun] at hrecorded
    obtain ⟨rest, hrest⟩ :
        ∃ rest, runAll source.recorded calls after (log, world) = (rest, last, final) := by
      rw [runAll, hrecorded] at h
      exact ⟨_, Prod.ext rfl (Prod.mk.inj h).2⟩
    rw [runAll, hrecorded] at h
    dsimp only at h
    rw [hrest] at h
    cases h
    rw [runAll, hrun]
    dsimp only
    rw [ih hrest]
    rfl

end PasswordCall

namespace PasswordSession

/-- Every run of a session refines its record.  The policy that is held is that of the latest fetch that
succeeded, and no failure is held exactly if nothing was fetched or the latest fetch succeeded.  A policy is
fetched once for each call that needs one while there is none, and once for each reload.  What is to be said
of the single calls is said of each of them. -/
theorem session_refines_record {σ : Type} (source : PolicySource σ) (calls : List PasswordCall)
    (world : σ) :
    ∃ steps session log world',
      PasswordCall.runAll source.recorded calls start ([], world) = (steps, session, log, world')
        ∧ PasswordCall.runAll source calls start world
          = (steps.map PasswordStep.forget, session, world')
        ∧ session.policy = log.lastLoaded
        ∧ (session.lastError = none ↔ log = [] ∨ ∃ policy earlier, log = .ok policy :: earlier)
        ∧ log.length = steps.countP (fun step => step.call.needsPolicy && step.before.policy.isNone)
          + steps.countP (·.call.reloads)
        ∧ ∀ step ∈ steps, step.Meets := by
  obtain ⟨steps, log, world', hrun, hlength, hmeets⟩ := PasswordCall.runAll_ofLog source calls ([], world)
  refine ⟨steps, ofLog log, log, world', hrun, PasswordCall.runAll_of_recorded hrun, rfl,
    log.lastFailure_eq_none_iff, ?_, hmeets⟩
  rw [hlength, List.length_nil, Nat.zero_add]

end PasswordSession

end MqttProfile
