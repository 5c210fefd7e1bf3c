import MqttProfile.Proofs.Entered
import MqttProfile.Service.Collaborators

/-!
# Answers that refuse a call

A service refuses a call by the status of its answer.  Every collaborator reports such an answer with its
status and a message, and it does so from status 400 on.  A lower status is not looked at, be it a success
or a redirection: the answer is read as if its status were 200, and an empty one holds whatever the call
takes for nothing.

Three things live here:

* `errorMessage_ne_empty`, which says that there is always a message to report;
* `ServiceCall`, the calls of the collaborators as one family: `run_of_writable` says that each makes one
  request and reads the answer, unless it has something to send that cannot be written, and
  `status_of_read_eq_error` that reading never reports a status of its own;
* `refused_iff_error_status`, which puts both together, also for the session that fetches a password
  policy.
-/

namespace MqttProfile

/-! ## Messages -/

namespace Network

/-- The status stands in for a body that is empty. -/
theorem plainMessage_ne_empty (status : Int) (body : String) : plainMessage status body ≠ "" := by
  rw [plainMessage]
  split
  · intro hempty
    have hlist := congrArg String.toList hempty
    rw [String.toList_append] at hlist
    cases hlist
  · rename_i hbody
    rwa [Bool.not_eq_true, String.isEmpty_eq_false_iff] at hbody

/-- There is always a message to report. -/
theorem errorMessage_ne_empty (status : Int) (body : String) : errorMessage status body ≠ "" := by
  unfold errorMessage
  split
  · dsimp only
    split
    · rename_i htruthy
      exact Json.display_ne_empty htruthy
    · exact plainMessage_ne_empty status body
  · exact plainMessage_ne_empty status body

/-! ## Answers -/

/-- An outcome that reports a status with a message that is not empty. -/
def Refused {α : Type} (status : Int) (outcome : Except Error α) : Prop :=
  ∃ message, message ≠ "" ∧ outcome = .error (.rejected status message)

/-- A network whose next reply is an answer. -/
def answering (network : Network) (status : Int) (body : String) : Network :=
  { network with replies := .answer status body :: network.replies }

theorem refused_readAnswer {status : Int} (h : 400 ≤ status) (body : String) :
    Refused status (readAnswer status body) := by
  rw [readAnswer, if_pos h]
  exact ⟨errorMessage status body, errorMessage_ne_empty status body, rfl⟩

theorem readAnswer_of_lt {status : Int} (h : status < 400) (body : String) :
    readAnswer status body = readAnswer 200 body := by
  rw [readAnswer, readAnswer, if_neg (by omega), if_neg (by omega : ¬ (400 : Int) ≤ 200)]

/-- What is read of an answer below 400 reports no status. -/
theorem status_of_readAnswer_eq_error {status : Int} {body : String} {error : Error}
    (hstatus : status < 400) (h : readAnswer status body = .error error) : error.status? = none := by
  rw [readAnswer, if_neg (by omega)] at h
  split at h
  · cases h
  · cases hread : readBody body with
    | error fault =>
      rw [hread] at h
      cases h
      rfl
    | ok payload =>
      rw [hread] at h
      cases h

theorem send_answering {request : Request} (h : request.sendable = true) (network : Network)
    (status : Int) (body : String) :
    (network.answering status body).send request
      = (readAnswer status body, { network with requests := network.requests ++ [request] }) :=
  if_pos h

theorem send_of_not_sendable {request : Request} (h : request.sendable = false) (network : Network) :
    network.send request = (.error (.fault .badValue), network) :=
  if_neg (Bool.eq_false_iff.mp h)

/-- Whoever reads a refusal passes it on. -/
theorem Refused.reading {α : Type} {status : Int} {outcome : Except Error Json}
    (h : Refused status outcome) (read : Json → Except Error α) (network : Network) :
    Refused status (Network.reading read (outcome, network)).1 := by
  obtain ⟨message, hmessage, rfl⟩ := h
  exact ⟨message, hmessage, rfl⟩

end Network

theorem status_of_liftFault_eq_error {α : Type} {outcome : Except Fault α} {error : Error}
    (h : liftFault outcome = .error error) : error.status? = none := by
  cases outcome with
  | ok _ => cases h
  | error fault =>
    cases h
    rfl

theorem status_of_liftIntake_eq_error {α : Type} {outcome : Intake α} {error : Error}
    (h : liftIntake outcome = .error error) : error.status? = none := by
  cases outcome with
  | ok _ => cases h
  | error issues =>
    cases h
    rfl

/-! ## The calls of the collaborators -/

/-- A call of a collaborator that asks a service. -/
inductive ServiceCall where
  | issue (name clientId username : Json)
  | fetchCredential (id : Json)
  | saveProfile (profile : Profile)
  | fetchSettings
  | fetchPolicy

namespace ServiceCall

open Network

/-- What a call yields when it succeeds. -/
def Answer : ServiceCall → Type
  | .issue _ _ _ | .fetchCredential _ => CredentialReference
  | .saveProfile _ => Profile
  | .fetchSettings => Option ConnectivitySettings
  | .fetchPolicy => PasswordPolicy

/-- Makes a call through its collaborator. -/
def run (paths : ServicePaths) :
    (call : ServiceCall) → Network → Except Error call.Answer × Network
  | .issue name clientId username => (Network.credentialStore paths).issue name clientId username
  | .fetchCredential id => (Network.credentialStore paths).fetch id
  | .saveProfile profile => (Network.profileStore paths).save profile
  | .fetchSettings => (Network.settingsSource paths).fetch
  | .fetchPolicy => (Network.policySource paths).fetch

/-- Whether everything that a call sends can be written. -/
def writable : ServiceCall → Bool
  | .issue name clientId username => name.writable && clientId.writable && username.writable
  | .fetchCredential id => id.writable
  | .saveProfile profile => profile.toJson.writable
  | .fetchSettings | .fetchPolicy => true

/-- The request of a call whose values can be written. -/
def request (paths : ServicePaths) : ServiceCall → Request
  | .issue name clientId username =>
    ⟨.post, paths.clientCredentials, some (issueBody name (Credentials.text clientId username .null))⟩
  | .fetchCredential id => ⟨.get, paths.clientCredentials ++ "/" ++ id.display, none⟩
  | .saveProfile profile => ⟨.post, paths.connections, some profile.toJson⟩
  | .fetchSettings => ⟨.get, paths.connectivitySettings, none⟩
  | .fetchPolicy => ⟨.get, paths.passwordPolicy, none⟩

/-- What a call makes of an answer. -/
def read : (call : ServiceCall) → Json → Except Error call.Answer
  | .issue _ _ _ | .fetchCredential _ => readCredential
  | .saveProfile _ => fun payload => liftFault (Profile.ofJson payload)
  | .fetchSettings => fun payload => (readSettings payload).map some
  | .fetchPolicy => readPolicy

theorem writable_issue (name clientId username : Json) :
    writable (.issue name clientId username)
      = (name.writable && (Credentials.content clientId username .null).writable) := by
  simp [writable, Credentials.writable_content, Json.writable, Bool.and_assoc]

theorem sendable_issueBody (path name : Json) (text : String) :
    Request.sendable ⟨.post, path, some (issueBody name text)⟩ = name.writable := by
  simp [Request.sendable, issueBody, Json.writable, Json.membersWritable]

theorem sendable_request (paths : ServicePaths) {call : ServiceCall} (h : call.writable = true) :
    (call.request paths).sendable = true := by
  cases call with
  | issue name clientId username =>
    rw [writable_issue, Bool.and_eq_true] at h
    exact (sendable_issueBody _ name _).trans h.1
  | saveProfile profile => exact h
  | fetchCredential id => rfl
  | fetchSettings => rfl
  | fetchPolicy => rfl

/-- A call whose values can be written makes one request and reads what comes back. -/
theorem run_of_writable (paths : ServicePaths) {call : ServiceCall} (h : call.writable = true)
    (network : Network) : call.run paths network = reading call.read (network.send (call.request paths)) := by
  cases call with
  | issue name clientId username =>
    rw [writable_issue, Bool.and_eq_true] at h
    simp only [run, credentialStore, Credentials.write, Json.write_of_writable _ h.2]
    rfl
  | fetchCredential id =>
    simp only [run, credentialStore, Json.shown_of_writable (show id.writable = true from h)]
    rfl
  | saveProfile profile => rfl
  | fetchSettings => rfl
  | fetchPolicy => rfl

/-- A call whose values cannot be written makes no request. -/
theorem run_of_not_writable (paths : ServicePaths) {call : ServiceCall} (h : call.writable = false)
    (network : Network) : call.run paths network = (.error (.fault .badValue), network) := by
  cases call with
  | issue name clientId username =>
    rw [writable_issue] at h
    -- the text of the credential is written before the request, and the name with it
    cases hcontent : (Credentials.content clientId username .null).writable with
    | true =>
      rw [hcontent, Bool.and_true] at h
      simp only [run, credentialStore, Credentials.write, Json.write_of_writable _ hcontent, post,
        send_of_not_sendable ((sendable_issueBody _ name _).trans h)]
      rfl
    | false =>
      simp only [run, credentialStore, Credentials.write, Json.write_of_not_writable _ hcontent]
      rfl
  | fetchCredential id =>
    simp only [run, credentialStore, Json.shown_of_not_writable (show id.writable = false from h)]
    rfl
  | saveProfile profile =>
    have hsend : Request.sendable ⟨.post, paths.connections, some profile.toJson⟩ = false := h
    simp only [run, profileStore, post, send_of_not_sendable hsend]
    rfl
  | fetchSettings => cases h
  | fetchPolicy => cases h

/-- Reading an answer reports no status. -/
theorem status_of_read_eq_error {call : ServiceCall} {payload : Json} {error : Error}
    (h : call.read payload = .error error) : error.status? = none := by
  have hcredential : ∀ payload, readCredential payload = .error error → error.status? = none := by
    intro payload hread
    cases payload with
    | obj members => exact status_of_liftFault_eq_error hread
    | null | bool _ | int _ | float _ | str _ | arr _ =>
      cases hread
      rfl
  cases call with
  | issue _ _ _ | fetchCredential _ => exact hcredential payload h
  | saveProfile _ => exact status_of_liftFault_eq_error h
  | fetchPolicy => exact status_of_liftIntake_eq_error h
  | fetchSettings =>
    cases hread : readSettings payload with
    | ok settings =>
      simp only [read, hread] at h
      cases h
    | error cause =>
      simp only [read, hread] at h
      cases h
      rw [readSettings] at hread
      cases hmembers : liftFault (payload.orElse (.obj [])).asObject with
      | error fault =>
        rw [hmembers] at hread
        cases hread
        exact status_of_liftFault_eq_error hmembers
      | ok members =>
        rw [hmembers] at hread
        exact status_of_liftIntake_eq_error hread

theorem refused_run (paths : ServicePaths) {call : ServiceCall} (hcall : call.writable = true)
    (network : Network) {status : Int} (h : 400 ≤ status) (body : String) :
    Refused status (call.run paths (network.answering status body)).1 := by
  rw [run_of_writable paths hcall, send_answering (sendable_request paths hcall)]
  exact (refused_readAnswer h body).reading call.read _

/-- A call that is answered below 400 makes of the answer what it makes of one with status 200. -/
theorem run_answering_of_lt (paths : ServicePaths) {call : ServiceCall} (hcall : call.writable = true)
    (network : Network) {status : Int} (h : status < 400) (body : String) :
    call.run paths (network.answering status body) = call.run paths (network.answering 200 body) := by
  rw [run_of_writable paths hcall, run_of_writable paths hcall,
    send_answering (sendable_request paths hcall), send_answering (sendable_request paths hcall),
    readAnswer_of_lt h]

/-- A call that is answered below 400 may fail, but not with a status. -/
theorem not_refused_run (paths : ServicePaths) {call : ServiceCall} (hcall : call.writable = true)
    (network : Network) {status : Int} (h : status < 400) (body : String) :
    ¬ Refused status (call.run paths (network.answering status body)).1 := by
  intro hrefused
  obtain ⟨message, -, hfailed⟩ := hrefused
  rw [run_of_writable paths hcall, send_answering (sendable_request paths hcall), Network.reading] at hfailed
  cases hanswer : readAnswer status body with
  | error error =>
    have hstatus := status_of_readAnswer_eq_error h hanswer
    rw [hanswer] at hfailed
    cases hfailed
    cases hstatus
  | ok payload =>
    rw [hanswer] at hfailed
    change call.read payload = .error _ at hfailed
    have hstatus := status_of_read_eq_error hfailed
    cases hstatus

end ServiceCall

/-! ## The session that fetches a policy -/

namespace PasswordSession

open Network

/-- The session holds the policy that it held before, and a refusal is noted as the reason. -/
def Turned (status : Int) (before after : PasswordSession) : Prop :=
  after.policy = before.policy
    ∧ ∃ message, message ≠ "" ∧ after.lastError = some (.policyFetch (.rejected status message))

/-- A session whose source is refused loads nothing. -/
theorem turned_reload (paths : ServicePaths) (session : PasswordSession) (network : Network)
    {status : Int} (h : 400 ≤ status) (body : String) :
    Turned status session
      (session.reload (policySource paths) (network.answering status body)).1 := by
  obtain ⟨message, hmessage, hrefused⟩ :=
    ServiceCall.refused_run paths (show ServiceCall.writable .fetchPolicy = true from rfl) network h body
  change ((policySource paths).fetch _).1 = _ at hrefused
  rw [reload_eq]
  cases hfetch : (policySource paths).fetch (network.answering status body) with
  | mk outcome after =>
    rw [hfetch] at hrefused
    cases hrefused
    exact ⟨rfl, message, hmessage, rfl⟩

/-- An answer below 400 is to a session what it would be with status 200. -/
theorem reload_answering_of_lt (paths : ServicePaths) (session : PasswordSession) (network : Network)
    {status : Int} (h : status < 400) (body : String) :
    session.reload (policySource paths) (network.answering status body)
      = session.reload (policySource paths) (network.answering 200 body) := by
  have hrun : (policySource paths).fetch (network.answering status body)
      = (policySource paths).fetch (network.answering 200 body) :=
    ServiceCall.run_answering_of_lt paths (show ServiceCall.writable .fetchPolicy = true from rfl) network h
      body
  rw [reload_eq, reload_eq, hrun]

/-- Without a policy, submitting a change is refused as long as the source is. -/
theorem submit_answering (paths : ServicePaths) {session : PasswordSession} (network : Network)
    {status : Int} (hempty : session.policy = none) (h : 400 ≤ status) (body : String)
    (current new confirmation : String) :
    (session.submit (policySource paths) current new confirmation
      (network.answering status body)).1 = .error .changeBlocked := by
  obtain ⟨hkept, -⟩ := turned_reload paths session network h body
  rw [submit, check, ensure_of_isNone _ _ hempty]
  dsimp only
  rw [hkept, hempty, if_neg (by decide)]

end PasswordSession

namespace ServiceCall

open Network

/-- A call of a collaborator is refused, with the status of the answer and a message, exactly when the
status is 400 or more, whatever the body is; and a session loads no policy from such an answer.  Below
400 the status makes no difference, neither to a call nor to a session.  Only a call whose values cannot be
written is not answered at all: it makes no request. -/
theorem refused_iff_error_status (paths : ServicePaths) (network : Network) (status : Int)
    (body : String) :
    (∀ call : ServiceCall,
      (Refused status (call.run paths (network.answering status body)).1
          ↔ call.writable = true ∧ 400 ≤ status)
        ∧ (call.writable = true ∧ status < 400 →
          call.run paths (network.answering status body)
            = call.run paths (network.answering 200 body))
        ∧ (call.writable = false →
          call.run paths (network.answering status body)
            = (.error (.fault .badValue), network.answering status body)))
      ∧ ∀ session : PasswordSession,
        (400 ≤ status →
          session.Turned status
              (session.reload (policySource paths) (network.answering status body)).1
            ∧ (session.policy = none → ∀ current new confirmation : String,
              (session.submit (policySource paths) current new confirmation
                (network.answering status body)).1 = .error .changeBlocked))
        ∧ (status < 400 →
          session.reload (policySource paths) (network.answering status body)
            = session.reload (policySource paths) (network.answering 200 body)) := by
  refine ⟨fun call => ⟨⟨?_, ?_⟩, ?_, ?_⟩, fun session => ⟨?_, ?_⟩⟩
  · intro hrefused
    cases hcall : call.writable with
    | true =>
      refine ⟨rfl, ?_⟩
      by_contra hlow
      exact not_refused_run paths hcall network (Int.not_le.mp hlow) body hrefused
    | false =>
      rw [run_of_not_writable paths hcall] at hrefused
      obtain ⟨message, -, hfailed⟩ := hrefused
      cases hfailed
  · rintro ⟨hcall, h⟩
    exact refused_run paths hcall network h body
  · rintro ⟨hcall, h⟩
    exact run_answering_of_lt paths hcall network h body
  · intro hcall
    exact run_of_not_writable paths hcall _
  · intro h
    refine ⟨session.turned_reload paths network h body, ?_⟩
    intro hempty current new confirmation
    exact PasswordSession.submit_answering paths network hempty h body current new confirmation
  · intro h
    exact session.reload_answering_of_lt paths network h body

/-- A redirection with an empty body is no refusal: a session takes it for the policy that demands
nothing. -/
theorem redirection_loads_policy :
    ¬ Refused 302 (ServiceCall.fetchPolicy.run .standard (Network.answering ⟨[], []⟩ 302 "")).1
      ∧ (PasswordSession.start.reload (policySource .standard)
          (Network.answering ⟨[], []⟩ 302 "")).1 = ⟨some .unrestricted, none⟩ := by
  have hfetch : (ServiceCall.fetchPolicy.run .standard (Network.answering ⟨[], []⟩ 302 "")).1
      = .ok .unrestricted := by
    change ((policySource .standard).fetch (Network.answering ⟨[], []⟩ 302 "")).1 = .ok .unrestricted
    decide +kernel
  refine ⟨?_, by decide +kernel⟩
  intro hrefused
  obtain ⟨message, -, hfailed⟩ := hrefused
  rw [hfetch] at hfailed
  cases hfailed

end ServiceCall

end MqttProfile
