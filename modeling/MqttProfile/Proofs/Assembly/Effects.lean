import MqttProfile.Proofs.Assembly.Legal
import MqttProfile.Proofs.Assembly.Outcome
import MqttProfile.Service.Collaborators

/-!
# What saving does to the stores

Saving a draft goes through four phases: a check, a credential that is issued in the generated mode, a merge,
and a profile that is handed to its store.  Each of them can end the run, and only the two stores have effects
outside.  Here their calls are written down as they are made, by stores that record them and otherwise do
what the stores behind them do.  The merge fails for a last will that cannot be encoded, and by then the
credential is issued.

* the `_recorded` lemmas say which calls each phase makes;
* `SavesInOrder` is what is to be said of a run, and `saves_in_order` says it of every draft that a flow
  reaches, whatever the stores answer.
-/

namespace MqttProfile

variable {σ : Type}

/-! ## Stores that record their calls -/

/-- A call of a store, with its arguments. -/
inductive StoreCall where
  | issue (name clientId username : Json)
  | fetch (id : Json)
  | save (profile : Profile)
deriving DecidableEq

/-- The outcome of a call, with the call put behind those that were made before. -/
def recording {α : Type} (call : StoreCall) (calls : List StoreCall) (outcome : α × σ) :
    α × List StoreCall × σ :=
  (outcome.1, calls ++ [call], outcome.2)

/-- The store of credentials with its calls recorded. -/
def CredentialStore.recorded (store : CredentialStore σ) : CredentialStore (List StoreCall × σ) where
  issue name clientId username world :=
    recording (.issue name clientId username) world.1 (store.issue name clientId username world.2)
  fetch id world := recording (.fetch id) world.1 (store.fetch id world.2)

/-- The store of profiles with its calls recorded. -/
def ProfileStore.recorded (store : ProfileStore σ) : ProfileStore (List StoreCall × σ) where
  save profile world := recording (.save profile) world.1 (store.save profile world.2)

namespace Draft

/-- The call that issues credentials for a draft. -/
def issueCall (draft : Draft) : StoreCall :=
  let identity := draft.connection.identity
  .issue identity.credentialsName.value.trimmed identity.clientId.value.trimmed
    identity.username.value.trimmed

/-- The calls that a draft needs before it is merged: one in the generated mode, and else none. -/
def issueCalls (draft : Draft) : List StoreCall :=
  if draft.credentialMode = .auto then [draft.issueCall] else []

/-- A run of saving, with the calls that it makes. -/
def recordedSave (credentials : CredentialStore σ) (profiles : ProfileStore σ) (user : Option String)
    (draft : Draft) (g : Generator) (world : σ) :
    Except Error Assembly × Generator × List StoreCall × σ :=
  draft.save credentials.recorded profiles.recorded user g ([], world)

/-! ## The calls of each phase -/

section Recorded

variable (credentials : CredentialStore σ) (profiles : ProfileStore σ) (user : Option String)
  (draft : Draft) (g : Generator) (calls : List StoreCall) (world : σ)

/-- Getting the credential makes the calls that the draft needs, and otherwise runs as it would. -/
theorem linkedReference_recorded :
    draft.linkedReference credentials.recorded (calls, world)
      = ((draft.linkedReference credentials world).1, calls ++ draft.issueCalls,
          (draft.linkedReference credentials world).2) := by
  by_cases hmode : draft.credentialMode = .auto
  · rw [linkedReference_eq_issued credentials world hmode,
      linkedReference_eq_issued credentials.recorded (calls, world) hmode, issueCalls, if_pos hmode]
    rfl
  · rw [linkedReference_of_ne_auto credentials hmode,
      linkedReference_of_ne_auto credentials.recorded hmode, issueCalls, if_neg hmode, List.append_nil]

variable {draft}

/-- A draft that is assembled has made the calls that it needs. -/
theorem assemble_recorded {assembly : Assembly} {g' : Generator} {world' : σ}
    (h : draft.assemble credentials user g world = (.ok assembly, g', world')) :
    draft.assemble credentials.recorded user g (calls, world)
      = (.ok assembly, g', calls ++ draft.issueCalls, world') := by
  obtain ⟨intervals, reference?, hcheck, hlinked, hencodable, hassembly, hg⟩ :=
    (assemble_eq_ok_iff credentials user draft g g' world world' assembly).mp h
  refine (assemble_eq_ok_iff credentials.recorded user draft g g' (calls, world) _ assembly).mpr
    ⟨intervals, reference?, hcheck, ?_, hencodable, hassembly, hg⟩
  rw [linkedReference_recorded, hlinked]

theorem recordedSave_of_check_error {error : Error} (h : draft.check = .error error) :
    draft.recordedSave credentials profiles user g world = (.error error, g, [], world) :=
  save_of_check_error _ _ user g _ h

/-- A draft whose credentials are not issued makes no other call. -/
theorem recordedSave_of_issue_error {intervals : Intervals} {cause : Error}
    (hnamed : draft.connection.identity.NamedIfGenerated) (hcheck : draft.check = .ok intervals)
    (hmode : draft.credentialMode = .auto)
    (hissue : (draft.issueAnswer credentials world).1 = .error cause) :
    draft.recordedSave credentials profiles user g world
      = (.error (.issuance draft.connection.identity.credentialsName.value.trimmed cause), g,
          [draft.issueCall], (draft.issueAnswer credentials world).2) := by
  have hshown : draft.connection.identity.credentialsName.value.trimmed.writable = true := by
    obtain ⟨-, s, hname⟩ := hnamed hmode
    rw [hname]
    rfl
  have hissued : draft.issued (.error cause)
      = .error (.issuance draft.connection.identity.credentialsName.value.trimmed cause) :=
    congrArg Except.error (Error.showing_of_writable _ hshown)
  have hrecorded := linkedReference_recorded credentials draft [] world
  rw [linkedReference_eq_issued credentials world hmode, hissue, hissued, issueCalls, if_pos hmode]
    at hrecorded
  exact save_of_linked_error _ _ user g _ hcheck hrecorded

/-- A draft whose last will cannot be encoded makes no other call than those that it needs before. -/
theorem recordedSave_of_not_encodable {intervals : Intervals} {reference? : Option CredentialReference}
    {world' : σ} (hcheck : draft.check = .ok intervals)
    (hlinked : draft.linkedReference credentials world = (.ok reference?, world'))
    (hencodable : draft.willEncodable = false) :
    draft.recordedSave credentials profiles user g world
      = (.error (.fault .badValue), draft.generatorAfter g, draft.issueCalls, world') := by
  have hrecorded := linkedReference_recorded credentials draft [] world
  rw [hlinked] at hrecorded
  exact save_of_not_encodable _ _ user g _ hcheck hrecorded hencodable

/-- A draft that is assembled is saved with one call more, and with the answer of the store behind. -/
theorem recordedSave_of_assemble {assembly : Assembly} {g' : Generator} {world' : σ}
    (h : draft.assemble credentials user g world = (.ok assembly, g', world')) :
    draft.recordedSave credentials profiles user g world
      = (assembly.answer (profiles.save assembly.profile world').1, g',
          draft.issueCalls ++ [.save assembly.profile],
          (profiles.save assembly.profile world').2) := by
  rw [recordedSave, save_of_assemble _ _ user g _ (assemble_recorded credentials user g [] world h)]
  rfl

/-- Recording the calls of a run changes nothing else. -/
theorem save_eq_recordedSave :
    draft.save credentials profiles user g world
      = ((draft.recordedSave credentials profiles user g world).1,
          (draft.recordedSave credentials profiles user g world).2.1,
          (draft.recordedSave credentials profiles user g world).2.2.2) := by
  cases draft.ends credentials world with
  | refused hcheck =>
    rw [save_of_check_error _ _ user g _ hcheck, recordedSave_of_check_error _ _ user g _ hcheck]
  | unlinked hcheck hlinked =>
    have hrecorded := linkedReference_recorded credentials draft [] world
    rw [hlinked] at hrecorded
    rw [recordedSave, save_of_linked_error _ _ user g _ hcheck hlinked,
      save_of_linked_error _ _ user g _ hcheck hrecorded]
  | unencodable hcheck hlinked hencodable =>
    rw [save_of_not_encodable _ _ user g _ hcheck hlinked hencodable,
      recordedSave_of_not_encodable _ _ user g _ hcheck hlinked hencodable]
  | assembled hcheck hlinked hencodable =>
    have hassemble := assemble_of_linked credentials user g world hcheck hlinked hencodable
    rw [save_of_assemble _ _ user g _ hassemble, recordedSave_of_assemble _ _ user g _ hassemble]

end Recorded

/-! ## The whole -/

/-- What saving a draft does, phase by phase. -/
structure SavesInOrder (credentials : CredentialStore σ) (profiles : ProfileStore σ)
    (user : Option String) (draft : Draft) (g : Generator) (world : σ) : Prop where
  /-- The calls are those of the run that is not recorded. -/
  observed : draft.save credentials profiles user g world
    = ((draft.recordedSave credentials profiles user g world).1,
        (draft.recordedSave credentials profiles user g world).2.1,
        (draft.recordedSave credentials profiles user g world).2.2.2)
  /-- A draft that fails its check is reported as a field of a step; no store is called and nothing is
  drawn. -/
  refused : ∀ error, draft.check = .error error →
    (∃ step field reason, error = .structural step field reason)
      ∧ draft.recordedSave credentials profiles user g world = (.error error, g, [], world)
  /-- In the generated mode a store that does not issue credentials has the only call. -/
  unissued : ∀ intervals cause, draft.check = .ok intervals → draft.credentialMode = .auto →
    (draft.issueAnswer credentials world).1 = .error cause →
    draft.recordedSave credentials profiles user g world
      = (.error (.issuance draft.connection.identity.credentialsName.value.trimmed cause), g,
          [draft.issueCall], (draft.issueAnswer credentials world).2)
  /-- Once credentials are issued, or where none are needed, a last will that cannot be encoded ends the run
  before any other call; a client identifier is drawn all the same where there is none. -/
  unencoded : ∀ intervals, draft.check = .ok intervals →
    (draft.credentialMode = .auto → ∃ reference, (draft.issueAnswer credentials world).1 = .ok reference) →
    draft.willEncodable = false →
    draft.recordedSave credentials profiles user g world
      = (.error (.fault .badValue), draft.generatorAfter g, draft.issueCalls,
          (draft.linkedReference credentials world).2)
  /-- In all other cases the draft is assembled then, and its profile is handed over in one call that comes
  last; a client identifier is drawn exactly where there is none. -/
  handedOver : ∀ intervals, draft.check = .ok intervals →
    (draft.credentialMode = .auto → ∃ reference, (draft.issueAnswer credentials world).1 = .ok reference) →
    draft.willEncodable = true →
    ∃ assembly world', draft.assemble credentials user g world = (.ok assembly, draft.generatorAfter g, world')
      ∧ draft.recordedSave credentials profiles user g world
        = (assembly.answer (profiles.save assembly.profile world').1, draft.generatorAfter g,
            draft.issueCalls ++ [.save assembly.profile],
            (profiles.save assembly.profile world').2)
  /-- A failure is a field of a step, or credentials that were not issued, or a profile that was not saved,
  which leads back to the first step; or it is a bad value, namely a last will that cannot be encoded or the
  name of a profile that was not saved and cannot be shown. -/
  reported : ∀ error, (draft.recordedSave credentials profiles user g world).1 = .error error →
    (∃ step field reason, error = .structural step field reason)
      ∨ (draft.credentialMode = .auto ∧ ∃ name cause, error = .issuance name cause)
      ∨ (∃ name cause, error = .persistence name cause ∧ error.step?.map Step.index = some 0)
      ∨ error = .fault .badValue
        ∧ (draft.willEncodable = false ∨ draft.connection.name.value.trimmed.writable = false)

/-- Saving a draft that events lead to calls the stores in order and no more often than it has to, whatever
they answer. -/
theorem saves_in_order (config : Config) (start draft : Draft) (events : List Event)
    (hstart : Begun config start) (hreached : Reached config start events draft)
    (hwill : ∀ will, draft.lastWill = some will → will.Counted) (credentials : CredentialStore σ)
    (profiles : ProfileStore σ) (user : Option String) (g : Generator) (world : σ) :
    SavesInOrder credentials profiles user draft g world := by
  have hchecks := checks_check (hreached.wellFormed hstart.wellFormed) hwill
  have hnamed := hreached.namedIfGenerated hstart
  constructor
  · exact save_eq_recordedSave credentials profiles user g world
  · intro error hcheck
    exact ⟨hchecks.reports error hcheck, recordedSave_of_check_error _ profiles user g world hcheck⟩
  · intro intervals cause hcheck hmode hissue
    exact recordedSave_of_issue_error credentials profiles user g world hnamed hcheck hmode hissue
  · intro intervals hcheck hissue hencodable
    obtain ⟨reference?, world', hlinked⟩ := exists_linkedReference credentials world hissue
    rw [recordedSave_of_not_encodable _ profiles user g world hcheck hlinked hencodable, hlinked]
  · intro intervals hcheck hissue hencodable
    obtain ⟨assembly, world', hassemble⟩ := exists_assemble credentials user g world hcheck hissue hencodable
    exact ⟨assembly, world', hassemble, recordedSave_of_assemble _ profiles user g _ hassemble⟩
  · -- a failure comes from the check, from a store that was to issue, from the merge, or from the last call
    intro error hfailed
    cases draft.ends credentials world with
    | refused hcheck =>
      rw [recordedSave_of_check_error _ profiles user g world hcheck] at hfailed
      cases hfailed
      exact .inl (hchecks.reports error hcheck)
    | unlinked hcheck hlinked =>
      obtain ⟨hmode, cause, hissue⟩ := issue_error_of_linked_error hlinked
      rw [recordedSave_of_issue_error _ profiles user g world hnamed hcheck hmode hissue] at hfailed
      cases hfailed
      exact .inr (.inl ⟨hmode, _, cause, rfl⟩)
    | unencodable hcheck hlinked hencodable =>
      rw [recordedSave_of_not_encodable _ profiles user g world hcheck hlinked hencodable] at hfailed
      cases hfailed
      exact .inr (.inr (.inr ⟨rfl, .inl hencodable⟩))
    | assembled hcheck hlinked hencodable =>
      have hassemble := assemble_of_linked credentials user g world hcheck hlinked hencodable
      rw [recordedSave_of_assemble _ profiles user g _ hassemble] at hfailed
      rcases Assembly.of_answer_eq_error _ hfailed with ⟨cause, rfl⟩ | ⟨hbad, hname⟩
      · exact .inr (.inr (.inl ⟨_, cause, rfl, rfl⟩))
      · rw [merged_name] at hname
        exact .inr (.inr (.inr ⟨hbad, .inr hname⟩))

/-- A service that refuses to issue credentials is asked once, and no profile is handed over. -/
theorem refused_issue_saves_nothing :
    let network : Network := ⟨[.answer 409 "taken"], []⟩
    let draft := withLastWill (.ofStep 0 7)
    SavesInOrder (Network.credentialStore .standard) (Network.profileStore .standard) (some "user-1")
        draft (.ofStep 3 7) network
      ∧ (draft.recordedSave (Network.credentialStore .standard) (Network.profileStore .standard)
          (some "user-1") (.ofStep 3 7) network).2.2.1 = [draft.issueCall] := by
  intro network draft
  let g : Generator := .ofStep 0 7
  let event : Event := .editLastWill draft.lastWill
  have hreached : Reached Config.standard (first g) [event] draft := Reached.refl.step (g := g) rfl
  have hcounted : ∀ will, draft.lastWill = some will → will.Counted := by
    rintro will ⟨⟩
    exact ⟨⟨1, rfl⟩, .inl rfl, .inl rfl⟩
  have horder := saves_in_order Config.standard (first g) draft [event] (begun_first g) hreached
    hcounted (Network.credentialStore .standard) (Network.profileStore .standard) (some "user-1")
    (.ofStep 3 7) network
  have hcheck : draft.check = .ok ⟨60, 30000, 1000⟩ := by decide +kernel
  have hissue : (draft.issueAnswer (Network.credentialStore .standard) network).1
      = .error (.rejected 409 "taken") := by decide +kernel
  refine ⟨horder, ?_⟩
  rw [horder.unissued _ _ hcheck (by decide) hissue]

/-- A first draft with a last will that announces a number. -/
def withReading (n : Int) (g : Generator) : Draft :=
  { first g with lastWill := some ⟨.str "status", .arr [.int n], .int 0, .bool false, .none⟩ }

theorem willEncodable_withReading (n : Int) (g : Generator) :
    (withReading n g).willEncodable = Text.writable n := by
  have htopic : (Json.str (Text.trim "status")).truthy = true := by decide
  simp [willEncodable, withReading, LastWill.encodable, LastWill.trimmed, htopic, Json.trimmed, Json.storable,
    Json.isStructured, Json.writable, Json.itemsWritable]

/-- With a number of too many digits it passes its check and its credentials are issued, but then it cannot be
merged, and no profile is handed over. -/
theorem long_reading_saves_nothing :
    let network : Network := ⟨[.answer 200 "\x7b\"id\": \"c1\"\x7d"], []⟩
    let draft := withReading (Nat.pow 10 Text.digitLimit) (.ofStep 0 7)
    let run := draft.recordedSave (Network.credentialStore .standard) (Network.profileStore .standard)
      (some "user-1") (.ofStep 3 7) network
    Reached Config.standard (first (.ofStep 0 7)) [.editLastWill draft.lastWill] draft
      ∧ (∀ will, draft.lastWill = some will → will.Counted)
      ∧ draft.check = .ok ⟨60, 30000, 1000⟩
      ∧ (draft.issueAnswer (Network.credentialStore .standard) network).1 = .ok ⟨"c1", .str "", .null⟩
      ∧ run.1 = .error (.fault .badValue) ∧ run.2.2.1 = [draft.issueCall] := by
  intro network draft run
  have hcheck : draft.check = .ok ⟨60, 30000, 1000⟩ := by decide +kernel
  have hissue : (draft.issueAnswer (Network.credentialStore .standard) network).1
      = .ok ⟨"c1", .str "", .null⟩ := by decide +kernel
  have hencodable : draft.willEncodable = false :=
    (willEncodable_withReading _ _).trans Text.not_writable_pow
  obtain ⟨reference?, world', hlinked⟩ : ∃ reference? world', draft.linkedReference _ network = (_, world') :=
    exists_linkedReference (Network.credentialStore .standard) network fun _ => ⟨_, hissue⟩
  have hrun : run = _ := recordedSave_of_not_encodable _ (Network.profileStore .standard) (some "user-1")
    (.ofStep 3 7) network hcheck hlinked hencodable
  refine ⟨Reached.refl.step (g := .ofStep 0 7) rfl, ?_, hcheck, hissue, ?_, ?_⟩
  · rintro will ⟨⟩
    exact ⟨⟨0, rfl⟩, .inl rfl, .inl rfl⟩
  · rw [hrun]
  · rw [hrun]
    rfl

end Draft

end MqttProfile
