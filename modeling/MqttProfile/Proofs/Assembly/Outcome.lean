import MqttProfile.Proofs.LastWill

/-!
# What assembling and saving yield

Assembling is a check, a credential that is issued or attached, and a merge.  The merge fails for one reason,
a last will that cannot be encoded; `merge_eq_ite` says so and names the profile that there is otherwise.

* `Ends` has the four ways in which assembling ends, with one lemma on `assemble` for each of them;
* `assemble_eq_ok_iff` takes a run that succeeds apart;
* saving hands the profile to its store besides, and the four `save_of_` lemmas say what becomes of it.
-/

namespace MqttProfile

/-- What is answered for an assembled profile once its store has answered. -/
def Assembly.answer (assembly : Assembly) : Except Error Profile → Except Error Assembly
  | .ok profile => .ok { assembly with profile }
  | .error cause => .error (.showing assembly.profile.name (.persistence assembly.profile.name cause))

/-- A profile that is not saved is reported by its name, unless the name cannot be shown. -/
theorem Assembly.of_answer_eq_error (assembly : Assembly) {outcome : Except Error Profile} {error : Error}
    (h : assembly.answer outcome = .error error) :
    (∃ cause, error = .persistence assembly.profile.name cause)
      ∨ error = .fault .badValue ∧ assembly.profile.name.writable = false := by
  cases outcome with
  | ok _ => cases h
  | error cause =>
    cases h
    cases hname : assembly.profile.name.writable with
    | true => exact .inl ⟨cause, Error.showing_of_writable _ hname⟩
    | false => exact .inr ⟨Error.showing_of_not_writable _ hname, rfl⟩

namespace Draft

variable {σ : Type}

/-! ## The merge -/

/-- A credential as a profile is linked to it: by its identifier, or null. -/
def linkTo : Option CredentialReference → Json
  | some reference => .str reference.id
  | none => .null

/-- The message to store for the last will of a draft, trimmed, or none. -/
def willMessage? (draft : Draft) : Option WillMessage :=
  draft.lastWill.bind fun will => will.trimmed.message?

/-- Whether a draft has no last will that cannot be encoded. -/
def willEncodable (draft : Draft) : Bool :=
  match draft.lastWill with
  | some will => will.trimmed.encodable
  | none => true

theorem encodedWill_eq_ite (draft : Draft) :
    draft.encodedWill = if draft.willEncodable then .ok draft.willMessage? else .error .badValue := by
  rw [encodedWill, willEncodable, willMessage?]
  cases draft.lastWill with
  | none => rfl
  | some will => exact will.trimmed.encode_eq_ite

theorem encodedWill_eq_ok_iff (draft : Draft) (message? : Option WillMessage) :
    draft.encodedWill = .ok message? ↔ draft.willEncodable = true ∧ draft.willMessage? = message? := by
  rw [encodedWill_eq_ite]
  cases draft.willEncodable with
  | false => exact iff_of_false (nomatch ·) fun hboth => nomatch hboth.1
  | true => rw [if_pos rfl, Except.ok.injEq, and_iff_right rfl]

/-- The profile that a draft is merged into when its last will can be encoded. -/
def merged (draft : Draft) (intervals : Intervals) (reference? : Option CredentialReference)
    (user : Option String) (g : Generator) : Profile :=
  draft.profile user
    (draft.configuration intervals (linkTo reference?) (draft.assembledClientId g).1 draft.willMessage?)

/-- An edited profile keeps everything but its name and its settings. -/
theorem merged_of_editing {draft : Draft} {profile : Profile} (h : draft.editing = some profile)
    (intervals : Intervals) (reference? : Option CredentialReference) (user : Option String)
    (g : Generator) :
    draft.merged intervals reference? user g
      = { profile with
          name := draft.connection.name.value.trimmed
          configuration :=
            draft.configuration intervals (linkTo reference?) (draft.assembledClientId g).1
              draft.willMessage? } := by
  rw [merged, Draft.profile, h]

/-- A new profile has no identifier yet, and belongs to the user. -/
theorem merged_of_new {draft : Draft} (h : draft.editing = none) (intervals : Intervals)
    (reference? : Option CredentialReference) (user : Option String) (g : Generator) :
    draft.merged intervals reference? user g
      = { name := draft.connection.name.value.trimmed
          configuration :=
            draft.configuration intervals (linkTo reference?) (draft.assembledClientId g).1
              draft.willMessage?
          id := none
          userId := user
          createdTime := .null } := by
  rw [merged, Draft.profile, h]

/-- The merged settings are those of the draft, linked to the credential, with the client identifier that
was chosen. -/
theorem merged_configuration (draft : Draft) (intervals : Intervals)
    (reference? : Option CredentialReference) (user : Option String) (g : Generator) :
    (draft.merged intervals reference? user g).configuration
      = draft.configuration intervals (linkTo reference?) (draft.assembledClientId g).1
          draft.willMessage? := by
  cases h : draft.editing with
  | none => rw [merged_of_new h]
  | some profile => rw [merged_of_editing h]

theorem merged_name (draft : Draft) (intervals : Intervals) (reference? : Option CredentialReference)
    (user : Option String) (g : Generator) :
    (draft.merged intervals reference? user g).name = draft.connection.name.value.trimmed := by
  cases h : draft.editing with
  | none => rw [merged_of_new h]
  | some profile => rw [merged_of_editing h]

theorem assembledClientId_of_truthy {draft : Draft} (g : Generator)
    (h : draft.connection.identity.clientId.value.trimmed.truthy = true) :
    draft.assembledClientId g = (draft.connection.identity.clientId.value.trimmed, g) := by
  rw [assembledClientId, Json.orElse_of_truthy h, Identity.clientIdOrDrawn, if_pos h]

/-- Whether neither the draft nor the profile that it edits has a client identifier. -/
def lacksClientId (draft : Draft) : Bool :=
  !(draft.connection.identity.clientId.value.trimmed.truthy
    || (Identity.storedClientId draft.editing).truthy)

/-- The generator that a merge leaves: one client identifier is drawn from it where there is none. -/
def generatorAfter (draft : Draft) (g : Generator) : Generator :=
  if draft.lacksClientId then g.clientId.2 else g

/-- A client identifier is drawn for a profile exactly where there is none. -/
theorem assembledClientId_generator (draft : Draft) (g : Generator) :
    (draft.assembledClientId g).2 = draft.generatorAfter g := by
  rw [generatorAfter, lacksClientId]
  cases hentered : draft.connection.identity.clientId.value.trimmed.truthy with
  | true =>
    rw [assembledClientId_of_truthy g hentered]
    rfl
  | false =>
    rw [assembledClientId, Json.orElse_of_not_truthy hentered, Identity.clientIdOrDrawn]
    cases (Identity.storedClientId draft.editing).truthy <;> rfl

/-- A merge fails exactly if the last will cannot be encoded, and a client identifier is drawn all the
same. -/
theorem merge_eq_ite (draft : Draft) (intervals : Intervals) (reference? : Option CredentialReference)
    (user : Option String) (g : Generator) :
    draft.merge intervals reference? user g
      = (if draft.willEncodable then .ok (draft.merged intervals reference? user g)
          else .error .badValue, draft.generatorAfter g) := by
  have hlink : (match reference? with
      | some reference => Json.str reference.id
      | none => .null) = linkTo reference? := by
    cases reference? <;> rfl
  have hunfold : draft.merge intervals reference? user g
      = (draft.encodedWill.map fun lastWill =>
          draft.profile user
            (draft.configuration intervals (match reference? with
              | some reference => Json.str reference.id
              | none => .null) (draft.assembledClientId g).1 lastWill),
        (draft.assembledClientId g).2) := rfl
  rw [hunfold, hlink, encodedWill_eq_ite, assembledClientId_generator]
  cases draft.willEncodable <;> rfl

/-! ## The credential -/

/-- Outside the generated mode the credential is the attached one, and the store is left alone. -/
theorem linkedReference_of_ne_auto (store : CredentialStore σ) {draft : Draft}
    (hmode : draft.credentialMode ≠ .auto) (world : σ) :
    draft.linkedReference store world
      = (.ok (draft.connection.identity.reference.value.map (·.record)), world) := by
  rw [linkedReference]
  cases h : draft.credentialMode with
  | auto => exact absurd h hmode
  | custom | existing => rfl

theorem linkedReference_of_auto (store : CredentialStore σ) {draft : Draft}
    (hmode : draft.credentialMode = .auto) (world : σ) :
    draft.linkedReference store world
      = ((draft.issueCredentials store world).1.map some, (draft.issueCredentials store world).2) := by
  rw [linkedReference, hmode]

/-- What the store answers to the call that issues credentials for a draft. -/
def issueAnswer (draft : Draft) (credentials : CredentialStore σ) (world : σ) :
    Except Error CredentialReference × σ :=
  let identity := draft.connection.identity
  credentials.issue identity.credentialsName.value.trimmed identity.clientId.value.trimmed
    identity.username.value.trimmed world

/-- What the answer of the store makes of the credential of a draft. -/
def issued (draft : Draft) : Except Error CredentialReference → Except Error (Option CredentialReference)
  | .ok reference => .ok (some reference)
  | .error cause =>
    let name := draft.connection.identity.credentialsName.value.trimmed
    .error (.showing name (.issuance name cause))

/-- In the generated mode the credential is the one that the store answers with. -/
theorem linkedReference_eq_issued (credentials : CredentialStore σ) {draft : Draft} (world : σ)
    (hmode : draft.credentialMode = .auto) :
    draft.linkedReference credentials world
      = (draft.issued (draft.issueAnswer credentials world).1,
          (draft.issueAnswer credentials world).2) := by
  rw [linkedReference_of_auto credentials hmode, issueCredentials, issueAnswer]
  cases credentials.issue _ _ _ world with
  | mk outcome world' => cases outcome <;> rfl

/-- A draft that does not get its credential is in the generated mode, and the store has not issued it. -/
theorem issue_error_of_linked_error {credentials : CredentialStore σ} {draft : Draft} {world world' : σ}
    {error : Error} (h : draft.linkedReference credentials world = (.error error, world')) :
    draft.credentialMode = .auto ∧ ∃ cause, (draft.issueAnswer credentials world).1 = .error cause := by
  by_cases hmode : draft.credentialMode = .auto
  · rw [linkedReference_eq_issued credentials world hmode] at h
    cases hanswer : (draft.issueAnswer credentials world).1 with
    | ok reference =>
      rw [hanswer] at h
      cases h
    | error cause => exact ⟨hmode, cause, rfl⟩
  · rw [linkedReference_of_ne_auto credentials hmode] at h
    cases h

/-- A draft has its credential once the store has issued it, or at once where none is needed. -/
theorem exists_linkedReference (credentials : CredentialStore σ) {draft : Draft} (world : σ)
    (hissue : draft.credentialMode = .auto →
      ∃ reference, (draft.issueAnswer credentials world).1 = .ok reference) :
    ∃ reference? world', draft.linkedReference credentials world = (.ok reference?, world') := by
  by_cases hmode : draft.credentialMode = .auto
  · obtain ⟨reference, hreference⟩ := hissue hmode
    refine ⟨some reference, (draft.issueAnswer credentials world).2, ?_⟩
    rw [linkedReference_eq_issued credentials world hmode, hreference, issued]
  · exact ⟨_, world, linkedReference_of_ne_auto credentials hmode world⟩

/-! ## The whole -/

section Assembling

variable (store : CredentialStore σ) (user : Option String) {draft : Draft} (g : Generator) (world : σ)
  {intervals : Intervals} {reference? : Option CredentialReference} {world' : σ}

/-- A draft that fails its check is not assembled, and the store is not even asked. -/
theorem assemble_of_check_error {error : Error} (h : draft.check = .error error) :
    draft.assemble store user g world = (.error error, g, world) := by
  rw [assemble, h]

/-- A draft that does not get its credential is not merged. -/
theorem assemble_of_linked_error {error : Error} (hcheck : draft.check = .ok intervals)
    (hlinked : draft.linkedReference store world = (.error error, world')) :
    draft.assemble store user g world = (.error error, g, world') := by
  simp only [assemble, hcheck, hlinked]

/-- If its last will cannot be encoded, a draft fails although it has its credential. -/
theorem assemble_of_not_encodable (hcheck : draft.check = .ok intervals)
    (hlinked : draft.linkedReference store world = (.ok reference?, world'))
    (hencodable : draft.willEncodable = false) :
    draft.assemble store user g world
      = (.error (.fault .badValue), draft.generatorAfter g, world') := by
  have hmerge : draft.merge intervals reference? user g = (.error .badValue, draft.generatorAfter g) := by
    rw [merge_eq_ite, hencodable, if_neg Bool.false_ne_true]
  simp only [assemble, hcheck, hlinked, hmerge]
  rfl

/-- A draft that passes its check and has its credential is assembled if its last will can be encoded. -/
theorem assemble_of_linked (hcheck : draft.check = .ok intervals)
    (hlinked : draft.linkedReference store world = (.ok reference?, world'))
    (hencodable : draft.willEncodable = true) :
    draft.assemble store user g world
      = (.ok ⟨draft.merged intervals reference? user g, draft.connection.identity.password.value.orNull⟩,
          draft.generatorAfter g, world') := by
  have hmerge : draft.merge intervals reference? user g
      = (.ok (draft.merged intervals reference? user g), draft.generatorAfter g) := by
    rw [merge_eq_ite, if_pos hencodable]
  simp only [assemble, hcheck, hlinked, hmerge]
  rfl

end Assembling

/-- The four ways in which assembling a draft ends. -/
inductive Ends (store : CredentialStore σ) (draft : Draft) (world : σ) : Prop
  | refused {error : Error} (hcheck : draft.check = .error error)
  | unlinked {intervals : Intervals} {error : Error} {world' : σ} (hcheck : draft.check = .ok intervals)
      (hlinked : draft.linkedReference store world = (.error error, world'))
  | unencodable {intervals : Intervals} {reference? : Option CredentialReference} {world' : σ}
      (hcheck : draft.check = .ok intervals)
      (hlinked : draft.linkedReference store world = (.ok reference?, world'))
      (hencodable : draft.willEncodable = false)
  | assembled {intervals : Intervals} {reference? : Option CredentialReference} {world' : σ}
      (hcheck : draft.check = .ok intervals)
      (hlinked : draft.linkedReference store world = (.ok reference?, world'))
      (hencodable : draft.willEncodable = true)

theorem ends (store : CredentialStore σ) (draft : Draft) (world : σ) : draft.Ends store world := by
  cases hcheck : draft.check with
  | error error => exact .refused hcheck
  | ok intervals =>
    obtain ⟨outcome, world', hlinked⟩ :
        ∃ outcome world', draft.linkedReference store world = (outcome, world') := ⟨_, _, rfl⟩
    cases outcome with
    | error error => exact .unlinked hcheck hlinked
    | ok reference? =>
      cases hencodable : draft.willEncodable with
      | false => exact .unencodable hcheck hlinked hencodable
      | true => exact .assembled hcheck hlinked hencodable

/-- Assembling succeeds exactly when the draft passes its check, has its credential and has no last will that
cannot be encoded, and yields the merge of all three with the password beside it. -/
theorem assemble_eq_ok_iff (store : CredentialStore σ) (user : Option String) (draft : Draft)
    (g g' : Generator) (world world' : σ) (assembly : Assembly) :
    draft.assemble store user g world = (.ok assembly, g', world')
      ↔ ∃ intervals reference?, draft.check = .ok intervals
        ∧ draft.linkedReference store world = (.ok reference?, world')
        ∧ draft.willEncodable = true
        ∧ assembly = ⟨draft.merged intervals reference? user g,
            draft.connection.identity.password.value.orNull⟩
        ∧ g' = draft.generatorAfter g := by
  constructor
  · intro h
    cases draft.ends store world with
    | refused hcheck =>
      rw [assemble_of_check_error store user g world hcheck] at h
      cases h
    | unlinked hcheck hlinked =>
      rw [assemble_of_linked_error store user g world hcheck hlinked] at h
      cases h
    | unencodable hcheck hlinked hencodable =>
      rw [assemble_of_not_encodable store user g world hcheck hlinked hencodable] at h
      cases h
    | assembled hcheck hlinked hencodable =>
      rw [assemble_of_linked store user g world hcheck hlinked hencodable] at h
      cases h
      exact ⟨_, _, hcheck, hlinked, hencodable, rfl, rfl⟩
  · rintro ⟨intervals, reference?, hcheck, hlinked, hencodable, rfl, rfl⟩
    exact assemble_of_linked store user g world hcheck hlinked hencodable

/-- A draft that passes its check is assembled once its credentials are issued, or at once where none are
needed, if its last will can be encoded. -/
theorem exists_assemble (store : CredentialStore σ) (user : Option String) {draft : Draft}
    (g : Generator) (world : σ) {intervals : Intervals} (hcheck : draft.check = .ok intervals)
    (hissue : draft.credentialMode = .auto →
      ∃ reference, (draft.issueAnswer store world).1 = .ok reference)
    (hencodable : draft.willEncodable = true) :
    ∃ assembly world', draft.assemble store user g world
      = (.ok assembly, draft.generatorAfter g, world') := by
  obtain ⟨reference?, world', hlinked⟩ := exists_linkedReference store world hissue
  exact ⟨_, world', assemble_of_linked store user g world hcheck hlinked hencodable⟩

/-- Outside the generated mode a draft that passes its check is assembled, whatever the store is. -/
theorem assemble_of_ne_auto (store : CredentialStore σ) (user : Option String) {draft : Draft}
    (g : Generator) (world : σ) {intervals : Intervals} (hmode : draft.credentialMode ≠ .auto)
    (hcheck : draft.check = .ok intervals) (hencodable : draft.willEncodable = true) :
    (draft.assemble store user g world).1
      = .ok ⟨draft.merged intervals (draft.connection.identity.reference.value.map (·.record)) user g,
          draft.connection.identity.password.value.orNull⟩ := by
  rw [assemble_of_linked store user g world hcheck (linkedReference_of_ne_auto store hmode world) hencodable]

/-- A profile that was assembled outside the generated mode is linked to the attached credential and has
the client identifier that the draft holds, or else the edited profile's, or else a generated one. -/
theorem assembled_of_ne_auto {store : CredentialStore σ} {user : Option String} {draft : Draft}
    {g : Generator} {world : σ} {assembly : Assembly} (hmode : draft.credentialMode ≠ .auto)
    (h : (draft.assemble store user g world).1 = .ok assembly) :
    assembly.profile.configuration.clientCredentialsId
        = linkTo (draft.connection.identity.reference.value.map (·.record))
      ∧ assembly.profile.configuration.clientId = (draft.assembledClientId g).1 := by
  obtain ⟨intervals, reference?, -, hlinked, -, rfl, -⟩ :=
    (assemble_eq_ok_iff store user draft g _ world _ assembly).mp (Prod.ext h rfl)
  rw [linkedReference_of_ne_auto store hmode] at hlinked
  cases congrArg Prod.fst hlinked
  rw [merged_configuration]
  exact ⟨rfl, rfl⟩

/-! ## Saving -/

section Saving

variable (credentials : CredentialStore σ) (profiles : ProfileStore σ) (user : Option String)
  {draft : Draft} (g : Generator) {g' : Generator} (world : σ) {world' : σ}

/-- A draft that fails its check ends the run before any store is called. -/
theorem save_of_check_error {error : Error} (h : draft.check = .error error) :
    draft.save credentials profiles user g world = (.error error, g, world) := by
  rw [save, assemble_of_check_error credentials user g world h]

/-- A draft that does not get its credential ends the run before it is merged. -/
theorem save_of_linked_error {intervals : Intervals} {error : Error}
    (hcheck : draft.check = .ok intervals)
    (hlinked : draft.linkedReference credentials world = (.error error, world')) :
    draft.save credentials profiles user g world = (.error error, g, world') := by
  rw [save, assemble_of_linked_error credentials user g world hcheck hlinked]

/-- A draft whose last will cannot be encoded ends the run although it has its credential, before the store
of profiles is called. -/
theorem save_of_not_encodable {intervals : Intervals} {reference? : Option CredentialReference}
    (hcheck : draft.check = .ok intervals)
    (hlinked : draft.linkedReference credentials world = (.ok reference?, world'))
    (hencodable : draft.willEncodable = false) :
    draft.save credentials profiles user g world
      = (.error (.fault .badValue), draft.generatorAfter g, world') := by
  rw [save, assemble_of_not_encodable credentials user g world hcheck hlinked hencodable]

/-- A draft that was assembled ends the run with the answer of the store of profiles. -/
theorem save_of_assemble {assembly : Assembly}
    (h : draft.assemble credentials user g world = (.ok assembly, g', world')) :
    draft.save credentials profiles user g world
      = (assembly.answer (profiles.save assembly.profile world').1, g',
          (profiles.save assembly.profile world').2) := by
  rw [save, h]
  dsimp only
  cases profiles.save assembly.profile world' with
  | mk outcome world'' => cases outcome <;> rfl

end Saving

end Draft

end MqttProfile
