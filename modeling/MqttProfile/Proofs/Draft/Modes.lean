import MqttProfile.Proofs.Draft.WellFormed
import MqttProfile.Proofs.Identifier

/-!
# The table of modes

Each mode opens and closes the fields of an identity in its own way.  As long as credentials are attached
and taken away in turn, that is in the mode for stored ones only, every identity is as the table says for
its mode, whatever else was selected, edited or generated anew:

* a generated identity is closed and holds what was drawn (`GeneratedRow`);
* one that is typed in is open and has no credential (`TypedRow`);
* one from a stored credential leaves the name and the password open and demands a credential.  Its client
  identifier depends on the past: it is open exactly if the credential that was last attached has none
  (`StoredRow`, with `Event.lastAttached` for the past).
-/

namespace MqttProfile

/-- The credential that was last attached since the mode for stored ones was last selected, if one was.
The latest event comes first.  Taking a credential away attaches none. -/
def Event.lastAttached : List Event → Option CredentialReference
  | [] => none
  | .changeReference (some reference) :: _ => some reference
  | .selectMode value :: earlier =>
    match CredentialMode.ofJson value with
    | .ok .existing => none
    | _ => lastAttached earlier
  | _ :: earlier => lastAttached earlier

theorem Event.lastAttached_of_spares {event : Event} (h : event.sparesIdentity = true)
    (events : List Event) : lastAttached (event :: events) = lastAttached events := by
  cases event with
  | selectMode _ | changeReference _ | regenerate _ => cases h
  | _ => rfl

/-- A record decodes to one thing only. -/
theorem LinkedCredential.eq_of_record_eq {credential other : LinkedCredential}
    (h : credential.record = other.record) : credential = other := by
  cases credential with
  | mk record decoded hdecode =>
    cases other with
    | mk record' decoded' hdecode' =>
      cases h
      rw [hdecode] at hdecode'
      cases hdecode'
      rfl

theorem LinkedCredential.clientId_eq_null_iff (credential : LinkedCredential) :
    credential.clientId = .null ↔ credential.clientId.truthy = false :=
  Json.orNull_eq_null_iff _

namespace Identity

/-! ## The rows -/

/-- A generated identity: closed, as it was drawn, and without a password or a credential. -/
structure GeneratedRow (identity : Identity) : Prop where
  credentialsName_closed : identity.credentialsName.enabled = false
  clientId_closed : identity.clientId.enabled = false
  username_closed : identity.username.enabled = false
  password_closed : identity.password.enabled = false
  credentialsName_drawn : identity.credentialsName.value.IsDrawn "WebSocket Credentials " 5
  clientId_drawn : identity.clientId.value.IsDrawn "tbmq_" 8
  username_drawn : identity.username.value.IsDrawn "tbmq_un_" 8
  password_null : identity.password.value = .null
  reference_none : identity.reference.value = none
  reference_optional : identity.reference.required = false

/-- An identity that is typed in: open, and without a credential. -/
structure TypedRow (identity : Identity) : Prop where
  clientId_open : identity.clientId.enabled = true
  username_open : identity.username.enabled = true
  password_open : identity.password.enabled = true
  reference_none : identity.reference.value = none
  reference_optional : identity.reference.required = false

/-- An identity from a stored credential.  The client identifier is open exactly if a credential was
attached and the last one has none. -/
structure StoredRow (attached : Option CredentialReference) (identity : Identity) : Prop where
  credentialsName_open : identity.credentialsName.enabled = true
  password_open : identity.password.enabled = true
  username_closed : identity.username.enabled = false
  reference_required : identity.reference.required = true
  clientId_open_iff : identity.clientId.enabled = true
    ↔ ∃ credential : LinkedCredential, attached = some credential.record ∧ credential.clientId = .null

/-- An identity is as the table says for its mode. -/
structure InTable (attached : Option CredentialReference) (identity : Identity) : Prop where
  generated : identity.mode = .auto → identity.GeneratedRow
  typed : identity.mode = .custom → identity.TypedRow
  stored : identity.mode = .existing → identity.StoredRow attached

/-- Only the row of its own mode counts for an identity. -/
theorem InTable.of_row {attached : Option CredentialReference} {identity : Identity}
    {mode : CredentialMode} (hmode : identity.mode = mode)
    (h : match mode with
      | .auto => identity.GeneratedRow
      | .custom => identity.TypedRow
      | .existing => identity.StoredRow attached) : identity.InTable attached := by
  constructor
  · intro hauto
    obtain rfl := hmode.symm.trans hauto
    exact h
  · intro hcustom
    obtain rfl := hmode.symm.trans hcustom
    exact h
  · intro hexisting
    obtain rfl := hmode.symm.trans hexisting
    exact h

/-! ## What events leave in the rows -/

/-- The generated mode draws the name, the client identifier and the user name one after the other. -/
theorem selectMode_auto (identity : Identity) (editing : Option Profile) (g : Generator) :
    (identity.selectMode .auto editing g).1
      = { mode := .auto
          credentialsName := (identity.credentialsName.set (.str g.credentialsName.1)).lock
          clientId := (identity.clientId.set (.str g.credentialsName.2.clientId.1)).lock
          username := (identity.username.set (.str g.credentialsName.2.clientId.2.username.1)).lock
          password := ((identity.password.set .null).lock).require false
          reference := .plain none } := by
  rw [selectMode, selectAuto]
  rcases g.credentialsName with ⟨name, g₁⟩
  dsimp only
  rcases g₁.clientId with ⟨clientId, g₂⟩
  dsimp only
  rcases g₂.username with ⟨username, g₃⟩
  rfl

/-- Every mode that is selected leads to its row; that of stored credentials counts from nothing. -/
theorem inTable_selectMode (identity : Identity) {mode : CredentialMode} (editing : Option Profile)
    (g : Generator) {attached : Option CredentialReference} (h : mode = .existing → attached = none) :
    (identity.selectMode mode editing g).1.InTable attached := by
  refine .of_row (mode_selectMode identity mode editing g) ?_
  cases mode with
  | auto =>
    show GeneratedRow _
    rw [selectMode_auto]
    exact ⟨rfl, rfl, rfl, rfl, g.isDrawn_credentialsName, g.credentialsName.2.isDrawn_clientId,
      g.credentialsName.2.clientId.2.isDrawn_username, rfl, rfl, rfl⟩
  | custom => exact ⟨rfl, rfl, rfl, rfl, rfl⟩
  | existing =>
    refine ⟨rfl, rfl, rfl, rfl, ?_⟩
    rw [h rfl]
    constructor
    · intro hopen
      cases hopen
    · intro hexists
      rcases hexists with ⟨credential, hattached, -⟩
      cases hattached

theorem StoredRow.detach {attached : Option CredentialReference} {identity : Identity}
    (h : identity.StoredRow attached) (editing : Option Profile) (g : Generator) :
    (identity.attach none editing g).1.StoredRow attached :=
  ⟨h.credentialsName_open, h.password_open, h.username_closed, h.reference_required,
    h.clientId_open_iff⟩

/-- Attaching a credential opens the client identifier exactly if the credential has none. -/
theorem StoredRow.attach {attached : Option CredentialReference} {identity : Identity}
    (h : identity.StoredRow attached) (credential : LinkedCredential) (editing : Option Profile)
    (g : Generator) :
    (identity.attach (some credential) editing g).1.StoredRow (some credential.record) := by
  refine ⟨h.credentialsName_open, h.password_open, h.username_closed, h.reference_required, ?_⟩
  have hopen : (identity.attach (some credential) editing g).1.clientId.enabled = true
      ↔ credential.clientId.truthy = false := by
    simp only [Identity.attach, demandPassword]
    cases credential.clientId.truthy with
    | true => exact iff_of_false Bool.false_ne_true fun h => Bool.false_ne_true h.symm
    | false => exact iff_of_true rfl rfl
  rw [hopen, ← credential.clientId_eq_null_iff]
  constructor
  · intro hnull
    exact ⟨credential, rfl, hnull⟩
  · intro hexists
    rcases hexists with ⟨other, hother, hnull⟩
    rw [Option.some.injEq] at hother
    rw [LinkedCredential.eq_of_record_eq hother]
    exact hnull

/-- An edit changes nothing in a generated identity, for its fields are closed. -/
theorem GeneratedRow.edited_eq {identity : Identity} (h : identity.GeneratedRow)
    (field : ConnectionField) (value : Json) : identity.edited field value = identity := by
  cases field with
  | name | rejectUnauthorized => rfl
  | credentialsName => rw [edited, Field.editOpen_of_closed h.credentialsName_closed]
  | clientId => rw [edited, Field.editOpen_of_closed h.clientId_closed]
  | username => rw [edited, Field.editOpen_of_closed h.username_closed]
  | password => rw [edited, Field.editOpen_of_closed h.password_closed]

theorem TypedRow.edited {identity : Identity} (h : identity.TypedRow) (field : ConnectionField)
    (value : Json) : (identity.edited field value).TypedRow := by
  cases field with
  | name | rejectUnauthorized | credentialsName => exact { h with }
  | clientId => exact { h with clientId_open := (Field.enabled_editOpen _ value).trans h.clientId_open }
  | username => exact { h with username_open := (Field.enabled_editOpen _ value).trans h.username_open }
  | password => exact { h with password_open := (Field.enabled_editOpen _ value).trans h.password_open }

/-- An edit leaves the row of stored credentials as it is. -/
theorem StoredRow.edited {attached : Option CredentialReference} {identity : Identity}
    (h : identity.StoredRow attached) (field : ConnectionField) (value : Json) :
    (identity.edited field value).StoredRow attached := by
  cases field with
  | name | rejectUnauthorized => exact { h with }
  | credentialsName =>
    exact { h with
      credentialsName_open := (Field.enabled_editOpen _ value).trans h.credentialsName_open }
  | clientId =>
    refine { h with clientId_open_iff := ?_ }
    rw [Identity.edited, Field.enabled_editOpen]
    exact h.clientId_open_iff
  | username =>
    exact { h with username_closed := (Field.enabled_editOpen _ value).trans h.username_closed }
  | password => exact { h with password_open := (Field.enabled_editOpen _ value).trans h.password_open }

/-- An edit leaves an identity in the table. -/
theorem InTable.edited {attached : Option CredentialReference} {identity : Identity}
    (h : identity.InTable attached) (field : ConnectionField) (value : Json) :
    (identity.edited field value).InTable attached := by
  constructor
  · intro hauto
    rw [mode_edited] at hauto
    rw [(h.generated hauto).edited_eq field value]
    exact h.generated hauto
  · intro hcustom
    rw [mode_edited] at hcustom
    exact (h.typed hcustom).edited field value
  · intro hexisting
    rw [mode_edited] at hexisting
    exact (h.stored hexisting).edited field value

/-- Generating a value anew leaves an identity in the table. -/
theorem InTable.regenerate {attached : Option CredentialReference} {identity next : Identity}
    {field : String} {g : Generator} (h : identity.InTable attached)
    (hdrawn : (identity.regenerate field g).1 = .ok next) : next.InTable attached := by
  obtain ⟨-, rfl⟩ | ⟨-, rfl⟩ | ⟨-, rfl⟩ := regenerate_ok hdrawn
  · refine ⟨fun hauto => ?_, fun hcustom => { h.typed hcustom with },
      fun hexisting => { h.stored hexisting with }⟩
    exact { h.generated hauto with
      credentialsName_drawn := g.isDrawn_credentialsName }
  · refine ⟨fun hauto => ?_, fun hcustom => { h.typed hcustom with },
      fun hexisting => { h.stored hexisting with }⟩
    exact { h.generated hauto with clientId_drawn := g.isDrawn_clientId }
  · refine ⟨fun hauto => ?_, fun hcustom => { h.typed hcustom with },
      fun hexisting => { h.stored hexisting with }⟩
    exact { h.generated hauto with username_drawn := g.isDrawn_username }

/-! ## Histories -/

/-- An identity whose credentials were attached and taken away in turn is as the table says for its
mode. -/
theorem Arises.inTable {editing : Option Profile} {events : List Event} {identity : Identity}
    (h : Arises InTurn editing events identity) : identity.InTable (Event.lastAttached events) := by
  -- by induction on the events, with one case for each way in which an identity changes
  induction h with
  | initial g =>
    rw [Identity.initial]
    exact inTable_selectMode _ editing _ fun _ => rfl
  | @change events event identity next before hturn hchange ih =>
    cases hchange with
    | @select value mode g hmode =>
      refine inTable_selectMode identity editing g fun hexisting => ?_
      rw [Event.lastAttached, hmode, hexisting]
    | detach g =>
      have hmode := (mode_attach identity none editing g).trans (hturn rfl)
      exact .of_row hmode ((ih.stored (hturn rfl)).detach editing g)
    | @attach reference credential g hlink =>
      have hmode := (mode_attach identity (some credential) editing g).trans (hturn rfl)
      have hrow := (ih.stored (hturn rfl)).attach credential editing g
      rw [CredentialReference.record_of_link hlink] at hrow
      exact .of_row hmode hrow
    | @edit _ value field _ => exact ih.edited field value
    | regenerate g _ hdrawn => exact ih.regenerate hdrawn
    | keep hspares =>
      rw [Event.lastAttached_of_spares hspares]
      exact ih

end Identity

namespace Draft

/-- Along every run that attaches credentials and takes them away only in the mode for stored ones, the
identity of each reached draft is as the table says for its mode.  There the client identifier is open
exactly if the credential that was last attached, since the mode was last selected, has none. -/
theorem mode_table_of_run (config : Config) (start draft : Draft) (earlier events : List Event)
    (hstart : Started config earlier start)
    (hreached : ReachedUnder Identity.InTurn config start events draft) :
    draft.connection.identity.InTable (Event.lastAttached (events ++ earlier)) :=
  (hreached.arises hstart fun _ event hexisting =>
    Identity.inTurn_of_existing hexisting event).inTable

/-- A stored credential that names a user and no client. -/
def gateway : LinkedCredential where
  record := ⟨"c2", .str "Gateway", .str "\x7b\"userName\": \"gateway\"\x7d"⟩
  decoded := [("userName", .str "gateway")]
  decode_eq := by decide +kernel

/-- Once it was attached the client identifier is open, and it stays so when it is taken away again. -/
theorem open_after_gateway :
    ∃ draft, ReachedUnder Identity.InTurn Config.standard (first (.ofStep 0 7))
        [.changeReference none, .changeReference (some gateway.record), .selectMode (.str "EXISTING")]
        draft
      ∧ draft.credentialMode = .existing
      ∧ draft.connection.identity.clientId.enabled = true := by
  let g : Generator := .ofStep 0 7
  have hmode : CredentialMode.ofJson (.str "EXISTING") = .ok .existing := by decide
  have hselected : ReachedUnder Identity.InTurn Config.standard (first g)
      [.selectMode (.str "EXISTING")] _ :=
    ReachedUnder.refl.step (fun hchanges => (nomatch hchanges)) (apply_selectMode _ _ hmode g)
  have hattached := hselected.step (fun _ => rfl) (apply_attach Config.standard _ gateway g)
  have hdetached : ReachedUnder Identity.InTurn Config.standard (first g) (.changeReference none :: _) _ :=
    hattached.step (g := g) (fun _ => rfl) rfl
  have htable := mode_table_of_run Config.standard (first g) _ [] _ (.begun (begun_first g)) hdetached
  exact ⟨_, hdetached, rfl, (htable.stored rfl).clientId_open_iff.mpr ⟨gateway, rfl, by decide⟩⟩

end Draft

end MqttProfile
