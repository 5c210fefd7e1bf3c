import MqttProfile.Proofs.Assembly.Settled
import MqttProfile.Proofs.Draft.Modes

/-!
# Texts of assembled profiles

Every text that is entered in a draft is trimmed when the draft is assembled, and what has to be filled in
is more than blanks.  The client identifier alone may come from elsewhere: where the draft has none, the one
of the edited profile is taken over as it was stored, blanks and all.

* `Json.IsTrimmed` and `Json.IsFilled` are what is expected of an optional text and of one that has to be
  there;
* `Draft.TextInputs` says that texts were entered in all fields for texts, and `Profile.Trimmed` that a
  profile has trimmed ones;
* `assembledClientId_isFilled_iff` tells when the client identifier is as good as the rest.
-/

namespace MqttProfile

/-! ## Trimmed texts -/

namespace Text

/-- A text without blanks at its two ends stays as it is. -/
theorem trim_of_ends {s : String} (first last : Char) (front : List Char) {back : List Char}
    (hfirst : s.toList = first :: back) (hlast : s.toList = front ++ [last])
    (hfirstBlank : isBlank first = false) (hlastBlank : isBlank last = false) : trim s = s := by
  have hfront : s.toList.dropWhile isBlank = s.toList := by
    rw [hfirst, List.dropWhile_cons_of_neg (by rw [hfirstBlank]; exact Bool.false_ne_true)]
  have hback : List.rdropWhile isBlank s.toList = s.toList := by
    rw [hlast, List.rdropWhile_concat_neg _ _ _ (by rw [hlastBlank]; exact Bool.false_ne_true)]
  rw [trim, stripBy_eq_rdropWhile, hfront, hback, String.ofList_toList]

end Text

namespace Json

/-- Null or a text without blanks around it. -/
def IsTrimmed (value : Json) : Prop :=
  value = .null ∨ ∃ s, value = .str s ∧ Text.trim s = s

/-- A text without blanks around it that is more than blanks. -/
def IsFilled (value : Json) : Prop :=
  ∃ s, value = .str s ∧ Text.trim s = s ∧ Text.blank s = false

theorem IsText.isTrimmed_trimmed {value : Json} (h : value.IsText) : value.trimmed.IsTrimmed := by
  cases value with
  | null => exact .inl rfl
  | str s => exact .inr ⟨Text.trim s, rfl, Text.trim_trim s⟩
  | bool _ | int _ | float _ | arr _ | obj _ => exact h.elim

theorem IsText.isFilled_trimmed {value : Json} (h : value.IsText) (hgiven : value.Given) :
    value.trimmed.IsFilled := by
  obtain ⟨s, rfl, hs⟩ := h.exists_str hgiven
  exact ⟨Text.trim s, rfl, Text.trim_trim s, (given_str_iff _).mp ((given_trimmed_iff (.str s)).mpr hs)⟩

/-- A text that is not empty is filled in exactly if it is trimmed. -/
theorem isFilled_str_iff {s : String} (h : s ≠ "") : IsFilled (.str s) ↔ Text.trim s = s := by
  constructor
  · rintro ⟨t, ht, htrim, -⟩
    cases ht
    exact htrim
  · intro htrim
    refine ⟨s, rfl, htrim, ?_⟩
    rw [← Bool.not_eq_true, ← Text.trim_eq_empty_iff, htrim]
    exact h

/-- The text of an array ends with its bracket. -/
theorem exists_renderItems_eq_append (style : Style) (items : List Json) :
    ∃ front, renderItems style items = front ++ [']'] := by
  induction items with
  | nil => exact ⟨[], rfl⟩
  | cons item items ih =>
    obtain ⟨front, hfront⟩ := ih
    refine ⟨style.comma ++ render style item ++ front, ?_⟩
    rw [renderItems, hfront, List.append_assoc _ front]

/-- The text of an object ends with its brace. -/
theorem exists_renderMembers_eq_append (style : Style) (members : Members) :
    ∃ front, renderMembers style members = front ++ ['\x7d'] := by
  induction members with
  | nil => exact ⟨[], rfl⟩
  | cons member members ih =>
    obtain ⟨key, value⟩ := member
    obtain ⟨front, hfront⟩ := ih
    refine ⟨style.comma ++ quote style.asciiOnly key ++ style.colon ++ render style value ++ front, ?_⟩
    rw [renderMembers, hfront, List.append_assoc _ front]

/-- The text of an array or an object has its brackets at both ends, and no blanks around them. -/
theorem trim_toText_of_structured (style : Style) {value : Json} (h : value.isStructured = true) :
    Text.trim (toText style value) = toText style value := by
  cases value with
  | arr items =>
    cases items with
    | nil => exact Text.trim_of_ends '[' ']' ['['] String.toList_ofList String.toList_ofList rfl rfl
    | cons item items =>
      obtain ⟨front, hfront⟩ := exists_renderItems_eq_append style items
      refine Text.trim_of_ends '[' ']' ('[' :: render style item ++ front) String.toList_ofList ?_ rfl rfl
      rw [toText, String.toList_ofList, render, hfront, List.append_assoc _ front]
  | obj members =>
    cases members with
    | nil => exact Text.trim_of_ends '\x7b' '\x7d' ['\x7b'] String.toList_ofList String.toList_ofList rfl rfl
    | cons member members =>
      obtain ⟨key, value⟩ := member
      obtain ⟨front, hfront⟩ := exists_renderMembers_eq_append style members
      refine Text.trim_of_ends '\x7b' '\x7d'
        ('\x7b' :: quote style.asciiOnly key ++ style.colon ++ render style value ++ front)
        String.toList_ofList ?_ rfl rfl
      rw [toText, String.toList_ofList, render, hfront, List.append_assoc _ front]
  | null | bool _ | int _ | float _ | str _ => cases h

end Json

/-! ## Parts of a profile -/

/-- Texts were entered in the fields of a last will for texts. -/
structure LastWill.TextInputs (will : LastWill) : Prop where
  topic : will.topic.IsText
  contentType : will.options.contentType.IsText
  responseTopic : will.options.responseTopic.IsText
  correlationData : will.options.correlationData.IsText

/-- The texts of a message are trimmed, and it has a topic. -/
structure WillMessage.Trimmed (message : WillMessage) : Prop where
  topic : message.topic.IsFilled
  payload : ∀ s, message.payload = .str s → Text.trim s = s
  contentType : message.options.contentType.IsTrimmed
  responseTopic : message.options.responseTopic.IsTrimmed
  correlationData : message.options.correlationData.IsTrimmed

/-- A payload that is stored as a text is trimmed: the text of a structured one, too. -/
theorem PayloadType.trim_stored {payload : Json} {s : String} (h : (stored payload.trimmed).1 = .str s) :
    Text.trim s = s := by
  rw [stored] at h
  split at h
  next hstructured =>
    cases h
    exact Json.trim_toText_of_structured Json.compact hstructured
  next =>
    have hagain := Json.trimmed_trimmed payload
    rw [show payload.trimmed = .str s from h] at hagain
    exact Json.str.inj hagain

/-- A last will that is stored is trimmed. -/
theorem LastWill.TextInputs.trimmed {will : LastWill} (h : will.TextInputs) {message : WillMessage}
    (hmessage : will.trimmed.message? = some message) : message.Trimmed := by
  rw [message?] at hmessage
  split at hmessage
  next htopic =>
    cases hmessage
    exact ⟨h.topic.isFilled_trimmed (h.topic.truthy_trimmed_iff.mp htopic),
      fun _ hpayload => PayloadType.trim_stored hpayload, h.contentType.isTrimmed_trimmed,
      h.responseTopic.isTrimmed_trimmed, h.correlationData.isTrimmed_trimmed⟩
  next => cases hmessage

/-- A property that is kept has a key, and both its texts are trimmed. -/
theorem UserProperty.trimmed_of_kept {property kept : UserProperty} (hkey : property.key.IsText)
    (hvalue : property.value.IsText) (h : property.trimmed? = some kept) :
    kept.key.IsFilled ∧ kept.value.IsTrimmed := by
  rw [trimmed?] at h
  split at h
  next htruthy =>
    cases h
    exact ⟨hkey.isFilled_trimmed (hkey.truthy_trimmed_iff.mp htruthy), hvalue.isTrimmed_trimmed⟩
  next => cases h

/-- The texts of a profile are trimmed, and it has a name and an address.  Its client identifier is left
out. -/
structure Profile.Trimmed (profile : Profile) : Prop where
  name : profile.name.IsFilled
  url : profile.configuration.url.IsFilled
  username : profile.configuration.username.IsTrimmed
  userProperties : ∀ property ∈ profile.configuration.userProperties,
    property.key.IsFilled ∧ property.value.IsTrimmed
  lastWill : ∀ message, profile.configuration.lastWill = some message → message.Trimmed

/-! ## Client identifiers -/

theorem Generator.isFilled_clientId (g : Generator) : (Json.str g.clientId.1).IsFilled :=
  (Json.isFilled_str_iff g.clientId_ne_empty).mpr g.trim_clientId

/-- A known client identifier is taken as it is, so it is filled in exactly if it is trimmed already; null
and the empty text are replaced by a generated one. -/
theorem Identity.isFilled_clientIdOrDrawn_iff {known : Json} (h : known.IsText) (g : Generator) :
    (clientIdOrDrawn known g).1.IsFilled ↔ known.trimmed = known := by
  cases known with
  | null => exact iff_of_true g.isFilled_clientId rfl
  | str s =>
    rw [Json.trimmed, Json.str.injEq]
    by_cases hs : s = ""
    · subst hs
      exact iff_of_true g.isFilled_clientId (by decide)
    · rw [clientIdOrDrawn, if_pos ((Json.truthy_str_iff s).mpr hs)]
      exact Json.isFilled_str_iff hs
  | bool _ | int _ | float _ | arr _ | obj _ => exact h.elim

namespace Draft

/-! ## Assembled profiles -/

/-- The client identifier of the edited profile, or null. -/
def storedClientId (draft : Draft) : Json :=
  Identity.storedClientId draft.editing

/-- Texts were entered in all fields for texts, and the client identifier of the edited profile is one. -/
structure TextInputs (draft : Draft) : Prop where
  name : draft.connection.name.value.IsText
  url : draft.connection.url.value.IsText
  clientId : draft.connection.identity.clientId.value.IsText
  username : draft.connection.identity.username.value.IsText
  storedClientId : draft.storedClientId.IsText
  userProperties : ∀ property ∈ draft.userProperties, property.key.IsText ∧ property.value.IsText
  lastWill : ∀ will, draft.lastWill = some will → will.TextInputs

/-- Where the draft has a client identifier, it is filled in.  Where it has none, it depends on the one of the
edited profile. -/
theorem isFilled_assembledClientId_iff {draft : Draft} (h : draft.TextInputs) (g : Generator) :
    (draft.assembledClientId g).1.IsFilled
      ↔ draft.connection.identity.clientId.value.Given
        ∨ draft.storedClientId.trimmed = draft.storedClientId := by
  by_cases hgiven : draft.connection.identity.clientId.value.Given
  · rw [assembledClientId_of_truthy g (h.clientId.truthy_trimmed_iff.mpr hgiven)]
    exact iff_of_true (h.clientId.isFilled_trimmed hgiven) (.inl hgiven)
  · have hfalse : draft.connection.identity.clientId.value.trimmed.truthy = false :=
      Bool.eq_false_iff.mpr fun htruthy => hgiven (h.clientId.truthy_trimmed_iff.mp htruthy)
    rw [assembledClientId, Json.orElse_of_not_truthy hfalse, or_iff_right hgiven]
    exact Identity.isFilled_clientIdOrDrawn_iff h.storedClientId g

/-- A profile that is assembled from entered texts has trimmed ones, and its name and address are more than
blanks.  So is its client identifier, except where the draft has none and the edited profile's, which is taken
over then, has blanks around it or consists of them. -/
theorem assembled_texts_trimmed {σ : Type} (config : Config) (start draft : Draft)
    (earlier events : List Event) (hstart : Started config earlier start)
    (hreached : Reached config start events draft) (htexts : draft.TextInputs) (store : CredentialStore σ)
    (user : Option String) (g : Generator) (world : σ) (assembly : Assembly)
    (hassemble : (draft.assemble store user g world).1 = .ok assembly) :
    assembly.profile.Trimmed
      ∧ (assembly.profile.configuration.clientId.IsFilled
        ↔ draft.connection.identity.clientId.value.Given
          ∨ draft.storedClientId.trimmed = draft.storedClientId) := by
  have hwellFormed := hreached.wellFormed hstart.wellFormed
  obtain ⟨intervals, reference?, hcheck, -, -, rfl, -⟩ :=
    (assemble_eq_ok_iff store user draft g _ world _ assembly).mp (Prod.ext hassemble rfl)
  obtain ⟨hconnection, -, -⟩ := (check_eq_ok_iff draft intervals).mp hcheck
  obtain ⟨hname, hurl, -⟩ := ((checks_connection hwellFormed).passes ()).mp hconnection
  refine ⟨?_, ?_⟩
  · constructor
    · rw [merged_name]
      exact htexts.name.isFilled_trimmed hname
    · rw [merged_configuration]
      exact htexts.url.isFilled_trimmed hurl
    · rw [merged_configuration]
      exact htexts.username.isTrimmed_trimmed
    · rw [merged_configuration]
      intro kept hkept
      obtain ⟨property, hproperty, htrimmed⟩ := List.mem_filterMap.mp hkept
      obtain ⟨hkey, hvalue⟩ := htexts.userProperties property hproperty
      exact UserProperty.trimmed_of_kept hkey hvalue htrimmed
    · rw [merged_configuration]
      intro message hmessage
      obtain ⟨will, hwill, hstored⟩ := Option.bind_eq_some_iff.mp hmessage
      exact (htexts.lastWill will hwill).trimmed hstored
  · rw [merged_configuration]
    exact isFilled_assembledClientId_iff htexts g

/-- A profile that was stored with blanks around its texts, and that is linked to a gateway's credential. -/
def padded : Profile where
  name := .str " Device "
  configuration :=
    { Configuration.initial (.str " ws://localhost:8084/mqtt") (.str "  dev  ") with
      clientCredentialsId := .str "c2" }
  id := some "p1"
  userId := none
  createdTime := .int 0

/-- The draft that edits it. -/
def editingPadded (g : Generator) : Draft :=
  hydrated Config.standard false padded .plain (Identity.initial (some padded) g).1 none

/-- The draft with the credential attached, which leaves the stored client identifier in its field. -/
def linkedPadded (g : Generator) : Draft :=
  let draft := editingPadded g
  draft.withIdentity (draft.connection.identity.attach (some gateway) draft.editing g).1

/-- The draft with the mode selected once more, which empties the field. -/
def emptiedPadded (g : Generator) : Draft :=
  let draft := linkedPadded g
  draft.withIdentity (draft.connection.identity.selectMode .existing draft.editing g).1

theorem started_editingPadded (g : Generator) : Started Config.standard [] (editingPadded g) := by
  have htransport : Transport.ofUrl padded.configuration.url = .ok .plain := by decide +kernel
  have hwill : storedWill padded.configuration = .ok none := rfl
  have hopened := ofProfile_of_read Config.standard false g htransport hwill
  exact .begun (.edited (congrArg Prod.fst hopened))

/-- Texts are in all fields of the draft, whatever becomes of its identity. -/
theorem textInputs_withIdentity (g : Generator) {identity : Identity}
    (hclientId : identity.clientId.value.IsText) (husername : identity.username.value.IsText) :
    ((editingPadded g).withIdentity identity).TextInputs := by
  have hstored : Identity.storedClientId (some padded) = .str "  dev  " := by decide +kernel
  constructor
  · trivial
  · trivial
  · exact hclientId
  · exact husername
  · show (Identity.storedClientId (some padded)).IsText
    rw [hstored]
    trivial
  · exact List.forall_mem_nil _
  · exact fun will hwill => nomatch hwill

/-- As long as the stored client identifier is in its field it is trimmed with all other texts. -/
theorem padded_client_trimmed :
    ∃ assembly, ((linkedPadded (.ofStep 0 7)).assemble (CredentialStore.broken (σ := Unit) "") none
        (.ofStep 0 7) ()).1 = .ok assembly
      ∧ assembly.profile.Trimmed ∧ assembly.profile.configuration.clientId.IsFilled := by
  let g : Generator := .ofStep 0 7
  have hreached : Reached Config.standard (editingPadded g) [.changeReference (some gateway.record)]
      (linkedPadded g) := Reached.refl.attach gateway g
  have hcheck : (linkedPadded g).check = .ok ⟨60, 30000, 1000⟩ := by decide +kernel
  have hassemble := assemble_of_ne_auto (CredentialStore.broken (σ := Unit) "") none g () (by decide)
    hcheck rfl
  obtain ⟨htrimmed, hclientId⟩ := assembled_texts_trimmed Config.standard _ _ [] _
    (started_editingPadded g) hreached (textInputs_withIdentity g trivial trivial) _ none g () _ hassemble
  have hgiven : (linkedPadded g).connection.identity.clientId.value.missing = false := by decide +kernel
  exact ⟨_, hassemble, htrimmed, hclientId.mpr (.inl ((Json.missing_eq_false_iff _).mp hgiven))⟩

/-- Once the field was emptied it is taken over with its blanks. -/
theorem padded_client_untrimmed :
    ∃ draft assembly, Started Config.standard [] (editingPadded (.ofStep 0 7))
      ∧ Reached Config.standard (editingPadded (.ofStep 0 7))
        [.selectMode (.str "EXISTING"), .changeReference (some gateway.record)] draft
      ∧ draft.TextInputs
      ∧ (draft.assemble (CredentialStore.broken (σ := Unit) "") none (.ofStep 0 7) ()).1 = .ok assembly
      ∧ assembly.profile.configuration.clientId = .str "  dev  "
      ∧ ¬ assembly.profile.configuration.clientId.IsFilled := by
  let g : Generator := .ofStep 0 7
  have hmode : CredentialMode.ofJson (.str "EXISTING") = .ok .existing := by decide
  have hcheck : (emptiedPadded g).check = .ok ⟨60, 30000, 1000⟩ := by decide +kernel
  have hassemble := assemble_of_ne_auto (CredentialStore.broken (σ := Unit) "") none g () (by decide)
    hcheck rfl
  have hclientId : ((emptiedPadded g).assembledClientId g).1 = .str "  dev  " := by decide +kernel
  refine ⟨emptiedPadded g, _, started_editingPadded g, (Reached.refl.attach gateway g).selectMode hmode g,
    textInputs_withIdentity g trivial trivial, hassemble, ?_, ?_⟩
  · rw [merged_configuration]
    exact hclientId
  · rw [merged_configuration]
    show ¬ ((emptiedPadded g).assembledClientId g).1.IsFilled
    rw [hclientId, Json.isFilled_str_iff (by decide)]
    decide +kernel

end Draft

end MqttProfile
