import Mathlib.Data.List.Infix
import MqttProfile.Proofs.Entered
import MqttProfile.Transport

/-!
# The secured scheme in addresses

The transport of an address is told from one thing: whether the secured scheme occurs in it.  Trimming does
not touch the scheme.  A derived address of a secured connection has it in front; in one of a plain connection
it can only be where the host or the path already has it, for a colon and a port stand between the two.  So
`ofUrl_url_eq_iff` says exactly when the transport of a derived address is told right.
-/

namespace MqttProfile

namespace Text

/-! ## Occurrences -/

/-- A text occurs in another where it is a run of it. -/
theorem occursIn_iff_infix (needle cs : List Char) : occursIn needle cs = true ↔ needle <:+: cs := by
  induction cs with
  | nil => rw [occursIn, List.isEmpty_iff, List.infix_nil]
  | cons c cs ih => rw [occursIn, Bool.or_eq_true, List.isPrefixOf_iff_prefix, ih, List.infix_cons_iff]

/-- Nothing of a run is dropped from the front if none of it is to be dropped. -/
theorem infix_dropWhile_iff {p : Char → Bool} {needle : List Char} (hne : needle ≠ [])
    (h : ∀ c ∈ needle, p c = false) (cs : List Char) : needle <:+: cs.dropWhile p ↔ needle <:+: cs := by
  induction cs with
  | nil => rfl
  | cons c cs ih =>
    rw [List.dropWhile_cons]
    split
    · rename_i hdropped
      rw [ih, List.infix_cons_iff, iff_or_self]
      -- a run in front would start with what is dropped
      intro hfront
      obtain ⟨d, ds, rfl⟩ := List.exists_cons_of_ne_nil hne
      rw [List.cons_prefix_cons] at hfront
      rw [← hfront.1, h d List.mem_cons_self] at hdropped
      exact absurd hdropped Bool.false_ne_true
    · rfl

/-- Stripping leaves every run whole that has nothing in it to strip. -/
theorem infix_stripBy_iff {p : Char → Bool} {needle : List Char} (hne : needle ≠ [])
    (h : ∀ c ∈ needle, p c = false) (cs : List Char) : needle <:+: stripBy p cs ↔ needle <:+: cs := by
  have hreverse : ∀ c ∈ needle.reverse, p c = false := fun c hc => h c (List.mem_reverse.mp hc)
  rw [stripBy, ← List.reverse_infix, List.reverse_reverse,
    infix_dropWhile_iff (List.reverse_ne_nil_iff.mpr hne) hreverse, List.reverse_infix,
    infix_dropWhile_iff hne h]

/-- A run does not start among characters that are not its first. -/
theorem infix_append_of_not_mem {c : Char} {front : List Char} (h : c ∉ front) (cs back : List Char) :
    c :: cs <:+: front ++ back ↔ c :: cs <:+: back := by
  induction front with
  | nil => rfl
  | cons d front ih =>
    rw [List.mem_cons, not_or] at h
    rw [List.cons_append, List.infix_cons_iff, ih h.2, or_iff_right_iff_imp]
    intro hfront
    rw [List.cons_prefix_cons] at hfront
    exact absurd hfront.1 h.1

/-- The digits of an integer start with a digit or a minus sign, and have nothing else. -/
theorem exists_ofInt_eq_cons (n : Int) :
    ∃ c cs, ofInt n = c :: cs ∧ ∀ d ∈ c :: cs, d.isDigit = true ∨ d = '-' := by
  have hdigits : ∀ d ∈ ofNat n.natAbs, d.isDigit = true ∨ d = '-' := fun d hd =>
    .inl (Nat.isDigit_of_mem_toDigits (by omega) (by omega) hd)
  rw [ofInt]
  split
  · exact ⟨'-', _, rfl, List.forall_mem_cons.mpr ⟨.inr rfl, hdigits⟩⟩
  · obtain ⟨c, cs, hcons⟩ := List.exists_cons_of_ne_nil (l := ofNat n.natAbs) Nat.toDigits_ne_nil
    rw [hcons] at hdigits
    exact ⟨c, cs, hcons, hdigits⟩

end Text

namespace Transport

/-! ## Addresses with the secured scheme -/

/-- Whether the secured scheme occurs in a text. -/
def HasSecureScheme (s : String) : Prop :=
  secure.scheme.toList <:+: s.toList

instance (s : String) : Decidable (HasSecureScheme s) :=
  decidable_of_iff _ (Text.occursIn_iff_infix secure.scheme.toList s.toList)

theorem ofText_eq_ite (s : String) : ofText s = if HasSecureScheme s then .secure else .plain := by
  rw [ofText]
  exact if_congr (Text.occursIn_iff_infix _ _) rfl rfl

/-- An address that is a text is secured exactly if the scheme occurs in it. -/
theorem ofText_eq_secure_iff (s : String) : ofText s = .secure ↔ HasSecureScheme s := by
  rw [ofText_eq_ite]
  split
  · rename_i hsome
    exact iff_of_true rfl hsome
  · rename_i hnone
    exact iff_of_false (nomatch ·) hnone

/-- The transport of a text is told from it. -/
theorem ofUrl_str (s : String) : ofUrl (.str s) = .ok (ofText s) := by
  rw [ofUrl]
  split
  · rfl
  · rename_i hempty
    rw [Json.truthy, Bool.not_eq_true, Bool.not_eq_false', String.isEmpty_iff] at hempty
    rw [hempty]
    rfl

theorem secureScheme_toList : secure.scheme.toList = ['w', 's', 's', ':', '/', '/'] := by
  decide

/-- Trimming keeps the scheme. -/
theorem hasSecureScheme_trim_iff (s : String) : HasSecureScheme (Text.trim s) ↔ HasSecureScheme s := by
  have hmarks : ['w', 's', 's', ':', '/', '/'].all (fun c => !Text.isBlank c) = true := by decide
  rw [HasSecureScheme, HasSecureScheme, Text.trim, String.toList_ofList, secureScheme_toList]
  refine Text.infix_stripBy_iff (List.cons_ne_nil _ _) (fun c hc => ?_) s.toList
  rw [← Bool.not_eq_true']
  exact List.all_eq_true.mp hmarks c hc

theorem ofText_trim (s : String) : ofText (Text.trim s) = ofText s := by
  simp only [ofText_eq_ite, hasSecureScheme_trim_iff]

theorem url_toList (transport : Transport) (endpoint : Endpoint) (path : String) :
    (transport.url endpoint path).toList = transport.scheme.toList
      ++ (endpoint.host.toList ++ ':' :: (Text.ofInt endpoint.port ++ path.toList)) := by
  simp only [url, address, Text.decimal, String.toList_append, String.toList_ofList, List.append_assoc]
  rfl

theorem hasSecureScheme_secure_url (endpoint : Endpoint) (path : String) :
    HasSecureScheme (secure.url endpoint path) := by
  rw [HasSecureScheme, url_toList]
  exact (List.prefix_append _ _).isInfix

/-- The scheme does not reach over the colon behind a host. -/
theorem secureScheme_infix_host_iff (host path : List Char) (port : Int) :
    secure.scheme.toList <:+: host ++ ':' :: (Text.ofInt port ++ path)
      ↔ secure.scheme.toList <:+: host ∨ secure.scheme.toList <:+: path := by
  obtain ⟨c, cs, hport, hdigits⟩ := Text.exists_ofInt_eq_cons port
  have hstart : 'w' ∉ ':' :: c :: cs := by
    rw [List.mem_cons, not_or]
    exact ⟨by decide, fun hmem => absurd (hdigits 'w' hmem) (by decide)⟩
  have hslash : c ≠ '/' := by
    rintro rfl
    exact absurd (hdigits '/' List.mem_cons_self) (by decide)
  rw [secureScheme_toList, hport, List.infix_append_iff, ← List.cons_append,
    Text.infix_append_of_not_mem hstart]
  constructor
  · rintro (hhost | hpath | ⟨front, back, hsplit, hfront, hback⟩)
    · exact .inl hhost
    · exact .inr hpath
    · cases back with
      | nil =>
        rw [List.append_nil] at hsplit
        exact .inl (hsplit ▸ hfront.isInfix)
      | cons d back =>
        -- what follows the colon of the scheme is a slash, and no port starts with one
        rw [List.cons_append, List.cons_append, List.cons_prefix_cons] at hback
        obtain ⟨rfl, hback⟩ := hback
        have htail : ':' :: back ∈ ['w', 's', 's', ':', '/', '/'].tails :=
          (List.mem_tails _ _).mpr ⟨front, hsplit.symm⟩
        obtain rfl : back = ['/', '/'] := by simpa using htail
        rw [List.cons_prefix_cons] at hback
        exact absurd hback.1.symm hslash
  · rintro (hhost | hpath)
    · exact .inl hhost
    · exact .inr (.inl hpath)

/-- A plain address has it only in its host or its path. -/
theorem hasSecureScheme_plain_url_iff (endpoint : Endpoint) (path : String) :
    HasSecureScheme (plain.url endpoint path) ↔ HasSecureScheme endpoint.host ∨ HasSecureScheme path := by
  have hplain : plain.scheme.toList = ['w', 's', ':', '/', '/'] := by decide
  rw [HasSecureScheme, url_toList, HasSecureScheme, HasSecureScheme,
    ← secureScheme_infix_host_iff _ _ endpoint.port, hplain, secureScheme_toList]
  -- it does not start at any of the five characters in front of the host
  simp [List.infix_cons_iff]

/-- A derived address tells its transport, unless the scheme hides in the host or in the path. -/
theorem ofText_url {transport : Transport} {endpoint : Endpoint} {path : String}
    (h : transport = .plain → ¬ HasSecureScheme endpoint.host ∧ ¬ HasSecureScheme path) :
    ofText (transport.url endpoint path) = transport := by
  cases transport with
  | secure => exact (ofText_eq_secure_iff _).mpr (hasSecureScheme_secure_url endpoint path)
  | plain =>
    rw [ofText_eq_ite, if_neg]
    rw [hasSecureScheme_plain_url_iff, not_or]
    exact h rfl

/-- The transport of a derived address is the one that it was derived for, exactly if that is the secured one or
neither the host nor the path has the secured scheme in it. -/
theorem ofUrl_url_eq_iff (transport : Transport) (endpoint : Endpoint) (path : String) :
    ofUrl (.str (transport.url endpoint path)) = .ok transport
      ↔ transport = .secure ∨ ¬ HasSecureScheme endpoint.host ∧ ¬ HasSecureScheme path := by
  rw [ofUrl_str, Except.ok.injEq]
  constructor
  · intro hsame
    cases transport with
    | secure => exact .inl rfl
    | plain =>
      -- the address of a plain connection would be told to be secured
      rw [← not_or, ← hasSecureScheme_plain_url_iff endpoint path, ← ofText_eq_secure_iff, hsame]
      exact .inr (nomatch ·)
  · rintro (rfl | hfree)
    · exact ofText_url (nomatch ·)
    · exact ofText_url fun _ => hfree

/-- The address of an endpoint is derived exactly if its port can be written, and then its transport is told as the
one that it was derived for exactly if that is the secured one or neither the host nor the path has the secured
scheme in it. -/
theorem ofUrl_derive_eq_iff (transport : Transport) (endpoint : Endpoint) (path : String) :
    (Text.writable endpoint.port = true → ∃ url, transport.derive endpoint path = .ok url
        ∧ (ofUrl (.str url) = .ok transport
          ↔ transport = .secure ∨ ¬ HasSecureScheme endpoint.host ∧ ¬ HasSecureScheme path))
      ∧ (Text.writable endpoint.port = false → transport.derive endpoint path = .error .badValue) :=
  ⟨fun hport => ⟨_, transport.derive_of_writable path hport, ofUrl_url_eq_iff transport endpoint path⟩,
    fun hport => transport.derive_of_not_writable path hport⟩

/-- A port of usual length is written, and the secured address that is derived from it tells its transport. -/
theorem secure_address_detected :
    ∃ url, secure.derive ⟨"localhost", 8085⟩ "/mqtt" = .ok url ∧ ofUrl (.str url) = .ok .secure := by
  obtain ⟨url, hderive, hdetected⟩ :=
    (ofUrl_derive_eq_iff .secure ⟨"localhost", 8085⟩ "/mqtt").1 (by decide)
  exact ⟨url, hderive, hdetected.mpr (.inl rfl)⟩

/-- From a port with too many digits not even a secured address is derived. -/
theorem long_port_not_derived :
    ((secure.derive ⟨"localhost", Nat.pow 10 Text.digitLimit⟩ "/mqtt").bind fun url => ofUrl (.str url))
      ≠ .ok .secure := by
  have hderive : secure.derive ⟨"localhost", Nat.pow 10 Text.digitLimit⟩ "/mqtt" = .error .badValue :=
    secure.derive_of_not_writable "/mqtt" Text.not_writable_pow
  rw [hderive]
  exact (nomatch ·)

end Transport

end MqttProfile
