import MqttProfile.Config.File
import MqttProfile.Proofs.Binary64.Nearest

/-!
# Loading the configuration

A load gives a configuration for almost everything that is found in the place of the file.  It fails for three
kinds of content: bytes that are no text, a decimal integer with too many digits, and a timeout that is an integer
out of range.

* `Fails` lists these, and `Unusable` what counts as no configuration;
* `load_fails_iff` says that a load fails for the first list exactly, and gives the standard configuration for
  the second one unless it fails.
-/

namespace MqttProfile.Config

theorem fromUTF8_toUTF8 (s : String) : String.fromUTF8? s.toUTF8 = some s := by
  unfold String.fromUTF8?
  rw [String.toUTF8_eq_toByteArray, dif_pos s.isValidUTF8]
  rfl

/-- What a load of a file fails with. -/
inductive Fails : File → Fault → Prop
  | noText {bytes : ByteArray} (h : String.fromUTF8? bytes = none) : Fails (.content bytes) .malformedText
  | tooLong {bytes : ByteArray} {s : String} (hs : String.fromUTF8? bytes = some s)
      (h : Toml.read s = .error .tooLong) : Fails (.content bytes) .badValue
  | outOfRange {bytes : ByteArray} {s : String} {table : Toml.Table} {n : Int}
      (hs : String.fromUTF8? bytes = some s) (htable : Toml.read s = .ok table)
      (htimeout : table.lookup "request_timeout" = some (.integer n)) (h : Binary64.integerLimit ≤ n.natAbs) :
      Fails (.content bytes) .outOfRange

/-- What counts as no configuration: no file, no TOML, or an unknown choice. -/
inductive Unusable : File → Prop
  | missing : Unusable .missing
  | directory : Unusable .directory
  | malformed {bytes : ByteArray} {s : String} (hs : String.fromUTF8? bytes = some s)
      (h : Toml.read s = .error .malformed) : Unusable (.content bytes)
  | unknownChoice {bytes : ByteArray} {s name : String} {table : Toml.Table}
      (hs : String.fromUTF8? bytes = some s) (htable : Toml.read s = .ok table)
      (hchoice : table.lookup "url_rederive_on_settings_load" = some (.text name))
      (h : name ∉ Rederive.choices.map (·.1)) : Unusable (.content bytes)

/-- An integer is no number where it is out of range. -/
theorem numberOfInteger_eq_error_iff (n : Int) (fault : Fault) :
    numberOfInteger n = .error fault ↔ Binary64.integerLimit ≤ n.natAbs ∧ fault = .outOfRange := by
  rw [← Binary64.ofInt_eq_none_iff, numberOfInteger]
  cases hn : Binary64.ofInt? n with
  | some x => simp
  | none => simp [eq_comm]

/-- The timeout of a table is a number unless it is an integer out of range. -/
theorem numberOr_eq_error_iff (default : Binary64) (name : String) (table : Toml.Table) (fault : Fault) :
    numberOr default name table = .error fault ↔
      ∃ n, table.lookup name = some (.integer n) ∧ Binary64.integerLimit ≤ n.natAbs ∧ fault = .outOfRange := by
  unfold numberOr
  split
  · rename_i x hfloat
    simp [hfloat]
  · rename_i n hinteger
    rw [numberOfInteger_eq_error_iff]
    simp [hinteger]
  · rename_i b hboolean
    -- a truth value is zero or one
    have hbit : (Json.ofBit b).natAbs < 2 := by cases b <;> decide
    have hrange := Binary64.two_le_integerLimit
    rw [numberOfInteger_eq_error_iff]
    constructor
    · rintro ⟨hbig, -⟩
      omega
    · rintro ⟨n, hn, -⟩
      rw [hboolean] at hn
      cases hn
  · rename_i hinteger hboolean
    constructor
    · intro h
      cases h
    · rintro ⟨n, hn, -⟩
      exact absurd hn (hinteger n)

/-- A table is no configuration only for its timeout. -/
theorem ofTable_eq_error_iff (table : Toml.Table) (fault : Fault) :
    ofTable table = .error fault ↔ numberOr standard.requestTimeout "request_timeout" table = .error fault := by
  unfold ofTable
  cases numberOr standard.requestTimeout "request_timeout" table with
  | error fault' => simp [bind, Except.bind]
  | ok timeout =>
    cases rederiveOf? table with
    | none => simp [bind, Except.bind, pure, Except.pure]
    | some rederive => simp [bind, Except.bind, pure, Except.pure]

/-- A load fails exactly with what is listed. -/
theorem load_eq_error_iff (file : File) (fault : Fault) : load file = .error fault ↔ Fails file fault := by
  constructor
  · intro h
    cases file with
    | missing | directory => cases h
    | content bytes =>
      rw [load] at h
      split at h
      · rename_i s hs
        rw [ofText] at h
        split at h
        · rename_i table htable
          rw [ofTable_eq_error_iff, numberOr_eq_error_iff] at h
          obtain ⟨n, hn, hbig, rfl⟩ := h
          exact .outOfRange hs htable hn hbig
        · cases h
        · rename_i hlong
          cases h
          exact .tooLong hs hlong
      · rename_i hs
        cases h
        exact .noText hs
  · intro h
    cases h with
    | noText hs => rw [load, hs]
    | tooLong hs hlong =>
      rw [load, hs]
      show ofText _ = _
      rw [ofText, hlong]
    | outOfRange hs htable htimeout hbig =>
      rw [load, hs]
      show ofText _ = _
      rw [ofText, htable]
      show ofTable _ = _
      rw [ofTable_eq_error_iff, numberOr_eq_error_iff]
      exact ⟨_, htimeout, hbig, rfl⟩

/-- A table with an unknown choice is void, unless it is no configuration anyway. -/
theorem ofTable_of_unknownChoice {table : Toml.Table} (h : rederiveOf? table = none) :
    ofTable table = .ok standard ∨ ∃ fault, ofTable table = .error fault := by
  unfold ofTable
  cases numberOr standard.requestTimeout "request_timeout" table with
  | error fault => exact .inr ⟨fault, rfl⟩
  | ok timeout =>
    rw [h]
    exact .inl rfl

/-- A choice that is none of the known ones is unknown. -/
theorem rederiveOf_eq_none {table : Toml.Table} {name : String}
    (hchoice : table.lookup "url_rederive_on_settings_load" = some (.text name))
    (h : name ∉ Rederive.choices.map (·.1)) : rederiveOf? table = none := by
  have hlookup : Rederive.choices.lookup name = none := by
    rw [List.lookup_eq_none_iff]
    intro entry hentry
    rw [bne_iff_ne]
    rintro rfl
    exact h (List.mem_map_of_mem hentry)
  unfold rederiveOf?
  rw [hchoice]
  exact hlookup

/-- A load gives a configuration except for bytes that are no text, a decimal integer with too many digits, and a
timeout that is an integer out of range.  What counts as no configuration gives the standard one, unless it is one
of these. -/
theorem load_fails_iff (file : File) :
    (∀ fault, load file = .error fault ↔ Fails file fault)
      ∧ (Unusable file → load file = .ok standard ∨ ∃ fault, Fails file fault) := by
  refine ⟨load_eq_error_iff file, fun hunusable => ?_⟩
  cases hunusable with
  | missing | directory => exact .inl rfl
  | malformed hs hmalformed =>
    left
    rw [load, hs]
    show ofText _ = _
    rw [ofText, hmalformed]
  | unknownChoice hs htable hchoice hunknown =>
    simp only [← load_eq_error_iff]
    rw [load, hs]
    show ofText _ = _ ∨ ∃ fault, ofText _ = _
    rw [ofText, htable]
    exact ofTable_of_unknownChoice (rederiveOf_eq_none hchoice hunknown)

/-- A file with a single letter is no TOML, and gives the standard configuration. -/
theorem stray_letter_loaded : load (.content "x".toUTF8) = .ok standard := by
  have hs := fromUTF8_toUTF8 "x"
  have hread : Toml.read "x" = .error .malformed := by
    unfold Toml.read
    simp only [show "x".toList = ['x'] from rfl]
    rfl
  obtain ⟨hfails, hunusable⟩ := load_fails_iff (.content "x".toUTF8)
  rcases hunusable (.malformed hs hread) with hloaded | ⟨fault, hfault⟩
  · exact hloaded
  · have hload := (hfails fault).mpr hfault
    rw [load, hs] at hload
    have htext : ofText "x" = .error fault := hload
    rw [ofText, hread] at htext
    cases htext

/-- A file with a byte that is no text gives no configuration. -/
theorem stray_byte_not_loaded : ¬∃ config, load (.content ⟨#[0xff]⟩) = .ok config := by
  have hbytes : String.fromUTF8? ⟨#[0xff]⟩ = none := by decide
  rw [load, hbytes]
  rintro ⟨config, h⟩
  cases h

end MqttProfile.Config
