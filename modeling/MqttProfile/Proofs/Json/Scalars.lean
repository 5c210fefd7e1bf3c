import Mathlib.Data.List.TakeDrop
import MqttProfile.Json.Printer
import MqttProfile.Json.Reader

/-!
# Reading back numbers and strings

What the printer writes for an integer or a string is read back by the reader, with the rest of the text
left over.  An integer has no mark at its end, so the rest must not go on with it: `Ends` says what may
follow.  A string is written character by character, and each of them is read as one or two pieces; the
pieces are put together again only when the whole string is read, because two units of UTF-16 that were
written next to each other may form a pair.
-/

namespace MqttProfile

/-! ## Digits -/

namespace Text

/-- A run of at least one digit. -/
structure IsDigits (digits : List Char) : Prop where
  ne_nil : digits ≠ []
  isDigit : ∀ c ∈ digits, c.isDigit = true

theorem IsDigits.exists_cons {digits : List Char} (h : IsDigits digits) :
    ∃ c cs, digits = c :: cs ∧ c.isDigit = true := by
  obtain ⟨c, cs, rfl⟩ := List.exists_cons_of_ne_nil h.ne_nil
  exact ⟨c, cs, rfl, h.isDigit c List.mem_cons_self⟩

theorem isDigits_ofNat (n : Nat) : IsDigits (ofNat n) :=
  ⟨Nat.toDigits_ne_nil, fun _ hc => Nat.isDigit_of_mem_toDigits (by omega) (by omega) hc⟩

theorem isDigits_singleton {c : Char} (h : c.isDigit = true) : IsDigits [c] :=
  ⟨List.cons_ne_nil c [], List.forall_mem_singleton.mpr h⟩

/-- Digits without a zero in front, unless it stands alone. -/
inductive IsWhole : List Char → Prop
  | zero : IsWhole ['0']
  | positive {digits : List Char} (h : IsDigits digits) (hfirst : digits.head? ≠ some '0') :
      IsWhole digits

theorem IsWhole.isDigits {whole : List Char} (h : IsWhole whole) : IsDigits whole := by
  cases h with
  | zero => exact isDigits_singleton rfl
  | positive h _ => exact h

/-- Only zero is written with a zero in front. -/
theorem toDigits_eq_zero_cons {n : Nat} {digits : List Char} (h : Nat.toDigits 10 n = '0' :: digits) :
    n = 0 := by
  induction n using Nat.strongRecOn generalizing digits with
  | ind n ih =>
    by_cases hn : n < 10
    · rw [Nat.toDigits_of_lt_base hn] at h
      have hzero := List.head_eq_of_cons_eq h
      exact Nat.digitChar_eq_zero.mp hzero
    · rw [Nat.toDigits_of_base_le (by omega) (by omega)] at h
      -- the digits in front are those of a smaller number, which is not zero
      cases hfront : Nat.toDigits 10 (n / 10) with
      | nil => exact absurd hfront Nat.toDigits_ne_nil
      | cons c cs =>
        rw [hfront, List.cons_append] at h
        have hc := List.head_eq_of_cons_eq h
        rw [hc] at hfront
        have := ih (n / 10) (by omega) hfront
        omega

/-- The digits of a natural number do not start with a zero, unless it is zero. -/
theorem isWhole_ofNat (n : Nat) : IsWhole (ofNat n) := by
  by_cases hn : n = 0
  · subst hn
    exact .zero
  · refine .positive (isDigits_ofNat n) ?_
    obtain ⟨c, cs, hdigits⟩ := List.exists_cons_of_ne_nil (isDigits_ofNat n).ne_nil
    rw [hdigits, List.head?_cons, Ne, Option.some.injEq]
    rintro rfl
    exact hn (toDigits_eq_zero_cons hdigits)

end Text

namespace Json

open Text (IsWhole)

/-! ## Integers -/

/-- What follows a value: nothing, a comma or a closing bracket. -/
def Ends (rest : List Char) : Prop :=
  ∀ c ∈ rest.head?, c = ',' ∨ c = ']' ∨ c = '\x7d'

theorem ends_nil : Ends [] := by
  intro c hc
  cases hc

theorem ends_cons {c : Char} (cs : List Char) (h : c = ',' ∨ c = ']' ∨ c = '\x7d') : Ends (c :: cs) := by
  intro d hd
  cases hd
  exact h

/-- What follows a run of digits: nothing, or something else. -/
def EndsDigits (rest : List Char) : Prop :=
  ∀ c ∈ rest.head?, c.isDigit = false

theorem endsDigits_cons {c : Char} (h : c.isDigit = false) (cs : List Char) : EndsDigits (c :: cs) := by
  intro d hd
  cases hd
  exact h

theorem Ends.endsDigits {rest : List Char} (hends : Ends rest) : EndsDigits rest := by
  intro c hc
  rcases hends c hc with rfl | rfl | rfl <;> decide

/-- A run of digits is split off. -/
theorem spanDigits_append {digits rest : List Char} (hdigits : ∀ c ∈ digits, c.isDigit = true)
    (hends : EndsDigits rest) : Binary64.spanDigits (digits ++ rest) = (digits, rest) := by
  have hrest : rest.takeWhile Char.isDigit = [] ∧ rest.dropWhile Char.isDigit = rest := by
    cases rest with
    | nil => exact ⟨rfl, rfl⟩
    | cons c cs =>
      rw [List.takeWhile_cons, List.dropWhile_cons, hends c rfl]
      exact ⟨rfl, rfl⟩
  rw [Binary64.spanDigits, List.span_eq_takeWhile_dropWhile, List.takeWhile_append_of_pos hdigits,
    List.dropWhile_append_of_pos hdigits, hrest.1, hrest.2, List.append_nil]

theorem takeFraction_of_ends {rest : List Char} (hends : Ends rest) : takeFraction rest = ([], rest) := by
  cases rest with
  | nil => rfl
  | cons c cs => rcases hends c rfl with rfl | rfl | rfl <;> rfl

theorem takeExponent_of_ends {rest : List Char} (hends : Ends rest) : takeExponent rest = ([], rest) := by
  cases rest with
  | nil => rfl
  | cons c cs => rcases hends c rfl with rfl | rfl | rfl <;> rfl

/-- The digits at the front of a number are split off. -/
theorem splitWhole_append {whole rest : List Char} (h : IsWhole whole) (hends : EndsDigits rest) :
    (match whole ++ rest with
      | '0' :: rest => (['0'], rest)
      | cs => Binary64.spanDigits cs) = (whole, rest) := by
  cases h with
  | zero => rfl
  | positive hdigits hfirst =>
    split
    · rename_i heq
      obtain ⟨c, cs, rfl⟩ := List.exists_cons_of_ne_nil hdigits.ne_nil
      rw [List.cons_append] at heq
      rw [List.head_eq_of_cons_eq heq] at hfirst
      exact absurd rfl hfirst
    · exact spanDigits_append hdigits.isDigit hends

/-- The digits of a number are read back, unless there are too many of them. -/
theorem readUnsigned_ofNat (negative : Bool) (n : Nat) {rest : List Char} (hends : Ends rest) :
    readUnsigned negative (Text.ofNat n ++ rest)
      = if Text.digitLimit < (Text.ofNat n).length then .error .badValue
        else .ok (.int (if negative then -(n : Int) else (n : Int)), rest) := by
  have hvalue : Binary64.digitsValue (Text.ofNat n) = n := Nat.ofDigitChars_ten_toDigits
  have hsome : (Text.ofNat n).isEmpty = false :=
    List.isEmpty_eq_false_iff.mpr (Text.isDigits_ofNat n).ne_nil
  rw [readUnsigned.eq_def]
  split
  rename_i heq
  cases heq.symm.trans (splitWhole_append (Text.isWhole_ofNat n) hends.endsDigits)
  rw [hsome, takeFraction_of_ends hends]
  dsimp only
  rw [takeExponent_of_ends hends, hvalue]
  rfl

/-! ## Strings -/

/-- Half a pair is no code point. -/
theorem not_half_of_char (c : Char) :
    isHighUnit c.toNat = false ∧ isLowUnit c.toNat = false := by
  have hvalid : c.toNat < 0xD800 ∨ 0xDFFF < c.toNat ∧ c.toNat < 0x110000 := c.valid
  rw [isHighUnit, isLowUnit]
  constructor
  · rw [Bool.and_eq_false_iff, decide_eq_false_iff_not, decide_eq_false_iff_not]
    omega
  · rw [Bool.and_eq_false_iff, decide_eq_false_iff_not, decide_eq_false_iff_not]
    omega

theorem charOfUnit_toNat (c : Char) : charOfUnit c.toNat = c := by
  have hhalf := not_half_of_char c
  rw [charOfUnit, hhalf.1, hhalf.2]
  exact Char.ofNat_toNat c

theorem hexValue_hexDigit {n : Nat} (h : n < 16) : hexValue? (hexDigit n) = some n := by
  have hall : ∀ n < 16, hexValue? (hexDigit n) = some n := by decide
  exact hall n h

/-- The four digits of a unit are read back. -/
theorem unitOfHex_hexDigits {unit : Nat} (h : unit < 65536) :
    unitOfHex? (hexDigit (unit / 4096 % 16)) (hexDigit (unit / 256 % 16)) (hexDigit (unit / 16 % 16))
      (hexDigit (unit % 16)) = some unit := by
  rw [unitOfHex?, hexValue_hexDigit (by omega), hexValue_hexDigit (by omega),
    hexValue_hexDigit (by omega), hexValue_hexDigit (by omega)]
  show some _ = some unit
  congr 1
  omega

/-- The pieces are what the reader finds for some text, and they stand for a character. -/
structure Spells (text : List Char) (pieces : List Piece) (c : Char) : Prop where
  reads : ∀ rest, readPieces (text ++ rest)
    = (readPieces rest).map fun found => (pieces ++ found.1, found.2)
  joins : ∀ more, joinPieces (pieces ++ more) = c :: joinPieces more

/-- A character that needs no escape spells itself. -/
theorem spells_plain {c : Char} (hquote : c ≠ '"') (hslash : c ≠ '\\') (hcontrol : ¬ c.toNat < 0x20) :
    Spells [c] [.char c] c := by
  constructor
  · intro rest
    rw [List.singleton_append, readPieces.eq_def]
    split
    · rename_i h
      exact absurd (List.head_eq_of_cons_eq h) hquote
    · rename_i h
      exact absurd (List.head_eq_of_cons_eq h) hslash
    · rename_i h
      exact absurd (List.head_eq_of_cons_eq h) hslash
    · rename_i h
      cases h
      rw [if_neg hcontrol]
      rfl
    · rename_i h
      cases h
  · intro more
    rfl

/-- A character that follows a backslash spells what it stands for. -/
theorem spells_short {mark c : Char} (hmark : mark ≠ 'u') (h : shortEscape? mark = some c) :
    Spells ['\\', mark] [.char c] c := by
  constructor
  · intro rest
    show readPieces ('\\' :: mark :: rest) = _
    rw [readPieces.eq_def]
    split
    · rename_i heq
      cases heq
    · rename_i heq
      cases heq
      exact absurd rfl hmark
    · rename_i heq
      cases heq
      rw [h]
      rfl
    · rename_i hno heq
      cases heq
      exact (hno mark rest rfl rfl).elim
    · rename_i heq
      cases heq
  · intro more
    rfl

theorem readPieces_unitEscape {unit : Nat} (h : unit < 65536) (rest : List Char) :
    readPieces (unitEscape unit ++ rest) = (readPieces rest).map (consPiece (.unit unit)) := by
  show readPieces ('\\' :: 'u' :: _ :: _ :: _ :: _ :: rest) = _
  rw [readPieces, unitOfHex_hexDigits h]
  rfl

/-- A unit that is no half of a pair is joined on its own. -/
theorem joinPieces_unit {unit : Nat} (h : isHighUnit unit = false) (more : List Piece) :
    joinPieces (.unit unit :: more) = charOfUnit unit :: joinPieces more := by
  rw [joinPieces.eq_def]
  split
  · rename_i heq
    cases heq
  · rename_i heq
    cases heq
  · rename_i heq
    cases heq
    rw [h]
    rfl
  · rename_i heq
    cases heq
    rfl

/-- A character of the basic plane is spelled by the escape of its unit. -/
theorem spells_unit {c : Char} (h : c.toNat < 0x10000) :
    Spells (unitEscape c.toNat) [.unit c.toNat] c := by
  constructor
  · intro rest
    rw [readPieces_unitEscape h]
    rfl
  · intro more
    rw [List.singleton_append, joinPieces_unit (not_half_of_char c).1, charOfUnit_toNat]

/-- Any other character is spelled by the escapes of its pair of units. -/
theorem spells_pair {c : Char} (h : ¬ c.toNat < 0x10000) :
    Spells (unitEscape (0xD800 + (c.toNat - 0x10000) / 0x400)
        ++ unitEscape (0xDC00 + (c.toNat - 0x10000) % 0x400))
      [.unit (0xD800 + (c.toNat - 0x10000) / 0x400), .unit (0xDC00 + (c.toNat - 0x10000) % 0x400)] c := by
  have hvalid : c.toNat < 0xD800 ∨ 0xDFFF < c.toNat ∧ c.toNat < 0x110000 := c.valid
  have hhigh : isHighUnit (0xD800 + (c.toNat - 0x10000) / 0x400) = true := by
    rw [isHighUnit, Bool.and_eq_true, decide_eq_true_eq, decide_eq_true_eq]
    omega
  have hlow : isLowUnit (0xDC00 + (c.toNat - 0x10000) % 0x400) = true := by
    rw [isLowUnit, Bool.and_eq_true, decide_eq_true_eq, decide_eq_true_eq]
    omega
  have hchar : charOfPair (0xD800 + (c.toNat - 0x10000) / 0x400)
      (0xDC00 + (c.toNat - 0x10000) % 0x400) = c := by
    rw [charOfPair]
    have hcode : 0x10000 + (0xD800 + (c.toNat - 0x10000) / 0x400 - 0xD800) * 0x400
        + (0xDC00 + (c.toNat - 0x10000) % 0x400 - 0xDC00) = c.toNat := by
      omega
    rw [hcode, Char.ofNat_toNat]
  constructor
  · intro rest
    rw [List.append_assoc, readPieces_unitEscape (by omega), readPieces_unitEscape (by omega),
      Option.map_map]
    rfl
  · intro more
    show joinPieces (.unit _ :: .unit _ :: more) = _
    rw [joinPieces, hhigh, hlow, hchar]
    rfl

/-- A text that is chosen by a condition spells a character when both choices do. -/
theorem exists_spells_ite {p : Prop} [Decidable p] {text other : List Char} {c : Char}
    (htext : p → ∃ pieces, Spells text pieces c) (hother : ¬ p → ∃ pieces, Spells other pieces c) :
    ∃ pieces, Spells (if p then text else other) pieces c := by
  by_cases hp : p
  · rw [if_pos hp]
    exact htext hp
  · rw [if_neg hp]
    exact hother hp

/-- Whatever is printed for a character spells it. -/
theorem exists_spells_escapeChar (asciiOnly : Bool) (c : Char) :
    ∃ pieces, Spells (escapeChar asciiOnly c) pieces c := by
  -- the marks that have an escape of their own
  have hshort : ∀ mark escaped, mark ≠ 'u' → shortEscape? mark = some escaped → c = escaped →
      ∃ pieces, Spells ['\\', mark] pieces c := by
    rintro mark escaped hmark h rfl
    exact ⟨_, spells_short hmark h⟩
  refine exists_spells_ite (hshort '"' '"' (by decide) rfl) fun hquote => ?_
  refine exists_spells_ite (hshort '\\' '\\' (by decide) rfl) fun hslash => ?_
  refine exists_spells_ite (hshort 'b' '\x08' (by decide) rfl) fun _ => ?_
  refine exists_spells_ite (hshort 'f' '\x0c' (by decide) rfl) fun _ => ?_
  refine exists_spells_ite (hshort 'n' '\n' (by decide) rfl) fun _ => ?_
  refine exists_spells_ite (hshort 'r' '\r' (by decide) rfl) fun _ => ?_
  refine exists_spells_ite (hshort 't' '\t' (by decide) rfl) fun _ => ?_
  -- the other control characters, and what is escaped to keep to ASCII
  refine exists_spells_ite (fun hcontrol => ⟨_, spells_unit (by omega)⟩) fun hcontrol => ?_
  refine exists_spells_ite (fun _ => ?_) fun _ => ⟨_, spells_plain hquote hslash hcontrol⟩
  exact exists_spells_ite (fun hbasic => ⟨_, spells_unit hbasic⟩) fun hbasic =>
    ⟨_, spells_pair hbasic⟩

/-- The characters between two quotes are read back. -/
theorem exists_readPieces_escaped (asciiOnly : Bool) (cs rest : List Char) :
    ∃ pieces, readPieces (cs.flatMap (escapeChar asciiOnly) ++ '"' :: rest) = some (pieces, rest)
      ∧ joinPieces pieces = cs := by
  -- the pieces are joined at the end only, so the induction carries them along
  induction cs with
  | nil => exact ⟨[], rfl, rfl⟩
  | cons c cs ih =>
    obtain ⟨pieces, hreads, hjoins⟩ := ih
    obtain ⟨front, hfront⟩ := exists_spells_escapeChar asciiOnly c
    refine ⟨front ++ pieces, ?_, ?_⟩
    · rw [List.flatMap_cons, List.append_assoc, hfront.reads, hreads]
      rfl
    · rw [hfront.joins, hjoins]

theorem readString_quote (asciiOnly : Bool) (s : String) (rest : List Char) :
    readString (s.toList.flatMap (escapeChar asciiOnly) ++ '"' :: rest) = some (s.toList, rest) := by
  obtain ⟨pieces, hreads, hjoins⟩ := exists_readPieces_escaped asciiOnly s.toList rest
  rw [readString, hreads, Option.map_some]
  dsimp only
  rw [hjoins]

end Json

end MqttProfile
