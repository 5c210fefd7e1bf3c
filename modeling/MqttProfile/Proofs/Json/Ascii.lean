import MqttProfile.Proofs.Json.Decimals

/-!
# Texts in printable ASCII

The spaced style writes every value in printable ASCII, the characters from the blank up to the tilde: no line
break, no control character and nothing of another script, whatever the texts in the value are.  What is said
of a text here is said of its characters one by one, so the pieces of a text may be looked at on their own.
-/

namespace MqttProfile

/-! ## Digits and decimals -/

namespace Text

/-- All characters of a text are printable ASCII. -/
def IsAscii (cs : List Char) : Prop :=
  ∀ c ∈ cs, 0x20 ≤ c.toNat ∧ c.toNat < 0x7F

instance (cs : List Char) : Decidable (IsAscii cs) :=
  List.decidableBAll _ cs

theorem isAscii_nil : IsAscii [] :=
  fun _ hc => nomatch hc

theorem IsAscii.cons {c : Char} {cs : List Char} (hc : 0x20 ≤ c.toNat ∧ c.toNat < 0x7F) (h : IsAscii cs) :
    IsAscii (c :: cs) :=
  List.forall_mem_cons.mpr ⟨hc, h⟩

theorem IsAscii.append {front cs : List Char} (hfront : IsAscii front) (h : IsAscii cs) :
    IsAscii (front ++ cs) :=
  List.forall_mem_append.mpr ⟨hfront, h⟩

theorem IsDigits.isAscii {digits : List Char} (h : IsDigits digits) : IsAscii digits := by
  intro c hc
  have hdigit := h.isDigit c hc
  simp only [Char.isDigit, Bool.and_eq_true, decide_eq_true_eq, ge_iff_le, UInt32.le_iff_toNat_le] at hdigit
  have hlow : 48 ≤ c.toNat := hdigit.1
  have hhigh : c.toNat ≤ 57 := hdigit.2
  omega

theorem isAscii_ofInt (n : Int) : IsAscii (ofInt n) := by
  have hdigits := (isDigits_ofNat n.natAbs).isAscii
  rw [ofInt]
  split
  · exact hdigits.cons (by decide)
  · exact hdigits

/-- A decimal is digits, a point and the marks and signs of an exponent. -/
theorem IsDecimal.isAscii {whole fraction exponent : List Char} (h : IsDecimal whole fraction exponent) :
    IsAscii (whole ++ fraction ++ exponent) := by
  have hfraction : IsAscii fraction := by
    rcases h.isFraction with rfl | ⟨digits, rfl, hdigits⟩
    · exact isAscii_nil
    · exact hdigits.isAscii.cons (by decide)
  have hexponent : IsAscii exponent := by
    rcases h.isExponent with rfl | ⟨sign, digits, rfl, hsign, hdigits⟩
    · exact isAscii_nil
    · rcases hsign with rfl | rfl
      · exact (hdigits.isAscii.cons (by decide)).cons (by decide)
      · exact (hdigits.isAscii.cons (by decide)).cons (by decide)
  exact (h.isWhole.isDigits.isAscii.append hfraction).append hexponent

end Text

namespace Json

open Text (IsAscii isAscii_nil isAscii_ofInt)

/-- A binary64 number is written in ASCII, whether it has digits or a name. -/
theorem isAscii_float (x : Binary64) : IsAscii (x.render specialNames) := by
  cases x with
  | nan => decide
  | infinite negative => cases negative <;> decide
  | finite negative m q =>
    obtain ⟨whole, fraction, exponent, htext, hdecimal⟩ := Binary64.exists_isDecimal_magnitude m q
    have hmagnitude : IsAscii (Binary64.magnitudeText m q) := htext ▸ hdecimal.isAscii
    cases negative with
    | true => exact hmagnitude.cons (by decide)
    | false => exact hmagnitude

/-! ## Strings -/

theorem isAscii_hexDigit {n : Nat} (h : n < 16) : 0x20 ≤ (hexDigit n).toNat ∧ (hexDigit n).toNat < 0x7F := by
  have hall : ∀ n < 16, 0x20 ≤ (hexDigit n).toNat ∧ (hexDigit n).toNat < 0x7F := by decide
  exact hall n h

theorem isAscii_unitEscape (unit : Nat) : IsAscii (unitEscape unit) := by
  have hdigit (n : Nat) := isAscii_hexDigit (Nat.mod_lt n (by decide : 0 < 16))
  have hdigits := (((isAscii_nil.cons (hdigit unit)).cons (hdigit (unit / 16))).cons
    (hdigit (unit / 256))).cons (hdigit (unit / 4096))
  exact (hdigits.cons (by decide)).cons (by decide)

/-- Every character has an escape in ASCII, unless it is printable itself. -/
theorem isAscii_escapeChar (c : Char) : IsAscii (escapeChar true c) := by
  -- the seven marks that have an escape of their own
  iterate 7 refine iteInduction (motive := IsAscii) (fun _ => by decide) fun _ => ?_
  -- the other control characters, what lies behind the tilde, and what is left
  refine iteInduction (motive := IsAscii) (fun _ => isAscii_unitEscape _) fun hcontrol => ?_
  refine iteInduction (motive := IsAscii) (fun _ => ?_) fun hbehind => ?_
  · exact iteInduction (motive := IsAscii) (fun _ => isAscii_unitEscape _) fun _ =>
      (isAscii_unitEscape _).append (isAscii_unitEscape _)
  · rw [Bool.true_and, decide_eq_true_eq] at hbehind
    exact isAscii_nil.cons ⟨by omega, by omega⟩

theorem isAscii_quote (s : String) : IsAscii (quote true s) := by
  have hquote : IsAscii ['"'] := by decide
  have hescaped : IsAscii (s.toList.flatMap (escapeChar true)) := by
    intro d hd
    obtain ⟨c, -, hc⟩ := List.mem_flatMap.mp hd
    exact isAscii_escapeChar c d hc
  exact (hquote.append hescaped).append hquote

/-! ## Values -/

/-- A style that escapes all that is not printable ASCII, and puts nothing else between the tokens. -/
structure Style.Ascii (style : Style) : Prop where
  comma : IsAscii style.comma
  colon : IsAscii style.colon
  asciiOnly : style.asciiOnly = true

theorem ascii_spaced : spaced.Ascii :=
  ⟨by decide, by decide, rfl⟩

section

variable {style : Style}

theorem isAscii_quoted (hstyle : style.Ascii) (s : String) : IsAscii (quote style.asciiOnly s) := by
  rw [hstyle.asciiOnly]
  exact isAscii_quote s

mutual

/-- Every value is written in ASCII. -/
theorem isAscii_render (hstyle : style.Ascii) : ∀ value : Json, IsAscii (value.render style)
  | .null => (by decide : IsAscii "null".toList)
  | .bool true => (by decide : IsAscii "true".toList)
  | .bool false => (by decide : IsAscii "false".toList)
  | .int n => isAscii_ofInt n
  | .float x => isAscii_float x
  | .str s => isAscii_quoted hstyle s
  | .arr [] => (by decide : IsAscii ['[', ']'])
  | .arr (item :: items) =>
    ((isAscii_render hstyle item).cons (by decide)).append (isAscii_renderItems hstyle items)
  | .obj [] => (by decide : IsAscii ['\x7b', '\x7d'])
  | .obj ((key, value) :: members) =>
    ((((isAscii_quoted hstyle key).cons (by decide)).append hstyle.colon).append
      (isAscii_render hstyle value)).append (isAscii_renderMembers hstyle members)

theorem isAscii_renderItems (hstyle : style.Ascii) :
    ∀ items : List Json, IsAscii (renderItems style items)
  | [] => (by decide : IsAscii [']'])
  | item :: items =>
    (hstyle.comma.append (isAscii_render hstyle item)).append (isAscii_renderItems hstyle items)

theorem isAscii_renderMembers (hstyle : style.Ascii) :
    ∀ members : Members, IsAscii (renderMembers style members)
  | [] => (by decide : IsAscii ['\x7d'])
  | (key, value) :: members =>
    (((hstyle.comma.append (isAscii_quoted hstyle key)).append hstyle.colon).append
      (isAscii_render hstyle value)).append (isAscii_renderMembers hstyle members)

end

end

end Json

end MqttProfile
