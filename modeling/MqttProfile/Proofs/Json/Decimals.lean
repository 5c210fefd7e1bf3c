import Mathlib.Data.List.DropRight
import MqttProfile.Proofs.Json.Scalars

/-!
# Reading back decimals

A finite binary64 number is written as digits with a fraction or an exponent behind them, or with both.
Its text is read back as a number with nothing left over; which number that is, is not said here.

* `exists_isDecimal_magnitude` says what the printer writes, and rests on `shortest_ne_zero`: the digits of
  a number that is not zero do not start with a zero;
* `exists_readUnsigned_decimal` says that the reader takes all of it.
-/

namespace MqttProfile

open Json (spanDigits_append Ends EndsDigits endsDigits_cons)

/-! ## Texts of decimals -/

namespace Text

theorem IsDigits.append {front digits : List Char} (hfront : ∀ c ∈ front, c.isDigit = true)
    (h : IsDigits digits) : IsDigits (front ++ digits) := by
  refine ⟨List.append_ne_nil_of_right_ne_nil _ h.ne_nil, fun c hc => ?_⟩
  rcases List.mem_append.mp hc with hmem | hmem
  · exact hfront c hmem
  · exact h.isDigit c hmem

theorem isDigit_of_mem_zeros {n : Nat} {c : Char} (h : c ∈ List.replicate n '0') : c.isDigit = true := by
  rw [List.eq_of_mem_replicate h]
  decide

/-- The parts of a decimal: its digits before the point, a fraction with its point or none, and an exponent
with its mark and its sign or none, but not neither. -/
structure IsDecimal (whole fraction exponent : List Char) : Prop where
  isWhole : IsWhole whole
  isFraction : fraction = [] ∨ ∃ digits, fraction = '.' :: digits ∧ IsDigits digits
  isExponent : exponent = [] ∨
    ∃ sign digits, exponent = 'e' :: sign :: digits ∧ (sign = '+' ∨ sign = '-') ∧ IsDigits digits
  marked : fraction ≠ [] ∨ exponent ≠ []

end Text

/-! ## Writing -/

namespace Binary64

open Text

/-- Only zero is the nearest number to a decimal whose coefficient is zero. -/
theorem ne_zero_of_reads {m n : Nat} {q e : Int} (hm : m ≠ 0)
    (h : (ofDecimal false n e == finite false m q) = true) : n ≠ 0 := by
  rintro rfl
  have hzero : ofDecimal false 0 e = zero false := by
    rw [ofDecimal]
    exact if_pos (.inl rfl)
  rw [beq_iff_eq, hzero, zero] at h
  cases h
  exact hm rfl

/-- The coefficient that a grid has for a number is not zero. -/
theorem ne_zero_of_onGrid {m q c e dropped n e'} (hm : m ≠ 0)
    (h : onGrid? (finite false m q) c e dropped = some (n, e')) : n ≠ 0 := by
  unfold onGrid? at h
  dsimp only at h
  split at h
  · rename_i hlow hhigh
    cases h
    split
    · exact Nat.succ_ne_zero _
    · exact ne_zero_of_reads hm hlow
  · rename_i hlow hhigh
    cases h
    exact ne_zero_of_reads hm hlow
  · cases h
    exact Nat.succ_ne_zero _
  · cases h

/-- Nor is the one that is found on the first grid that has any. -/
theorem firstGrid_ne_zero {m c : Nat} {q e : Int} (hm : m ≠ 0) (hc : c ≠ 0) (dropped : Nat) :
    (firstGrid (finite false m q) c e dropped).1 ≠ 0 := by
  induction dropped with
  | zero => exact hc
  | succ dropped ih =>
    rw [firstGrid]
    split
    · rename_i found hfound
      exact ne_zero_of_onGrid hm hfound
    · exact ih

/-- The shortest decimal of a number that is not zero is not zero. -/
theorem shortest_ne_zero {m : Nat} (hm : m ≠ 0) (q : Int) : (shortest m q).1 ≠ 0 := by
  have hexact : (exactDecimal m q).1 ≠ 0 := by
    rw [exactDecimal]
    split
    · exact Nat.mul_ne_zero hm (Nat.pow_pos (by omega)).ne'
    · exact Nat.mul_ne_zero hm (Nat.pow_pos (by omega)).ne'
  rw [shortest]
  exact firstGrid_ne_zero hm hexact _

/-- The digits of a number that is not zero start with none, and neither does what is left of them without
the zeros at their end. -/
theorem isDigits_dropTrailingZeros {n : Nat} (hn : n ≠ 0) :
    IsDigits (dropTrailingZeros (ofNat n)) ∧ (dropTrailingZeros (ofNat n)).head? ≠ some '0' := by
  obtain ⟨c, cs, hdigits⟩ := List.exists_cons_of_ne_nil (isDigits_ofNat n).ne_nil
  have hc : c ≠ '0' := by
    rintro rfl
    exact hn (toDigits_eq_zero_cons hdigits)
  -- so the first digit is kept
  obtain ⟨kept, hkept⟩ : ∃ kept, kept = List.rdropWhile (· == '0') (ofNat n) := ⟨_, rfl⟩
  have hfront : kept <+: ofNat n := hkept ▸ List.rdropWhile_prefix _ _
  have hne : kept ≠ [] := by
    rw [hkept, Ne, List.rdropWhile_eq_nil_iff, hdigits]
    intro hall
    exact hc (beq_iff_eq.mp (hall c List.mem_cons_self))
  have hdrop : dropTrailingZeros (ofNat n) = kept := by
    have hreverse : ((ofNat n).reverse.dropWhile (· == '0')).reverse = kept := hkept.symm
    unfold dropTrailingZeros
    rw [hreverse]
    split
    · exact absurd rfl hne
    · rfl
  rw [hdrop]
  refine ⟨⟨hne, fun d hd => (isDigits_ofNat n).isDigit d (hfront.subset hd)⟩, ?_⟩
  obtain ⟨d, ds, rfl⟩ := List.exists_cons_of_ne_nil hne
  rw [hdigits, List.cons_prefix_cons] at hfront
  rw [List.head?_cons, hfront.1, Ne, Option.some.injEq]
  exact hc

/-- The text of an exponent is a sign and digits. -/
theorem exists_exponentText_eq (width : Nat) (e : Int) :
    ∃ sign digits, exponentText width e = sign :: digits ∧ (sign = '+' ∨ sign = '-')
      ∧ IsDigits digits := by
  refine ⟨_, _, rfl, ?_, (isDigits_ofNat e.natAbs).append fun _ => isDigit_of_mem_zeros⟩
  split
  · exact .inr rfl
  · exact .inl rfl

/-- Digits that do not start with a zero are laid out as a decimal. -/
theorem exists_isDecimal_layout (layout : NumberLayout) {digits : List Char} (point : Int)
    (hdigits : IsDigits digits) (hfirst : digits.head? ≠ some '0') :
    ∃ whole fraction exponent, layout.apply digits point = whole ++ fraction ++ exponent
      ∧ IsDecimal whole fraction exponent := by
  obtain ⟨c, cs, rfl⟩ := List.exists_cons_of_ne_nil hdigits.ne_nil
  have hc : c.isDigit = true := hdigits.isDigit c List.mem_cons_self
  have hcs : ∀ d ∈ cs, d.isDigit = true := fun d hd => hdigits.isDigit d (List.mem_cons_of_mem c hd)
  rw [List.head?_cons] at hfirst
  unfold NumberLayout.apply
  dsimp only
  split
  · -- one digit, the others as a fraction, and an exponent
    obtain ⟨sign, exponent, hexponent, hsign, hexponentDigits⟩ :=
      exists_exponentText_eq layout.exponentDigits (point - 1)
    refine ⟨[c], if cs.isEmpty then [] else '.' :: cs, 'e' :: sign :: exponent, ?_, ?_⟩
    · rw [hexponent]
      rfl
    · refine ⟨.positive (isDigits_singleton hc) hfirst, ?_,
        .inr ⟨sign, exponent, rfl, hsign, hexponentDigits⟩, .inr (List.cons_ne_nil _ _)⟩
      cases cs with
      | nil => exact .inl rfl
      | cons d ds => exact .inr ⟨d :: ds, rfl, ⟨List.cons_ne_nil d ds, hcs⟩⟩
  · split
    · -- a zero, and all digits as a fraction
      refine ⟨['0'], '.' :: (List.replicate point.natAbs '0' ++ c :: cs), [], ?_, ?_⟩
      · rw [List.append_nil]
        rfl
      · exact ⟨.zero, .inr ⟨_, rfl, hdigits.append fun _ => isDigit_of_mem_zeros⟩, .inl rfl,
          .inl (List.cons_ne_nil _ _)⟩
    · -- the digits with the point among them or behind them
      rename_i hpoint
      obtain ⟨k, hk⟩ : ∃ k, point.toNat = k + 1 := Nat.exists_eq_add_one_of_ne_zero (by omega)
      obtain ⟨fraction, hfraction⟩ : ∃ fraction, fraction =
          (if (cs.drop k).isEmpty then ['0'] else cs.drop k) := ⟨_, rfl⟩
      rw [hk, List.take_succ_cons, List.drop_succ_cons, ← hfraction]
      refine ⟨c :: (cs.take k ++ List.replicate (k + 1 - (c :: cs.take k).length) '0'),
        '.' :: fraction, [], ?_, ?_⟩
      · rw [List.append_nil, List.cons_append, List.cons_append]
      · refine ⟨.positive ⟨List.cons_ne_nil _ _, ?_⟩ hfirst, .inr ⟨fraction, rfl, ?_⟩, .inl rfl,
          .inl (List.cons_ne_nil _ _)⟩
        · intro d hd
          rcases List.mem_cons.mp hd with rfl | hmem
          · exact hc
          · rcases List.mem_append.mp hmem with htake | hzeros
            · exact hcs d (List.mem_of_mem_take htake)
            · exact isDigit_of_mem_zeros hzeros
        · rw [hfraction]
          split
          · exact isDigits_singleton rfl
          · rename_i hsome
            rw [List.isEmpty_iff] at hsome
            exact ⟨hsome, fun d hd => hcs d (List.mem_of_mem_drop hd)⟩

/-- The text of a magnitude is a decimal. -/
theorem exists_isDecimal_magnitude (m : Nat) (q : Int) :
    ∃ whole fraction exponent, magnitudeText m q = whole ++ fraction ++ exponent
      ∧ IsDecimal whole fraction exponent := by
  rw [magnitudeText]
  split
  · exact ⟨['0'], ['.', '0'], [], rfl, .zero, .inr ⟨['0'], rfl, isDigits_singleton rfl⟩, .inl rfl,
      .inl (List.cons_ne_nil _ _)⟩
  · rename_i hm
    obtain ⟨hdigits, hfirst⟩ := isDigits_dropTrailingZeros (shortest_ne_zero hm q)
    exact exists_isDecimal_layout standardLayout _ hdigits hfirst

theorem exists_magnitudeText_eq_cons (m : Nat) (q : Int) :
    ∃ c cs, magnitudeText m q = c :: cs ∧ c.isDigit = true := by
  obtain ⟨whole, fraction, exponent, htext, hdecimal⟩ := exists_isDecimal_magnitude m q
  obtain ⟨c, cs, rfl, hc⟩ := hdecimal.isWhole.isDigits.exists_cons
  rw [htext, List.cons_append, List.cons_append]
  exact ⟨c, _, rfl, hc⟩

/-! ## Reading -/

/-- An exponent with its sign is read. -/
theorem exists_exponent {sign : Char} {digits : List Char} (hsign : sign = '+' ∨ sign = '-')
    (hdigits : IsDigits digits) : ∃ e, exponent? (sign :: digits) = some e := by
  have hall : (digits.isEmpty || !digits.all Char.isDigit) = false := by
    rw [Bool.or_eq_false_iff, List.isEmpty_eq_false_iff, Bool.not_eq_false', List.all_eq_true]
    exact ⟨hdigits.ne_nil, hdigits.isDigit⟩
  rcases hsign with rfl | rfl
  · refine ⟨(digitsValue digits : Int), ?_⟩
    rw [exponent?, hall]
    rfl
  · refine ⟨-(digitsValue digits : Int), ?_⟩
    rw [exponent?, hall]
    rfl

end Binary64

theorem Text.IsDecimal.exponent_ends {whole fraction exponent rest : List Char}
    (h : IsDecimal whole fraction exponent) (hends : EndsDigits rest) : EndsDigits (exponent ++ rest) := by
  rcases h.isExponent with rfl | ⟨sign, digits, rfl, -, -⟩
  · exact hends
  · exact endsDigits_cons (by decide) _

/-- Nothing of a fraction goes on with the digits in front of it. -/
theorem Text.IsDecimal.fraction_ends {whole fraction exponent rest : List Char}
    (h : IsDecimal whole fraction exponent) (hends : EndsDigits rest) :
    EndsDigits (fraction ++ (exponent ++ rest)) := by
  rcases h.isFraction with rfl | ⟨digits, rfl, -⟩
  · exact h.exponent_ends hends
  · exact endsDigits_cons (by decide) _

namespace Binary64

open Text

/-- An exponent or nothing is all that may follow the digits of a number. -/
theorem exists_unsigned {whole fraction exponent : List Char} (h : IsDecimal whole fraction exponent)
    (negative : Bool) : ∃ x, unsigned? negative (whole ++ (fraction ++ exponent)) = some x := by
  have hnone : EndsDigits [] := fun _ hc => nomatch hc
  have hfraction := h.fraction_ends hnone
  have hexponent := h.exponent_ends hnone
  rw [List.append_nil] at hfraction hexponent
  have hwhole : whole.isEmpty = false := List.isEmpty_eq_false_iff.mpr h.isWhole.isDigits.ne_nil
  rw [unsigned?, spanDigits_append h.isWhole.isDigits.isDigit hfraction]
  dsimp only
  rw [hwhole]
  rcases h.isExponent with rfl | ⟨sign, exponent, rfl, hsign, hexponentDigits⟩
  · rcases h.isFraction with rfl | ⟨digits, rfl, hdigits⟩
    · exact ⟨_, rfl⟩
    · simp only [List.cons_append, spanDigits_append hdigits.isDigit hexponent]
      exact ⟨_, rfl⟩
  · obtain ⟨e, he⟩ := exists_exponent hsign hexponentDigits
    rcases h.isFraction with rfl | ⟨digits, rfl, hdigits⟩
    · show ∃ x, (exponent? (sign :: exponent)).bind _ = some x
      rw [he]
      exact ⟨_, rfl⟩
    · simp only [List.cons_append, spanDigits_append hdigits.isDigit hexponent]
      show ∃ x, (exponent? (sign :: exponent)).bind _ = some x
      rw [he]
      exact ⟨_, rfl⟩

/-- A decimal with a minus sign or none is read as a number. -/
theorem exists_read {whole fraction exponent : List Char} (h : IsDecimal whole fraction exponent)
    (negative : Bool) :
    ∃ x, read? ((if negative then ['-'] else []) ++ whole ++ fraction ++ exponent) = some x := by
  obtain ⟨x, hx⟩ := exists_unsigned h negative
  -- even digits that spelled a name would be read
  have hread : ∀ cs : List Char, unsigned? negative cs = some x →
      ∃ x, (if String.ofList (cs.map Char.toLower) = "inf" ∨ String.ofList (cs.map Char.toLower) = "infinity"
        then some (Binary64.infinite negative)
        else if String.ofList (cs.map Char.toLower) = "nan" then some Binary64.nan
        else unsigned? negative cs) = some x := by
    intro cs hcs
    split
    · exact ⟨_, rfl⟩
    · split
      · exact ⟨_, rfl⟩
      · exact ⟨x, hcs⟩
  cases negative with
  | true =>
    rw [if_pos rfl, List.singleton_append, List.cons_append, List.cons_append, List.append_assoc]
    exact hread _ hx
  | false =>
    obtain ⟨c, cs, hwhole, hc⟩ := h.isWhole.isDigits.exists_cons
    rw [if_neg Bool.false_ne_true, List.nil_append, List.append_assoc, hwhole, List.cons_append]
    rw [hwhole, List.cons_append] at hx
    rw [read?.eq_def]
    split
    rename_i sign rest heq
    split at heq
    · rename_i hminus
      cases hminus
      cases hc
    · rename_i hplus
      cases hplus
      cases hc
    · cases heq
      exact hread _ hx

end Binary64

namespace Json

open Text

/-- The fraction of a decimal is split off. -/
theorem takeFraction_decimal {whole fraction exponent rest : List Char}
    (h : IsDecimal whole fraction exponent) (hends : Ends rest) :
    takeFraction (fraction ++ (exponent ++ rest)) = (fraction, exponent ++ rest) := by
  rcases h.isFraction with rfl | ⟨digits, rfl, hdigits⟩
  · rcases h.isExponent with rfl | ⟨sign, digits, rfl, -⟩
    · exact takeFraction_of_ends hends
    · rfl
  · obtain ⟨d, ds, rfl⟩ := List.exists_cons_of_ne_nil hdigits.ne_nil
    rw [List.cons_append, takeFraction,
      spanDigits_append hdigits.isDigit (h.exponent_ends hends.endsDigits)]

/-- The exponent of a decimal is split off. -/
theorem takeExponent_decimal {whole fraction exponent rest : List Char}
    (h : IsDecimal whole fraction exponent) (hends : Ends rest) :
    takeExponent (exponent ++ rest) = (exponent, rest) := by
  rcases h.isExponent with rfl | ⟨sign, digits, rfl, hsign, hdigits⟩
  · exact takeExponent_of_ends hends
  · obtain ⟨d, ds, rfl⟩ := List.exists_cons_of_ne_nil hdigits.ne_nil
    have hspan := spanDigits_append hdigits.isDigit hends.endsDigits
    rcases hsign with rfl | rfl
    · rw [List.cons_append, List.cons_append, takeExponent, if_pos (.inl rfl), hspan]
      rfl
    · rw [List.cons_append, List.cons_append, takeExponent, if_pos (.inl rfl), hspan]
      rfl

/-- A decimal is read as a number, with nothing of it left over. -/
theorem exists_readUnsigned_decimal {whole fraction exponent : List Char}
    (h : IsDecimal whole fraction exponent) (negative : Bool) :
    ∃ x, ∀ rest, Ends rest →
      readUnsigned negative (whole ++ fraction ++ exponent ++ rest) = .ok (.float x, rest) := by
  obtain ⟨x, hx⟩ := Binary64.exists_read h negative
  have hsome : whole.isEmpty = false := List.isEmpty_eq_false_iff.mpr h.isWhole.isDigits.ne_nil
  have hmarked : (fraction.isEmpty && exponent.isEmpty) = false := by
    rw [Bool.and_eq_false_iff, List.isEmpty_eq_false_iff, List.isEmpty_eq_false_iff]
    exact h.marked
  refine ⟨x, fun rest hends => ?_⟩
  rw [List.append_assoc, List.append_assoc, readUnsigned.eq_def]
  split
  rename_i heq
  cases heq.symm.trans (splitWhole_append h.isWhole (h.fraction_ends hends.endsDigits))
  rw [hsome, takeFraction_decimal h hends]
  dsimp only
  rw [takeExponent_decimal h hends]
  dsimp only
  rw [hmarked, if_neg Bool.false_ne_true, if_neg Bool.false_ne_true, hx]
  rfl

end Json

end MqttProfile
