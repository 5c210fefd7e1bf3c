import Mathlib.Algebra.Order.Field.Power
import Mathlib.Data.Rat.Cast.Order
import Mathlib.Tactic.FieldSimp
import Mathlib.Tactic.Linarith
import Mathlib.Tactic.NormNum
import Mathlib.Tactic.Positivity
import Mathlib.Tactic.Ring
import MqttProfile.Binary64.Reader

/-!
# The nearest binary64 number

Rounding is described by the magnitude of what is rounded, as a rational number.  Around every magnitude the
numbers have their last place at one exponent, so the nearest number to a ratio depends on its magnitude only,
however the ratio is written; and a magnitude that a number has is rounded to that number.

* `IsPlace` is what the exponent of the last place has to satisfy, and `IsPlace.unique` says that there is one;
* `IsNormal` is what the parts of a number satisfy, and `usual_nearest` says that rounding gives such numbers;
* `nearest_of_magnitude` and `ofDecimal_of_magnitude` say that nothing is lost where there is nothing to round;
* `ofDecimal_congr` says that decimals of one magnitude are rounded alike;
* `ofInt_eq_none_iff` says which integers are out of range.
-/

namespace MqttProfile.Binary64

/-! ## Scaling and rounding a ratio -/

theorem zpow_of_neg (b : ℚ) {q : ℤ} (hq : q < 0) : b ^ q = (b ^ q.natAbs)⁻¹ := by
  rw [← zpow_natCast, ← zpow_neg]
  congr 1
  omega

theorem zpow_of_not_neg (b : ℚ) {q : ℤ} (hq : ¬q < 0) : b ^ q = b ^ q.natAbs := by
  rw [← zpow_natCast]
  congr 1
  omega

theorem scaleDown_den_pos {den : ℕ} (num : ℕ) (hden : 0 < den) (q : ℤ) : 0 < (scaleDown num den q).2 := by
  unfold scaleDown
  split
  · exact hden
  · exact Nat.mul_pos hden (Nat.pow_pos (by omega))

/-- Scaling down divides the magnitude by a power of two. -/
theorem scaleDown_magnitude {den : ℕ} (num : ℕ) (hden : 0 < den) (q : ℤ) :
    ((scaleDown num den q).1 : ℚ) / (scaleDown num den q).2 = num / den / 2 ^ q := by
  have hne : (den : ℚ) ≠ 0 := by positivity
  unfold scaleDown
  split
  · rename_i hneg
    simp only [Nat.pow_eq, Nat.cast_mul, Nat.cast_pow, Nat.cast_ofNat]
    rw [zpow_of_neg 2 hneg]
    field_simp
  · rename_i hnonneg
    simp only [Nat.pow_eq, Nat.cast_mul, Nat.cast_pow, Nat.cast_ofNat]
    rw [zpow_of_not_neg 2 hnonneg]
    field_simp

theorem scaleDown_one (num : ℕ) {q : ℤ} (hq : ¬q < 0) : scaleDown num 1 q = (num, 2 ^ q.natAbs) := by
  rw [scaleDown, if_neg hq, Nat.one_mul, Nat.pow_eq]

/-- A common factor does not change what a ratio is rounded to. -/
theorem roundHalfEven_mul_right {k : ℕ} (num den : ℕ) (hk : 0 < k) :
    roundHalfEven (num * k) (den * k) = roundHalfEven num den := by
  have hdouble : 2 * (num % den * k) = 2 * (num % den) * k := by ring
  have hlt : den * k < 2 * (num % den) * k ↔ den < 2 * (num % den) := Nat.mul_lt_mul_right hk
  have heq : 2 * (num % den) * k = den * k ↔ 2 * (num % den) = den :=
    ⟨Nat.eq_of_mul_eq_mul_right hk, congrArg (· * k)⟩
  unfold roundHalfEven
  dsimp only
  rw [Nat.mul_div_mul_right _ _ hk, Nat.mul_mod_mul_right, hdouble]
  simp only [hlt, heq]

/-- Ratios of one magnitude are rounded to one integer. -/
theorem roundHalfEven_congr {num den num' den' : ℕ} (hden : 0 < den) (hden' : 0 < den')
    (h : (num : ℚ) / den = num' / den') : roundHalfEven num den = roundHalfEven num' den' := by
  have hcross : num * den' = num' * den := by
    have hrat : (num : ℚ) * den' = num' * den := by
      have hne : (den : ℚ) ≠ 0 := by positivity
      have hne' : (den' : ℚ) ≠ 0 := by positivity
      field_simp at h
      linarith
    exact_mod_cast hrat
  calc roundHalfEven num den = roundHalfEven (num * den') (den * den') :=
        (roundHalfEven_mul_right num den hden').symm
    _ = roundHalfEven (num' * den) (den' * den) := by rw [hcross, Nat.mul_comm den]
    _ = roundHalfEven num' den' := roundHalfEven_mul_right num' den' hden

theorem roundHalfEven_one (n : ℕ) : roundHalfEven n 1 = n := by
  unfold roundHalfEven
  dsimp only
  rw [Nat.div_one, Nat.mod_one, if_neg (by omega)]

/-- Rounding gives one of the two integers around a ratio. -/
theorem roundHalfEven_bounds (num den : ℕ) :
    num / den ≤ roundHalfEven num den ∧ roundHalfEven num den ≤ num / den + 1 := by
  unfold roundHalfEven
  dsimp only
  split <;> omega

/-! ## The exponent of the last place -/

/-- The numbers around a magnitude have their last place at an exponent: the magnitude has no more than 53 bits
above it, and no fewer unless the exponent is the least one. -/
structure IsPlace (v : ℚ) (exponent : ℤ) : Prop where
  least : minExponent ≤ exponent
  below : v < 2 ^ (exponent + 53)
  full : exponent = minExponent ∨ 2 ^ (exponent + 52) ≤ v

/-- There is one such exponent. -/
theorem IsPlace.unique {v : ℚ} {p q : ℤ} (hp : IsPlace v p) (hq : IsPlace v q) : p = q := by
  have le_of_full : ∀ {p q : ℤ}, IsPlace v p → IsPlace v q → q ≤ p := by
    intro p q hp hq
    rcases hq.full with hleast | hfull
    · rw [hleast]
      exact hp.least
    · have hlt : (2 : ℚ) ^ (q + 52) < 2 ^ (p + 53) := lt_of_le_of_lt hfull hp.below
      have := (zpow_lt_zpow_iff_right₀ (by norm_num : (1 : ℚ) < 2)).mp hlt
      omega
  exact le_antisymm (le_of_full hq hp) (le_of_full hp hq)

/-- The magnitude of a ratio lies around the quotient of the highest bits. -/
theorem log2_bounds {num den : ℕ} (hnum : num ≠ 0) (hden : den ≠ 0) :
    (2 : ℚ) ^ ((num.log2 : ℤ) - den.log2 - 1) < num / den
      ∧ (num : ℚ) / den < 2 ^ ((num.log2 : ℤ) - den.log2 + 1) := by
  have hpos : (0 : ℚ) < den := by positivity
  have hnumLow : (2 : ℚ) ^ num.log2 ≤ num := by exact_mod_cast Nat.log2_self_le hnum
  have hnumHigh : (num : ℚ) < 2 ^ (num.log2 + 1) := by exact_mod_cast Nat.lt_log2_self
  have hdenLow : (2 : ℚ) ^ den.log2 ≤ den := by exact_mod_cast Nat.log2_self_le hden
  have hdenHigh : (den : ℚ) < 2 ^ (den.log2 + 1) := by exact_mod_cast Nat.lt_log2_self
  have htwo : (2 : ℚ) ≠ 0 := by norm_num
  constructor
  · rw [lt_div_iff₀ hpos]
    calc (2 : ℚ) ^ ((num.log2 : ℤ) - den.log2 - 1) * den
        < 2 ^ ((num.log2 : ℤ) - den.log2 - 1) * 2 ^ (den.log2 + 1) := by gcongr
      _ = 2 ^ num.log2 := by
        rw [← zpow_natCast, ← zpow_natCast, ← zpow_add₀ htwo]
        congr 1
        push_cast
        ring
      _ ≤ num := hnumLow
  · rw [div_lt_iff₀ hpos]
    calc (num : ℚ) < 2 ^ (num.log2 + 1) := hnumHigh
      _ = 2 ^ ((num.log2 : ℤ) - den.log2 + 1) * 2 ^ den.log2 := by
        rw [← zpow_natCast, ← zpow_natCast, ← zpow_add₀ htwo]
        congr 1
        push_cast
        ring
      _ ≤ 2 ^ ((num.log2 : ℤ) - den.log2 + 1) * den := by gcongr

/-- The exponent at which a ratio is rounded is the one around its magnitude. -/
theorem isPlace_place {num den : ℕ} (hnum : num ≠ 0) (hden : den ≠ 0) :
    IsPlace ((num : ℚ) / den) (place num den) := by
  obtain ⟨hlow, hhigh⟩ := log2_bounds hnum hden
  have htwo : (1 : ℚ) < 2 := by norm_num
  have hpos := Nat.pos_of_ne_zero hden
  obtain ⟨low, hlowest⟩ : ∃ low : ℤ, low = max ((num.log2 : ℤ) - den.log2 - 53) minExponent := ⟨_, rfl⟩
  have hleast : minExponent ≤ low := by omega
  have hscaledPos := scaleDown_den_pos num hpos low
  have hscaled := scaleDown_magnitude num hpos low
  have hquotient : Nat.pow 2 53 ≤ (scaleDown num den low).1 / (scaleDown num den low).2
      ↔ (2 : ℚ) ^ (low + 53) ≤ num / den := by
    rw [Nat.le_div_iff_mul_le hscaledPos, add_comm, zpow_add₀ (by norm_num), ← le_div_iff₀ (by positivity),
      ← hscaled, le_div_iff₀ (by exact_mod_cast hscaledPos)]
    norm_cast
  have hplace : place num den = if (2 : ℚ) ^ (low + 53) ≤ num / den then low + 1 else low := by
    unfold place
    dsimp only
    rw [← hlowest]
    simp only [hquotient]
  rw [hplace]
  split
  · rename_i hfull
    refine ⟨by omega, ?_, .inr ?_⟩
    · refine lt_of_lt_of_le hhigh (zpow_le_zpow_right₀ htwo.le ?_)
      omega
    · rw [show low + 1 + 52 = low + 53 by ring]
      exact hfull
  · rename_i hshort
    refine ⟨hleast, not_le.mp hshort, ?_⟩
    by_cases hmin : low = minExponent
    · exact .inl hmin
    · refine .inr (le_of_lt (lt_of_le_of_lt (zpow_le_zpow_right₀ htwo.le ?_) hlow))
      omega

/-! ## Rounding to a number -/

/-- The parts of a finite number: the significand has at most 53 bits, and no fewer unless its last place is the
least one. -/
structure IsNormal (significand : ℕ) (exponent : ℤ) : Prop where
  least : minExponent ≤ exponent
  greatest : exponent ≤ maxExponent
  below : significand < 2 ^ 53
  full : exponent = minExponent ∨ 2 ^ 52 ≤ significand

/-- The last place of a number is the one of the numbers around it. -/
theorem IsNormal.isPlace {m : ℕ} {q : ℤ} (h : IsNormal m q) : IsPlace (m * 2 ^ q) q := by
  have hpow : (0 : ℚ) < 2 ^ q := by positivity
  refine ⟨h.least, ?_, h.full.imp id fun hfull => ?_⟩
  · have hbelow : (m : ℚ) < 2 ^ 53 := by exact_mod_cast h.below
    rw [zpow_add₀ (by norm_num), mul_comm]
    exact mul_lt_mul_of_pos_left (by exact_mod_cast hbelow) hpow
  · have hfull' : (2 : ℚ) ^ 52 ≤ m := by exact_mod_cast hfull
    rw [zpow_add₀ (by norm_num), mul_comm]
    exact mul_le_mul_of_nonneg_right (by exact_mod_cast hfull') hpow.le

/-- A number in its usual representation. -/
def Usual : Binary64 → Prop
  | .finite _ m q => IsNormal m q
  | _ => True

/-- A ratio that is scaled down to its place has no more than 53 bits, and no fewer unless the place is the least
one. -/
theorem scaleDown_of_isPlace {num den : ℕ} {q : ℤ} (hden : 0 < den) (h : IsPlace ((num : ℚ) / den) q) :
    (scaleDown num den q).1 / (scaleDown num den q).2 < 2 ^ 53
      ∧ (q = minExponent ∨ 2 ^ 52 ≤ (scaleDown num den q).1 / (scaleDown num den q).2) := by
  have hpos := scaleDown_den_pos num hden q
  have hposRat : (0 : ℚ) < (scaleDown num den q).2 := by exact_mod_cast hpos
  have hscaled := scaleDown_magnitude num hden q
  have hpow : (0 : ℚ) < 2 ^ q := by positivity
  constructor
  · have hbelow := h.below
    rw [add_comm, zpow_add₀ (by norm_num), ← div_lt_iff₀ hpow, ← hscaled, div_lt_iff₀ hposRat] at hbelow
    exact (Nat.div_lt_iff_lt_mul hpos).mpr (by exact_mod_cast hbelow)
  · refine h.full.imp id fun hfull => ?_
    rw [add_comm, zpow_add₀ (by norm_num), ← le_div_iff₀ hpow, ← hscaled, le_div_iff₀ hposRat] at hfull
    exact (Nat.le_div_iff_mul_le hpos).mpr (by exact_mod_cast hfull)

/-- The nearest number to a ratio is in its usual representation. -/
theorem usual_nearest (negative : Bool) (num : ℕ) {den : ℕ} (hden : 0 < den) : (nearest negative num den).Usual := by
  unfold nearest
  split
  · exact ⟨le_rfl, by decide, by norm_num, .inl rfl⟩
  · rename_i hnum
    have hplace := isPlace_place hnum hden.ne'
    obtain ⟨hbelow, hfull⟩ := scaleDown_of_isPlace hden hplace
    have hleast := hplace.least
    generalize place num den = q at *
    obtain ⟨hlow, hhigh⟩ := roundHalfEven_bounds (scaleDown num den q).1 (scaleDown num den q).2
    unfold roundAt ofParts
    dsimp only
    rw [Nat.pow_eq, Nat.pow_eq]
    split <;> split
    · trivial
    · exact ⟨by omega, by omega, by norm_num, .inr le_rfl⟩
    · trivial
    · exact ⟨hleast, by omega, by omega, hfull.imp id fun hfull => hfull.trans hlow⟩

/-- Rounding at an exponent depends on the magnitude only. -/
theorem roundAt_congr {num den num' den' : ℕ} (negative : Bool) (hden : 0 < den) (hden' : 0 < den')
    (h : (num : ℚ) / den = num' / den') (q : ℤ) :
    roundAt negative num den q = roundAt negative num' den' q := by
  have hrounded : roundHalfEven (scaleDown num den q).1 (scaleDown num den q).2
      = roundHalfEven (scaleDown num' den' q).1 (scaleDown num' den' q).2 := by
    apply roundHalfEven_congr (scaleDown_den_pos num hden q) (scaleDown_den_pos num' hden' q)
    rw [scaleDown_magnitude num hden, scaleDown_magnitude num' hden', h]
  unfold roundAt
  dsimp only
  rw [hrounded]

/-- The nearest number depends on the magnitude only. -/
theorem nearest_congr {num den num' den' : ℕ} (negative : Bool) (hden : 0 < den) (hden' : 0 < den')
    (h : (num : ℚ) / den = num' / den') : nearest negative num den = nearest negative num' den' := by
  have hne : (den : ℚ) ≠ 0 := by positivity
  have hne' : (den' : ℚ) ≠ 0 := by positivity
  have hzero : num = 0 ↔ num' = 0 := by
    rw [← Nat.cast_eq_zero (R := ℚ), ← Nat.cast_eq_zero (R := ℚ) (n := num')]
    rw [div_eq_div_iff hne hne'] at h
    constructor
    · intro hnum
      simpa [hnum, hne] using h.symm
    · intro hnum
      simpa [hnum, hne'] using h
  unfold nearest
  by_cases hnum : num = 0
  · rw [if_pos hnum, if_pos (hzero.mp hnum)]
  · have hplace : place num den = place num' den' := by
      have hleft := isPlace_place hnum hden.ne'
      rw [h] at hleft
      exact hleft.unique (isPlace_place (hzero.not.mp hnum) hden'.ne')
    rw [if_neg hnum, if_neg (hzero.not.mp hnum), hplace]
    exact roundAt_congr negative hden hden' h _

/-- A magnitude that a number has is rounded to that number. -/
theorem nearest_of_magnitude {num den m : ℕ} {q : ℤ} (negative : Bool) (hnormal : IsNormal m q) (hden : 0 < den)
    (h : (num : ℚ) / den = m * 2 ^ q) : nearest negative num den = .finite negative m q := by
  have hpow : (0 : ℚ) < 2 ^ q := by positivity
  have hpos : (0 : ℚ) < den := by positivity
  unfold nearest
  by_cases hnum : num = 0
  · have hm : m = 0 := by
      rw [hnum, Nat.cast_zero, zero_div, eq_comm, mul_eq_zero] at h
      exact_mod_cast h.resolve_right hpow.ne'
    have hleast : q = minExponent := hnormal.full.resolve_right (by rw [hm]; norm_num)
    rw [if_pos hnum, zero, hm, hleast]
  · have hplace : place num den = q := by
      have hleft := isPlace_place hnum hden.ne'
      rw [h] at hleft
      exact hleft.unique hnormal.isPlace
    have hrounded : roundHalfEven (scaleDown num den q).1 (scaleDown num den q).2 = m := by
      rw [← roundHalfEven_one m]
      apply roundHalfEven_congr (scaleDown_den_pos num hden q) Nat.one_pos
      rw [scaleDown_magnitude num hden, h, Nat.cast_one, div_one]
      field_simp
    have hsmall : m ≠ Nat.pow 2 53 := hnormal.below.ne
    unfold roundAt
    dsimp only
    rw [if_neg hnum, hplace, hrounded, if_neg hsmall, ofParts, if_neg (not_lt.mpr hnormal.greatest)]

/-! ## Signs -/

/-- The number with the sign of another one. -/
def withSign (negative : Bool) : Binary64 → Binary64
  | .nan => .nan
  | .infinite _ => .infinite negative
  | .finite _ m q => .finite negative m q

/-- The sign of an infinity is the one that was put there. -/
theorem eq_of_withSign_eq_infinite {negative negative' : Bool} {x : Binary64}
    (h : x.withSign negative = .infinite negative') : negative' = negative := by
  cases x with
  | nan | finite => cases h
  | infinite =>
    cases h
    rfl

theorem nearest_sign (negative : Bool) (num den : ℕ) :
    nearest negative num den = (nearest false num den).withSign negative := by
  unfold nearest roundAt ofParts
  dsimp only
  split
  · rfl
  · split <;> split <;> rfl

/-- The sign has no part in rounding a decimal. -/
theorem ofDecimal_sign (negative : Bool) (c : ℕ) (e : ℤ) :
    ofDecimal negative c e = (ofDecimal false c e).withSign negative := by
  unfold ofDecimal
  dsimp only
  split
  · rfl
  · split
    · rfl
    · split
      · exact nearest_sign negative _ _
      · exact nearest_sign negative _ _

/-! ## Decimals -/

/-- The order of magnitude of a decimal. -/
def order (coefficient : ℕ) (exponent : ℤ) : ℤ := (Nat.toDigits 10 coefficient).length + exponent

/-- A decimal lies below the power of ten at its order, and not below the one before. -/
theorem order_bounds {c : ℕ} (hc : c ≠ 0) (e : ℤ) :
    (10 : ℚ) ^ (order c e - 1) ≤ c * 10 ^ e ∧ (c : ℚ) * 10 ^ e < 10 ^ order c e := by
  have hlength : 0 < (Nat.toDigits 10 c).length := Nat.length_toDigits_pos
  obtain ⟨k, hk⟩ : ∃ k, (Nat.toDigits 10 c).length = k + 1 := Nat.exists_eq_add_one_of_ne_zero hlength.ne'
  have hbelow : c < 10 ^ (k + 1) := by
    rw [← Nat.length_toDigits_le_iff (by norm_num) (by omega), hk]
  have habove : 10 ^ k ≤ c := by
    by_contra hlt
    rcases Nat.eq_zero_or_pos k with rfl | hpos
    · omega
    · have := (Nat.length_toDigits_le_iff (by norm_num : 1 < 10) hpos).mpr (not_le.mp hlt)
      omega
  have hten : (10 : ℚ) ≠ 0 := by norm_num
  have hpow : (0 : ℚ) < 10 ^ e := by positivity
  have horder : order c e = k + 1 + e := by
    rw [order, hk]
    push_cast
    ring
  constructor
  · rw [horder, show (k : ℤ) + 1 + e - 1 = k + e by ring, zpow_add₀ hten, zpow_natCast]
    have habove' : (10 : ℚ) ^ k ≤ c := by exact_mod_cast habove
    exact mul_le_mul_of_nonneg_right habove' hpow.le
  · rw [horder, zpow_add₀ hten]
    have hbelow' : (c : ℚ) < 10 ^ (k + 1) := by exact_mod_cast hbelow
    exact mul_lt_mul_of_pos_right (by exact_mod_cast hbelow') hpow

/-- Decimals of one magnitude have one order. -/
theorem order_congr {c c' : ℕ} {e e' : ℤ} (hc : c ≠ 0) (hc' : c' ≠ 0) (h : (c : ℚ) * 10 ^ e = c' * 10 ^ e') :
    order c e = order c' e' := by
  obtain ⟨hlow, hhigh⟩ := order_bounds hc e
  obtain ⟨hlow', hhigh'⟩ := order_bounds hc' e'
  have hten : (1 : ℚ) < 10 := by norm_num
  have hlt := (zpow_lt_zpow_iff_right₀ hten).mp (lt_of_le_of_lt hlow (h ▸ hhigh'))
  have hlt' := (zpow_lt_zpow_iff_right₀ hten).mp (lt_of_le_of_lt hlow' (h ▸ hhigh))
  omega

/-- A decimal of a middling order is rounded as a ratio of its magnitude. -/
theorem exists_ofDecimal_eq_nearest {c : ℕ} {e : ℤ} (negative : Bool) (hc : c ≠ 0) (hlow : -330 ≤ order c e)
    (hhigh : order c e ≤ 310) :
    ∃ num den : ℕ, 0 < den ∧ (num : ℚ) / den = c * 10 ^ e ∧ ofDecimal negative c e = nearest negative num den := by
  have hmiddling : ofDecimal negative c e
      = if e < 0 then nearest negative c (Nat.pow 10 e.natAbs)
        else nearest negative (c * Nat.pow 10 e.natAbs) 1 := by
    unfold ofDecimal
    dsimp only
    unfold order at hlow hhigh
    rw [if_neg (by omega), if_neg (by omega)]
  rw [hmiddling]
  split
  · rename_i hneg
    refine ⟨c, Nat.pow 10 e.natAbs, Nat.pow_pos (by omega), ?_, rfl⟩
    rw [zpow_of_neg 10 hneg, Nat.pow_eq, Nat.cast_pow, Nat.cast_ofNat, div_eq_mul_inv]
  · rename_i hnonneg
    refine ⟨c * Nat.pow 10 e.natAbs, 1, Nat.one_pos, ?_, rfl⟩
    rw [zpow_of_not_neg 10 hnonneg, Nat.pow_eq, Nat.cast_one, div_one, Nat.cast_mul, Nat.cast_pow,
      Nat.cast_ofNat]

/-- Decimals of one magnitude are rounded alike. -/
theorem ofDecimal_congr {c c' : ℕ} {e e' : ℤ} (negative : Bool) (h : (c : ℚ) * 10 ^ e = c' * 10 ^ e') :
    ofDecimal negative c e = ofDecimal negative c' e' := by
  have hpow : (10 : ℚ) ^ e ≠ 0 := by positivity
  have hpow' : (10 : ℚ) ^ e' ≠ 0 := by positivity
  have hzero : c = 0 ↔ c' = 0 := by
    rw [← Nat.cast_eq_zero (R := ℚ), ← Nat.cast_eq_zero (R := ℚ) (n := c')]
    constructor
    · intro hc
      simpa [hc, hpow'] using h.symm
    · intro hc
      simpa [hc, hpow] using h
  by_cases hc : c = 0
  · have hc' := hzero.mp hc
    unfold ofDecimal
    dsimp only
    rw [if_pos (.inl hc), if_pos (.inl hc')]
  · have hc' := hzero.not.mp hc
    have horder := order_congr hc hc' h
    by_cases hlow : order c e < -330
    · have hlow' : order c' e' < -330 := by omega
      unfold ofDecimal
      dsimp only
      rw [if_pos (.inr hlow), if_pos (.inr hlow')]
    by_cases hhigh : 310 < order c e
    · have hhigh' : 310 < order c' e' := by omega
      unfold order at hlow horder hhigh hhigh'
      unfold ofDecimal
      dsimp only
      rw [if_neg (by omega), if_pos hhigh, if_neg (by omega), if_pos hhigh']
    have hlow' : -330 ≤ order c' e' := by omega
    have hhigh' : order c' e' ≤ 310 := by omega
    obtain ⟨num, den, hden, hmagnitude, heq⟩ :=
      exists_ofDecimal_eq_nearest negative hc (not_lt.mp hlow) (not_lt.mp hhigh)
    obtain ⟨num', den', hden', hmagnitude', heq'⟩ := exists_ofDecimal_eq_nearest negative hc' hlow' hhigh'
    rw [heq, heq']
    exact nearest_congr negative hden hden' (by rw [hmagnitude, hmagnitude', h])

/-- A decimal that is a number exactly is rounded to that number. -/
theorem ofDecimal_of_magnitude {c m : ℕ} {e q : ℤ} (negative : Bool) (hnormal : IsNormal m q)
    (h : (c : ℚ) * 10 ^ e = m * 2 ^ q) : ofDecimal negative c e = .finite negative m q := by
  have htwo : (1 : ℚ) < 2 := by norm_num
  have hten : (1 : ℚ) < 10 := by norm_num
  have hpow : (0 : ℚ) < 2 ^ q := by positivity
  by_cases hc : c = 0
  · have hm : m = 0 := by
      rw [hc, Nat.cast_zero, zero_mul, eq_comm, mul_eq_zero] at h
      exact_mod_cast h.resolve_right hpow.ne'
    have hleast : q = minExponent := hnormal.full.resolve_right (by rw [hm]; norm_num)
    unfold ofDecimal
    dsimp only
    rw [if_pos (.inl hc), zero, hm, hleast]
  obtain ⟨hlow, hhigh⟩ := order_bounds hc e
  rw [h] at hlow hhigh
  have hm : m ≠ 0 := by
    rintro rfl
    rw [Nat.cast_zero, zero_mul] at hlow
    have : (0 : ℚ) < 10 ^ (order c e - 1) := by positivity
    linarith
  -- a number that is not zero is no smaller than the last place, and has no bits above the greatest place
  have hone : (1 : ℚ) ≤ m := by exact_mod_cast Nat.one_le_iff_ne_zero.mpr hm
  have hsmallest : (2 : ℚ) ^ (-1074 : ℤ) ≤ m * 2 ^ q :=
    calc (2 : ℚ) ^ (-1074 : ℤ) ≤ 2 ^ q := zpow_le_zpow_right₀ htwo.le hnormal.least
      _ ≤ m * 2 ^ q := le_mul_of_one_le_left hpow.le hone
  have hgreatest : (m : ℚ) * 2 ^ q < 2 ^ (1024 : ℤ) :=
    calc (m : ℚ) * 2 ^ q < 2 ^ (q + 53) := hnormal.isPlace.below
      _ ≤ 2 ^ (1024 : ℤ) := by
        have := hnormal.greatest
        rw [maxExponent] at this
        exact zpow_le_zpow_right₀ htwo.le (by omega)
  have horderLow : -330 ≤ order c e := by
    have hlt : (10 : ℚ) ^ (-331 : ℤ) < 10 ^ order c e :=
      calc (10 : ℚ) ^ (-331 : ℤ) < 2 ^ (-1074 : ℤ) := by
            rw [zpow_neg, zpow_neg]
            refine inv_strictAnti₀ (by positivity) ?_
            exact_mod_cast (by decide +kernel : 2 ^ 1074 < 10 ^ 331)
        _ ≤ m * 2 ^ q := hsmallest
        _ < 10 ^ order c e := hhigh
    have := (zpow_lt_zpow_iff_right₀ hten).mp hlt
    omega
  have horderHigh : order c e ≤ 310 := by
    have hlt : (10 : ℚ) ^ (order c e - 1) < 10 ^ (310 : ℤ) :=
      calc (10 : ℚ) ^ (order c e - 1) ≤ m * 2 ^ q := hlow
        _ < 2 ^ (1024 : ℤ) := hgreatest
        _ < 10 ^ (310 : ℤ) := by exact_mod_cast (by decide +kernel : 2 ^ 1024 < 10 ^ 310)
    have := (zpow_lt_zpow_iff_right₀ hten).mp hlt
    omega
  obtain ⟨num, den, hden, hmagnitude, heq⟩ := exists_ofDecimal_eq_nearest negative hc horderLow horderHigh
  rw [heq]
  exact nearest_of_magnitude negative hnormal hden (by rw [hmagnitude, h])

/-! ## Integers out of range -/

/-- The least magnitude of an integer that is out of range: half a last place below the power of two that would be
next. -/
def integerLimit : ℕ := 2 ^ 1024 - 2 ^ 970

theorem two_le_integerLimit : 2 ≤ integerLimit := by
  decide +kernel

/-- An integer below an even multiple is rounded up to it from the middle on. -/
theorem roundHalfEven_eq_succ_iff {k half t : ℕ} (hhalf : 0 < half) (hodd : t % 2 = 1)
    (hbelow : k < (t + 1) * (2 * half)) :
    roundHalfEven k (2 * half) = t + 1 ↔ (t + 1) * (2 * half) - half ≤ k := by
  obtain ⟨quotient, hquotient⟩ : ∃ quotient, quotient = k / (2 * half) := ⟨_, rfl⟩
  obtain ⟨remainder, hremainder⟩ : ∃ remainder, remainder = k % (2 * half) := ⟨_, rfl⟩
  have hsplit : k = 2 * half * quotient + remainder := by
    rw [hquotient, hremainder, Nat.div_add_mod]
  have hrest : remainder < 2 * half := by
    rw [hremainder]
    exact Nat.mod_lt _ (by omega)
  have hle : quotient < t + 1 := by
    rw [hquotient]
    exact Nat.div_lt_of_lt_mul (by rw [Nat.mul_comm]; exact hbelow)
  have hgoal : (t + 1) * (2 * half) = 2 * half * t + 2 * half := by ring
  unfold roundHalfEven
  dsimp only
  rw [← hquotient, ← hremainder, hgoal]
  by_cases hlast : quotient = t
  · subst hlast
    split <;> omega
  · -- a smaller quotient stays below, even when it is rounded up
    have hfar : 2 * half * (quotient + 1) ≤ 2 * half * t := Nat.mul_le_mul_left _ (by omega)
    rw [Nat.mul_add, Nat.mul_one] at hfar
    split <;> omega

/-- A ratio is rounded to infinity above the greatest place, and at it where the significand is rounded up to the
next power of two. -/
theorem roundAt_infinite_iff (negative : Bool) (num den : ℕ) (place : ℤ) :
    roundAt negative num den place = .infinite negative ↔ maxExponent < place ∨ place = maxExponent ∧
      roundHalfEven (scaleDown num den place).1 (scaleDown num den place).2 = Nat.pow 2 53 := by
  unfold roundAt ofParts
  dsimp only
  split
  · rename_i hcarry
    split
    · have : maxExponent < place ∨ place = maxExponent := by omega
      simp [this, hcarry]
    · have hlow : ¬maxExponent < place ∧ ¬place = maxExponent := by omega
      simp [hlow]
  · rename_i hplain
    split
    · simp_all
    · simp_all

/-- The nearest number to an integer is infinite where the integer is out of range. -/
theorem nearest_infinite_iff (negative : Bool) (k : ℕ) :
    nearest negative k 1 = .infinite negative ↔ integerLimit ≤ k := by
  obtain ⟨half, hhalf⟩ : ∃ half : ℕ, half = 2 ^ 970 := ⟨_, rfl⟩
  have hpos : 0 < half := by
    rw [hhalf]
    positivity
  have hstep : 2 ^ 971 = 2 * half := by rw [hhalf, ← pow_succ']
  have hend : 2 ^ 1024 = 2 ^ 53 * (2 * half) := by rw [← hstep, ← pow_add]
  have hbinade : 2 ^ 1023 = 2 ^ 52 * (2 * half) := by rw [← hstep, ← pow_add]
  rw [integerLimit, hend, ← hhalf]
  unfold nearest
  by_cases hk : k = 0
  · rw [if_pos hk, zero, hk]
    constructor
    · intro h
      cases h
    · intro h
      omega
  · have hplace := isPlace_place hk Nat.one_ne_zero
    rw [Nat.cast_one, div_one] at hplace
    rw [if_neg hk, roundAt_infinite_iff, maxExponent]
    generalize place k 1 = exponent at hplace
    have htwo : (1 : ℚ) ≤ 2 := by norm_num
    rcases lt_trichotomy exponent 971 with hlow | hgreatest | hhigh
    · have hbelow : (k : ℚ) < 2 ^ (1023 : ℤ) :=
        lt_of_lt_of_le hplace.below (zpow_le_zpow_right₀ htwo (by omega))
      have hbelow' : k < 2 ^ 1023 := by exact_mod_cast hbelow
      rw [hbinade] at hbelow'
      constructor
      · rintro (h | ⟨h, -⟩) <;> omega
      · intro h
        omega
    · have hbelow : (k : ℚ) < 2 ^ (1024 : ℤ) := by
        have := hplace.below
        rw [hgreatest] at this
        exact this
      have hbelow' : k < 2 ^ 1024 := by exact_mod_cast hbelow
      have hscale : scaleDown k 1 971 = (k, 2 * half) := by
        rw [scaleDown_one k (by norm_num), show (971 : ℤ).natAbs = 971 from rfl, hstep]
      have hcarry := roundHalfEven_eq_succ_iff (k := k) (t := 2 ^ 53 - 1) hpos (by norm_num) (by omega)
      rw [hgreatest, hscale]
      constructor
      · rintro (h | ⟨-, h⟩)
        · omega
        · exact hcarry.mp h
      · intro h
        exact .inr ⟨rfl, hcarry.mpr h⟩
    · have habove : (2 : ℚ) ^ (1024 : ℤ) ≤ k := by
        rcases hplace.full with hleast | hfull
        · rw [minExponent] at hleast
          omega
        · exact le_trans (zpow_le_zpow_right₀ htwo (by omega)) hfull
      have habove' : 2 ^ 1024 ≤ k := by exact_mod_cast habove
      constructor
      · intro
        omega
      · intro
        exact .inl hhigh

/-- An integer is no number where it is out of range. -/
theorem ofInt_eq_none_iff (n : ℤ) : ofInt? n = none ↔ integerLimit ≤ n.natAbs := by
  rw [← nearest_infinite_iff (n < 0) n.natAbs, ofInt?]
  split
  · rename_i negative hinfinite
    rw [nearest_sign] at hinfinite
    rw [eq_of_withSign_eq_infinite hinfinite] at hinfinite
    exact ⟨fun _ => by rw [nearest_sign, hinfinite], fun _ => rfl⟩
  · rename_i x hfinite
    constructor
    · intro h
      cases h
    · intro h
      exact absurd h (hfinite _)

end MqttProfile.Binary64
