import MqttProfile.Proofs.Binary64.Nearest
import MqttProfile.Proofs.Json.Decimals

/-!
# Reading back the shortest decimal

The text of a number is read back as that number.  The digits that are chosen were tried before, so they read
back; and the text that is made of them, with a point or an exponent put in and zeros left out or filled in, has
the magnitude of these digits.

* `ofDecimal_shortest` is about the digits;
* `unsigned_layout` is about the text, and rests on `ofDecimal_congr`;
* `read_render` is the result, for every number in its usual representation.
-/

namespace MqttProfile.Binary64

open Text

/-! ## The chosen digits -/

/-- A decimal that is found on a grid reads back. -/
theorem ofDecimal_of_onGrid {target : Binary64} {c n dropped : ℕ} {e e' : ℤ}
    (h : onGrid? target c e dropped = some (n, e')) : ofDecimal false n e' = target := by
  unfold onGrid? at h
  dsimp only at h
  split at h
  · rename_i hlow hhigh
    cases h
    split
    · exact beq_iff_eq.mp hhigh
    · exact beq_iff_eq.mp hlow
  · rename_i hlow _
    cases h
    exact beq_iff_eq.mp hlow
  · rename_i _ hhigh
    cases h
    exact beq_iff_eq.mp hhigh
  · cases h

/-- So does the one on the first grid that has any, if the exact decimal does. -/
theorem ofDecimal_firstGrid {target : Binary64} {c : ℕ} {e : ℤ} (h : ofDecimal false c e = target)
    (dropped : ℕ) :
    ofDecimal false (firstGrid target c e dropped).1 (firstGrid target c e dropped).2 = target := by
  induction dropped with
  | zero => exact h
  | succ dropped ih =>
    rw [firstGrid]
    split
    · rename_i found hfound
      exact ofDecimal_of_onGrid hfound
    · exact ih

/-- The exact decimal of a number has its magnitude. -/
theorem exactDecimal_magnitude (m : ℕ) (q : ℤ) :
    ((exactDecimal m q).1 : ℚ) * 10 ^ (exactDecimal m q).2 = m * 2 ^ q := by
  unfold exactDecimal
  split
  · rename_i hneg
    have hten : (10 : ℚ) ^ q.natAbs = 5 ^ q.natAbs * 2 ^ q.natAbs := by
      rw [← mul_pow]
      norm_num
    rw [Nat.pow_eq, zpow_of_neg 10 hneg, zpow_of_neg 2 hneg, hten]
    push_cast
    field_simp
  · rename_i hnonneg
    rw [Nat.pow_eq, zpow_of_not_neg 2 hnonneg, zpow_zero, mul_one]
    push_cast
    ring

/-- The shortest decimal of a number reads back. -/
theorem ofDecimal_shortest {m : ℕ} {q : ℤ} (h : IsNormal m q) (negative : Bool) :
    ofDecimal negative (shortest m q).1 (shortest m q).2 = .finite negative m q := by
  have hexact : ofDecimal false (exactDecimal m q).1 (exactDecimal m q).2 = .finite false m q :=
    ofDecimal_of_magnitude false h (exactDecimal_magnitude m q)
  have hfound : ofDecimal false (shortest m q).1 (shortest m q).2 = .finite false m q :=
    ofDecimal_firstGrid hexact _
  rw [ofDecimal_sign, hfound]
  rfl

/-! ## The values of digits -/

theorem digitsValue_ofNat (n : ℕ) : digitsValue (ofNat n) = n :=
  Nat.ofDigitChars_ten_toDigits

theorem digitsValue_append_zeros (digits : List Char) (k : ℕ) :
    digitsValue (digits ++ List.replicate k '0') = digitsValue digits * 10 ^ k := by
  unfold digitsValue
  rw [Nat.ofDigitChars_append, Nat.ofDigitChars_replicate_zero, Nat.mul_comm]

theorem digitsValue_zeros_append (k : ℕ) (digits : List Char) :
    digitsValue (List.replicate k '0' ++ digits) = digitsValue digits := by
  unfold digitsValue
  rw [Nat.ofDigitChars_append, Nat.ofDigitChars_replicate_zero, Nat.mul_zero]

/-- The zeros at the end of digits are dropped, and nothing else. -/
theorem exists_dropTrailingZeros {n : ℕ} (hn : n ≠ 0) :
    ∃ k, ofNat n = dropTrailingZeros (ofNat n) ++ List.replicate k '0' := by
  obtain ⟨kept, hkept⟩ : ∃ kept, kept = ((ofNat n).reverse.dropWhile (· == '0')).reverse := ⟨_, rfl⟩
  obtain ⟨zeros, hzeros⟩ : ∃ zeros, zeros = ((ofNat n).reverse.takeWhile (· == '0')).reverse := ⟨_, rfl⟩
  have hsplit : ofNat n = kept ++ zeros := by
    rw [hkept, hzeros, ← List.reverse_append, List.takeWhile_append_dropWhile, List.reverse_reverse]
  have hall : zeros = List.replicate zeros.length '0' := by
    refine List.eq_replicate_iff.mpr ⟨rfl, fun c hc => ?_⟩
    rw [hzeros, List.mem_reverse] at hc
    have hzero := List.mem_takeWhile_imp (p := (· == '0')) hc
    exact beq_iff_eq.mp hzero
  have hne : kept ≠ [] := by
    intro hnil
    have hzero : digitsValue (ofNat n) = 0 := by
      rw [hsplit, hnil, hall, digitsValue_append_zeros]
      exact Nat.zero_mul _
    exact hn (by rw [← digitsValue_ofNat n, hzero])
  have hdrop : dropTrailingZeros (ofNat n) = kept := by
    unfold dropTrailingZeros
    rw [← hkept]
    split
    · exact absurd rfl hne
    · rfl
  refine ⟨zeros.length, ?_⟩
  rw [hdrop, ← hall]
  exact hsplit

/-! ## Texts with a point or an exponent -/

/-- Digits with a point among them are a decimal with a place for each digit behind the point. -/
theorem unsigned_point (negative : Bool) {whole fraction : List Char} (hwhole : IsDigits whole)
    (hfraction : ∀ c ∈ fraction, c.isDigit = true) :
    unsigned? negative (whole ++ '.' :: fraction)
      = some (ofDecimal negative (digitsValue (whole ++ fraction)) (-(fraction.length : ℤ))) := by
  have hspan := Json.spanDigits_append hwhole.isDigit (Json.endsDigits_cons (c := '.') (by decide) fraction)
  have hrest : spanDigits (fraction ++ []) = (fraction, []) :=
    Json.spanDigits_append hfraction fun _ hc => nomatch hc
  have hsome : whole.isEmpty = false := List.isEmpty_eq_false_iff.mpr hwhole.ne_nil
  rw [List.append_nil] at hrest
  unfold unsigned?
  simp [hspan, hrest, hsome]

/-- With an exponent behind them, the places are counted from there. -/
theorem unsigned_exponent (negative : Bool) {whole fraction exponent : List Char} {x : ℤ}
    (hwhole : IsDigits whole) (hfraction : ∀ c ∈ fraction, c.isDigit = true)
    (hexponent : exponent? exponent = some x) :
    unsigned? negative (whole ++ (if fraction.isEmpty then [] else '.' :: fraction) ++ 'e' :: exponent)
      = some (ofDecimal negative (digitsValue (whole ++ fraction)) (x - fraction.length)) := by
  have hmark : Json.EndsDigits ('e' :: exponent) := Json.endsDigits_cons (by decide) exponent
  have hsome : whole.isEmpty = false := List.isEmpty_eq_false_iff.mpr hwhole.ne_nil
  rw [List.append_assoc]
  unfold unsigned?
  cases fraction with
  | nil =>
    have hspan := Json.spanDigits_append hwhole.isDigit hmark
    rw [List.isEmpty_nil, if_pos rfl, List.nil_append]
    simp [hspan, hsome, hexponent]
  | cons c cs =>
    have hspan := Json.spanDigits_append hwhole.isDigit
      (Json.endsDigits_cons (c := '.') (by decide) (c :: cs ++ 'e' :: exponent))
    have hrest := Json.spanDigits_append hfraction hmark
    rw [List.isEmpty_cons, if_neg Bool.false_ne_true, List.cons_append, hspan]
    simp only [hrest, hsome]
    simp [hexponent]

/-- The text of an exponent is read back. -/
theorem exponent_exponentText (width : ℕ) (e : ℤ) : exponent? (exponentText width e) = some e := by
  obtain ⟨digits, hdef⟩ : ∃ digits,
      digits = List.replicate (width - (ofNat e.natAbs).length) '0' ++ ofNat e.natAbs := ⟨_, rfl⟩
  have hdigits : IsDigits digits := by
    rw [hdef]
    exact (isDigits_ofNat e.natAbs).append fun _ => isDigit_of_mem_zeros
  have hvalue : digitsValue digits = e.natAbs := by
    rw [hdef, digitsValue_zeros_append, digitsValue_ofNat]
  have htext : exponentText width e = (if e < 0 then '-' else '+') :: digits := by
    rw [hdef]
    rfl
  have hall : (digits.isEmpty || !digits.all Char.isDigit) = false := by
    rw [Bool.or_eq_false_iff, List.isEmpty_eq_false_iff, Bool.not_eq_false', List.all_eq_true]
    exact ⟨hdigits.ne_nil, hdigits.isDigit⟩
  rw [htext]
  by_cases hneg : e < 0
  · have habs : -(e.natAbs : ℤ) = e := by omega
    rw [if_pos hneg, exponent?, hall, hvalue]
    exact congrArg some habs
  · have habs : (e.natAbs : ℤ) = e := by omega
    rw [if_neg hneg, exponent?, hall, hvalue]
    exact congrArg some habs

/-! ## The laid out text -/

/-- The text that is laid out has the magnitude of its digits. -/
theorem unsigned_layout (layout : NumberLayout) (negative : Bool) {digits : List Char} (hdigits : IsDigits digits)
    (point : ℤ) :
    unsigned? negative (layout.apply digits point)
      = some (ofDecimal negative (digitsValue digits) (point - digits.length)) := by
  obtain ⟨c, cs, rfl⟩ := List.exists_cons_of_ne_nil hdigits.ne_nil
  have hc : c.isDigit = true := hdigits.isDigit c List.mem_cons_self
  have hcs : ∀ d ∈ cs, d.isDigit = true := fun d hd => hdigits.isDigit d (List.mem_cons_of_mem c hd)
  unfold NumberLayout.apply
  dsimp only
  split
  · -- one digit before the point, and an exponent
    rw [List.take_succ_cons, List.take_zero, List.drop_succ_cons, List.drop_zero,
      unsigned_exponent negative (isDigits_singleton hc) hcs (exponent_exponentText _ _)]
    have hplaces : point - 1 - (cs.length : ℤ) = point - (c :: cs).length := by
      rw [List.length_cons]
      push_cast
      ring
    rw [hplaces]
    rfl
  · split
    · -- zeros behind the point, and all digits
      rename_i hpoint
      have hfraction : ∀ d ∈ List.replicate point.natAbs '0' ++ c :: cs, d.isDigit = true :=
        (hdigits.append fun _ => isDigit_of_mem_zeros).isDigit
      have hvalue : digitsValue (['0'] ++ (List.replicate point.natAbs '0' ++ c :: cs))
          = digitsValue (c :: cs) := by
        rw [← List.append_assoc, show ['0'] = List.replicate 1 '0' from rfl, List.replicate_append_replicate,
          digitsValue_zeros_append]
      have hplaces : -((List.replicate point.natAbs '0' ++ c :: cs).length : ℤ) = point - (c :: cs).length := by
        rw [List.length_append, List.length_replicate]
        omega
      have hread := unsigned_point negative (isDigits_singleton (c := '0') rfl) hfraction
      rw [hvalue, hplaces] at hread
      exact hread
    · -- the point among the digits or behind them
      rename_i hpoint
      obtain ⟨digits, hdef⟩ : ∃ digits, digits = c :: cs := ⟨_, rfl⟩
      rw [← hdef] at hdigits ⊢
      by_cases hall : digits.length ≤ point.toNat
      · have hzeros : ∀ d ∈ List.replicate (point.toNat - digits.length) '0', d.isDigit = true :=
          fun _ => isDigit_of_mem_zeros
        have hwhole : IsDigits (digits ++ List.replicate (point.toNat - digits.length) '0') := by
          refine ⟨List.append_ne_nil_of_left_ne_nil hdigits.ne_nil _, fun d hd => ?_⟩
          rcases List.mem_append.mp hd with hmem | hmem
          · exact hdigits.isDigit d hmem
          · exact hzeros d hmem
        have hvalue : digitsValue (digits ++ List.replicate (point.toNat - digits.length) '0' ++ ['0'])
            = digitsValue digits * 10 ^ (point.toNat - digits.length + 1) := by
          rw [show ['0'] = List.replicate 1 '0' from rfl, List.append_assoc, List.replicate_append_replicate,
            digitsValue_append_zeros]
        have hread := unsigned_point negative hwhole (isDigits_singleton (c := '0') rfl).isDigit
        rw [hvalue] at hread
        rw [List.take_of_length_le hall, List.drop_of_length_le hall, List.isEmpty_nil, if_pos rfl, hread]
        -- the zeros that were filled in are powers of ten
        refine congrArg some (ofDecimal_congr negative ?_)
        have hten : (10 : ℚ) ≠ 0 := by norm_num
        have hplaces : ((point.toNat - digits.length + 1 : ℕ) : ℤ) + -(['0'].length : ℤ)
            = point - digits.length := by
          rw [List.length_singleton]
          omega
        push_cast
        rw [mul_assoc, ← zpow_natCast, ← zpow_add₀ hten, ← hplaces]
      · have hlength : (digits.take point.toNat).length = point.toNat :=
          List.length_take_of_le (by omega)
        have hwhole : IsDigits (digits.take point.toNat) := by
          refine ⟨?_, fun d hd => hdigits.isDigit d (List.mem_of_mem_take hd)⟩
          rw [← List.length_pos_iff_ne_nil, hlength]
          omega
        have hfraction : ∀ d ∈ digits.drop point.toNat, d.isDigit = true :=
          fun d hd => hdigits.isDigit d (List.mem_of_mem_drop hd)
        have hsome : (digits.drop point.toNat).isEmpty = false := by
          rw [List.isEmpty_eq_false_iff, ← List.length_pos_iff_ne_nil, List.length_drop]
          omega
        have hplaces : -((digits.drop point.toNat).length : ℤ) = point - digits.length := by
          rw [List.length_drop]
          omega
        have hread := unsigned_point negative hwhole hfraction
        rw [List.take_append_drop, hplaces] at hread
        rw [hlength, Nat.sub_self, List.replicate_zero, List.append_nil, hsome, if_neg Bool.false_ne_true]
        exact hread

/-- The text of a magnitude is read back. -/
theorem unsigned_magnitudeText {m : ℕ} {q : ℤ} (h : IsNormal m q) (negative : Bool) :
    unsigned? negative (magnitudeText m q) = some (.finite negative m q) := by
  unfold magnitudeText
  split
  · rename_i hm
    have hleast : q = minExponent := h.full.resolve_right (by rw [hm]; norm_num)
    have hzero : unsigned? negative ['0', '.', '0'] = some (ofDecimal negative 0 (-1)) := rfl
    rw [hzero, hm, hleast]
    rfl
  · rename_i hm
    obtain ⟨c, hc⟩ : ∃ c, c = (shortest m q).1 := ⟨_, rfl⟩
    obtain ⟨e, he⟩ : ∃ e, e = (shortest m q).2 := ⟨_, rfl⟩
    have hne : c ≠ 0 := by
      rw [hc]
      exact shortest_ne_zero hm q
    have hreads : ofDecimal negative c e = .finite negative m q := by
      rw [hc, he]
      exact ofDecimal_shortest h negative
    obtain ⟨k, hk⟩ := exists_dropTrailingZeros hne
    obtain ⟨kept, hkept⟩ : ∃ kept, kept = dropTrailingZeros (ofNat c) := ⟨_, rfl⟩
    rw [← hkept] at hk
    dsimp only
    rw [← hc, ← he, ← hkept, unsigned_layout standardLayout negative (hkept ▸ (isDigits_dropTrailingZeros hne).1),
      ← hreads]
    -- the zeros that were dropped are powers of ten
    refine congrArg some (ofDecimal_congr negative ?_)
    have hten : (10 : ℚ) ≠ 0 := by norm_num
    have hvalue : c = digitsValue kept * 10 ^ k := by
      rw [← digitsValue_append_zeros, ← hk, digitsValue_ofNat]
    have hplaces : ((ofNat c).length : ℤ) + e - kept.length = k + e := by
      rw [hk, List.length_append, List.length_replicate]
      omega
    rw [hplaces, zpow_add₀ hten, zpow_natCast, ← mul_assoc]
    exact congrArg (· * (10 : ℚ) ^ e) (by exact_mod_cast hvalue.symm)

/-! ## Every number -/

/-- A digit has no other case. -/
theorem toLower_of_isDigit {c : Char} (hc : c.isDigit = true) : c.toLower = c := by
  unfold Char.isDigit at hc
  unfold Char.toLower
  rw [Bool.and_eq_true, decide_eq_true_eq, decide_eq_true_eq] at hc
  split
  · rename_i hupper
    have habove := UInt32.le_iff_toNat_le.mp hupper.1
    have hbelow := UInt32.le_iff_toNat_le.mp hc.2
    simp at habove hbelow
    omega
  · rfl

/-- A text that starts with a digit is none of the names. -/
theorem read_digits (negative : Bool) {c : Char} (hc : c.isDigit = true) (cs : List Char) :
    read? ((if negative then ['-'] else []) ++ c :: cs) = unsigned? negative (c :: cs) := by
  have hname : ∀ {d : Char} {ds : List Char}, d.isDigit = false →
      String.ofList ((c :: cs).map Char.toLower) ≠ String.ofList (d :: ds) := by
    intro d ds hd heq
    have hlist := String.ofList_injective heq
    rw [List.map_cons, toLower_of_isDigit hc, List.cons.injEq] at hlist
    rw [hlist.1, hd] at hc
    cases hc
  have hwords : ¬(String.ofList ((c :: cs).map Char.toLower) = "inf"
      ∨ String.ofList ((c :: cs).map Char.toLower) = "infinity")
      ∧ ¬String.ofList ((c :: cs).map Char.toLower) = "nan" :=
    ⟨not_or.mpr ⟨hname rfl, hname rfl⟩, hname rfl⟩
  have hread : (if String.ofList ((c :: cs).map Char.toLower) = "inf"
        ∨ String.ofList ((c :: cs).map Char.toLower) = "infinity" then some (infinite negative)
      else if String.ofList ((c :: cs).map Char.toLower) = "nan" then some nan
      else unsigned? negative (c :: cs)) = unsigned? negative (c :: cs) := by
    rw [if_neg hwords.1, if_neg hwords.2]
  cases negative with
  | true => exact hread
  | false =>
    rw [if_neg Bool.false_ne_true, List.nil_append, read?.eq_def]
    split
    rename_i sign rest heq
    split at heq
    · rename_i hminus
      cases hminus
      cases hc
    · rename_i hplus
      cases hplus
      cases hc
    · cases heq
      exact hread

/-- The text of a number is read back as the number. -/
theorem read_render {x : Binary64} (h : x.Usual) : read? (x.render plainNames) = some x := by
  cases x with
  | nan => decide +kernel
  | infinite negative => cases negative <;> decide +kernel
  | finite negative m q =>
    obtain ⟨c, cs, htext, hc⟩ := exists_magnitudeText_eq_cons m q
    have hrender : (finite negative m q).render plainNames
        = (if negative then ['-'] else []) ++ magnitudeText m q := by
      cases negative <;> rfl
    rw [hrender, htext, read_digits negative hc, ← htext]
    exact unsigned_magnitudeText h negative

end MqttProfile.Binary64
