import MqttProfile.Proofs.Binary64.Shortest
import MqttProfile.Toml.Document

/-!
# Reading back numbers

Integers and numbers that stand at the end of a line are read back with the end of the line left over, because
they are neither dates nor times nor integers of another base, and nothing may be taken off their parts.

* `takeDecimal_numeral` splits a number into its parts;
* `readValue_numeral` says that this is what is read;
* `readValue_ofInt` and `readValue_render` are about the texts that are written.
-/

namespace MqttProfile.Toml

open Text (IsDigits IsWhole IsDecimal)

/-! ## Parts of a number -/

/-- What may follow the digits of a number: neither a digit nor an underscore. -/
def EndsRun (rest : List Char) : Prop :=
  ∀ c ∈ rest.head?, c.isDigit = false ∧ c ≠ '_'

theorem endsRun_cons {c : Char} (hc : c.isDigit = false ∧ c ≠ '_') (cs : List Char) : EndsRun (c :: cs) := by
  intro d hd
  cases hd
  exact hc

/-- Digits are split off behind a digit. -/
theorem takeMoreDigits_append {digits rest : List Char} (hdigits : ∀ c ∈ digits, c.isDigit = true)
    (hends : EndsRun rest) : takeMoreDigits Char.isDigit (digits ++ rest) = (digits, rest) := by
  induction digits with
  | nil =>
    cases rest with
    | nil => rfl
    | cons c cs =>
      obtain ⟨hc, hunderscore⟩ := hends c rfl
      rw [List.nil_append, takeMoreDigits.eq_def]
      split
      · rename_i heq
        cases heq
      · rename_i heq
        exact absurd (List.head_eq_of_cons_eq heq) hunderscore
      · rename_i heq
        cases heq
        rw [if_neg (by rw [hc]; decide)]
  | cons c cs ih =>
    have hc := hdigits c List.mem_cons_self
    have hrest := ih fun d hd => hdigits d (List.mem_cons_of_mem c hd)
    rw [List.cons_append, takeMoreDigits.eq_def]
    split
    · rename_i heq
      cases heq
    · rename_i heq
      rw [List.head_eq_of_cons_eq heq] at hc
      cases hc
    · rename_i heq
      cases heq
      rw [if_pos hc, hrest]

/-- Digits are split off. -/
theorem takeDigits_append {digits rest : List Char} (hdigits : IsDigits digits) (hends : EndsRun rest) :
    takeDigits Char.isDigit (digits ++ rest) = (digits, rest) := by
  obtain ⟨c, cs, rfl⟩ := List.exists_cons_of_ne_nil hdigits.ne_nil
  have hmore := takeMoreDigits_append (fun d hd => hdigits.isDigit d (List.mem_cons_of_mem c hd)) hends
  unfold takeDigits
  rw [List.cons_append]
  dsimp only
  rw [if_pos (hdigits.isDigit c List.mem_cons_self), hmore]

/-- The digits before the point are split off. -/
theorem takeWhole_append {whole rest : List Char} (hwhole : IsWhole whole) (hends : EndsRun rest) :
    takeWhole (whole ++ rest) = (whole, rest) := by
  cases hwhole with
  | zero => rfl
  | positive hdigits hfirst =>
    have htaken := takeDigits_append hdigits hends
    obtain ⟨c, cs, rfl⟩ := List.exists_cons_of_ne_nil hdigits.ne_nil
    unfold takeWhole
    split
    · rename_i heq
      rw [List.head?_cons, List.head_eq_of_cons_eq heq] at hfirst
      exact absurd rfl hfirst
    · exact htaken

/-- The parts of a number in decimal: its digits before the point, a fraction with its point or none, and an exponent
with its mark and its sign or none. -/
structure IsNumeral (whole fraction exponent : List Char) : Prop where
  isWhole : IsWhole whole
  isFraction : fraction = [] ∨ ∃ digits, fraction = '.' :: digits ∧ IsDigits digits
  isExponent : exponent = [] ∨
    ∃ sign digits, exponent = 'e' :: sign :: digits ∧ (sign = '+' ∨ sign = '-') ∧ IsDigits digits

variable {whole fraction exponent : List Char}

theorem endsRun_lineEnd (rest : List Char) : EndsRun ('\n' :: rest) :=
  endsRun_cons (by decide) rest

theorem IsNumeral.exponent_ends (h : IsNumeral whole fraction exponent) (rest : List Char) :
    EndsRun (exponent ++ '\n' :: rest) := by
  rcases h.isExponent with rfl | ⟨sign, digits, rfl, -, -⟩
  · exact endsRun_lineEnd rest
  · exact endsRun_cons (by decide) _

theorem IsNumeral.fraction_ends (h : IsNumeral whole fraction exponent) (rest : List Char) :
    EndsRun (fraction ++ (exponent ++ '\n' :: rest)) := by
  rcases h.isFraction with rfl | ⟨digits, rfl, -⟩
  · exact h.exponent_ends rest
  · exact endsRun_cons (by decide) _

/-- The fraction of a number is split off. -/
theorem takeFractionPart_numeral (h : IsNumeral whole fraction exponent) (rest : List Char) :
    takeFractionPart (fraction ++ (exponent ++ '\n' :: rest)) = (fraction, exponent ++ '\n' :: rest) := by
  rcases h.isFraction with rfl | ⟨digits, rfl, hdigits⟩
  · rcases h.isExponent with rfl | ⟨sign, digits, rfl, -⟩
    · rfl
    · rfl
  · have htaken := takeDigits_append hdigits (h.exponent_ends rest)
    obtain ⟨c, cs, rfl⟩ := List.exists_cons_of_ne_nil hdigits.ne_nil
    rw [List.cons_append, takeFractionPart, htaken]

/-- The exponent of a number is split off. -/
theorem takeExponentPart_numeral (h : IsNumeral whole fraction exponent) (rest : List Char) :
    takeExponentPart (exponent ++ '\n' :: rest) = (exponent, '\n' :: rest) := by
  rcases h.isExponent with rfl | ⟨sign, digits, rfl, hsign, hdigits⟩
  · rfl
  · have htaken := takeDigits_append hdigits (endsRun_lineEnd rest)
    obtain ⟨c, cs, rfl⟩ := List.exists_cons_of_ne_nil hdigits.ne_nil
    rcases hsign with rfl | rfl
    · rw [List.cons_append, List.cons_append, takeExponentPart, if_pos (.inl rfl), takeSign]
      dsimp only
      rw [htaken]
      rfl
    · rw [List.cons_append, List.cons_append, takeExponentPart, if_pos (.inl rfl), takeSign]
      dsimp only
      rw [htaken]
      rfl

/-- The sign of a negative number. -/
def minusIf (negative : Bool) : List Char := if negative then ['-'] else []

/-- The sign of a number is split off. -/
theorem takeSign_append (negative : Bool) {c : Char} (hc : c.isDigit = true) (cs : List Char) :
    takeSign (minusIf negative ++ c :: cs) = (minusIf negative, c :: cs) := by
  cases negative with
  | true => rfl
  | false =>
    show takeSign (c :: cs) = ([], c :: cs)
    unfold takeSign
    split
    · rename_i heq
      cases heq
      cases hc
    · rename_i heq
      cases heq
      cases hc
    · rfl

/-- A number at the end of a line is split into its parts. -/
theorem takeDecimal_numeral (h : IsNumeral whole fraction exponent) (negative : Bool) (rest : List Char) :
    takeDecimal? (minusIf negative ++ (whole ++ (fraction ++ (exponent ++ '\n' :: rest))))
      = some (⟨minusIf negative, whole, fraction, exponent⟩, '\n' :: rest) := by
  have hwhole := takeWhole_append h.isWhole (h.fraction_ends rest)
  obtain ⟨c, cs, hcons, hc⟩ := h.isWhole.isDigits.exists_cons
  have hsome : whole.isEmpty = false := List.isEmpty_eq_false_iff.mpr h.isWhole.isDigits.ne_nil
  have hsign : takeSign (minusIf negative ++ (whole ++ (fraction ++ (exponent ++ '\n' :: rest))))
      = (minusIf negative, whole ++ (fraction ++ (exponent ++ '\n' :: rest))) := by
    rw [hcons, List.cons_append]
    exact takeSign_append negative hc _
  unfold takeDecimal?
  rw [hsign]
  dsimp only
  rw [hwhole]
  dsimp only
  rw [hsome, if_neg Bool.false_ne_true, takeFractionPart_numeral h rest]
  dsimp only
  rw [takeExponentPart_numeral h rest]

/-! ## What a number is not -/

/-- Two digits are digits. -/
theorem isDigit_of_twoDigits {a b : Char} {n : ℕ} (h : twoDigits? a b = some n) :
    a.isDigit = true ∧ b.isDigit = true := by
  unfold twoDigits? at h
  split at h
  · rename_i hdigits
    exact Bool.and_eq_true_iff.mp hdigits
  · cases h

/-- What has the form of a date starts with four digits and a hyphen. -/
theorem exists_of_readDate {cs rest : List Char} {date : Date} (h : readDate cs = some (date, rest)) :
    ∃ digits tail, cs = digits ++ '-' :: tail ∧ digits.length = 4 ∧ ∀ c ∈ digits, c.isDigit = true := by
  unfold readDate at h
  split at h
  · rename_i y₁ y₂ y₃ y₄ m₁ m₂ d₁ d₂ tail
    obtain ⟨year, hyear, -⟩ := Option.bind_eq_some_iff.mp h
    obtain ⟨high, hhigh, hlow⟩ := Option.bind_eq_some_iff.mp hyear
    obtain ⟨low, hlow, -⟩ := Option.map_eq_some_iff.mp hlow
    obtain ⟨h₁, h₂⟩ := isDigit_of_twoDigits hhigh
    obtain ⟨h₃, h₄⟩ := isDigit_of_twoDigits hlow
    refine ⟨[y₁, y₂, y₃, y₄], m₁ :: m₂ :: '-' :: d₁ :: d₂ :: tail, rfl, rfl, ?_⟩
    simp [h₁, h₂, h₃, h₄]
  · cases h

/-- A time of day starts with two digits and a colon. -/
theorem exists_of_skipTime {cs rest : List Char} (h : skipTime? cs = some rest) :
    ∃ digits tail, cs = digits ++ ':' :: tail ∧ digits.length = 2 ∧ ∀ c ∈ digits, c.isDigit = true := by
  unfold skipTime? at h
  split at h
  · rename_i h₁ h₂ m₁ m₂ s₁ s₂ tail
    obtain ⟨hour, hhour, -⟩ := Option.bind_eq_some_iff.mp h
    obtain ⟨n, hn, -⟩ := Option.bind_eq_some_iff.mp hhour
    obtain ⟨hfirst, hsecond⟩ := isDigit_of_twoDigits hn
    refine ⟨[h₁, h₂], m₁ :: m₂ :: ':' :: s₁ :: s₂ :: tail, rfl, rfl, ?_⟩
    simp [hfirst, hsecond]
  · cases h

/-- A run of digits ends at the first character that is none. -/
theorem run_unique {digits digits' cs cs' : List Char} {c c' : Char} (hdigits : ∀ d ∈ digits, d.isDigit = true)
    (hdigits' : ∀ d ∈ digits', d.isDigit = true) (hc : c.isDigit = false) (hc' : c'.isDigit = false)
    (h : digits ++ c :: cs = digits' ++ c' :: cs') : digits = digits' ∧ c = c' := by
  have hspan := Json.spanDigits_append hdigits (Json.endsDigits_cons hc cs)
  rw [h, Json.spanDigits_append hdigits' (Json.endsDigits_cons hc' cs'), Prod.mk.injEq, List.cons.injEq] at hspan
  exact ⟨hspan.1.symm, hspan.2.1.symm⟩

/-- What starts with a run of digits and neither a hyphen nor a colon behind it is read as a number; a hyphen may stand
in front. -/
theorem readScalar_eq_readNumber {digits : List Char} {c : Char} (cs : List Char)
    (hdigits : ∀ d ∈ digits, d.isDigit = true) (hc : c.isDigit = false) (hhyphen : digits = [] ∨ c ≠ '-')
    (hcolon : c ≠ ':') (hletter : c ≠ 't' ∧ c ≠ 'f') :
    readScalar (digits ++ c :: cs) = readNumber (digits ++ c :: cs) := by
  have hdate : readDate (digits ++ c :: cs) = none := by
    refine Option.eq_none_iff_forall_ne_some.mpr fun ⟨date, rest⟩ hread => ?_
    obtain ⟨digits', tail, heq, hfour, hdigits'⟩ := exists_of_readDate hread
    obtain ⟨rfl, rfl⟩ := run_unique hdigits hdigits' hc rfl heq
    rcases hhyphen with rfl | hhyphen
    · cases hfour
    · exact hhyphen rfl
  have htime : skipTime? (digits ++ c :: cs) = none := by
    refine Option.eq_none_iff_forall_ne_some.mpr fun rest hread => ?_
    obtain ⟨digits', tail, heq, -, hdigits'⟩ := exists_of_skipTime hread
    exact hcolon (run_unique hdigits hdigits' hc rfl heq).2
  have hword : ∀ {d : Char} {ds : List Char}, d.isDigit = false → digits ++ c :: cs = d :: ds → c = d := by
    intro d ds hd heq
    have hnone : ∀ e ∈ ([] : List Char), e.isDigit = true := fun _ hmem => nomatch hmem
    exact (run_unique hdigits hnone hc hd heq).2
  unfold readScalar
  split
  · rename_i heq
    exact absurd (hword rfl heq) hletter.1
  · rename_i heq
    exact absurd (hword rfl heq) hletter.2
  · rw [hdate, htime]

theorem readScalar_sign {c : Char} (cs : List Char) (hc : c.isDigit = false) (hcolon : c ≠ ':')
    (hletter : c ≠ 't' ∧ c ≠ 'f') : readScalar (c :: cs) = readNumber (c :: cs) := by
  have hnone : ∀ d ∈ ([] : List Char), d.isDigit = true := fun _ hmem => nomatch hmem
  exact readScalar_eq_readNumber cs hnone hc (.inl rfl) hcolon hletter

/-- A value that starts with a digit, a hyphen or the letter of a name is neither a string nor a container. -/
theorem readValue_scalar (fuel : ℕ) {c : Char} (cs : List Char)
    (hc : c ≠ '"' ∧ c ≠ '\'' ∧ c ≠ '[' ∧ c ≠ '\x7b') : readValue (fuel + 1) (c :: cs) = readScalar (c :: cs) := by
  rw [readValue.eq_def]
  dsimp only
  split
  · rename_i heq
    exact absurd (List.head_eq_of_cons_eq heq) hc.1
  · rename_i heq
    exact absurd (List.head_eq_of_cons_eq heq) hc.2.1
  · rename_i heq
    exact absurd (List.head_eq_of_cons_eq heq) hc.2.2.1
  · rename_i heq
    exact absurd (List.head_eq_of_cons_eq heq) hc.2.2.2
  · rfl

/-! ## Numbers at the end of a line -/

/-- Behind the digits before the point there is the point, an exponent or the end of the line. -/
theorem IsNumeral.exists_behind_whole (h : IsNumeral whole fraction exponent) (rest : List Char) :
    ∃ c cs, fraction ++ (exponent ++ '\n' :: rest) = c :: cs ∧ (c = '.' ∨ c = 'e' ∨ c = '\n') := by
  rcases h.isFraction with rfl | ⟨digits, rfl, -⟩
  · rcases h.isExponent with rfl | ⟨sign, digits, rfl, -⟩
    · exact ⟨'\n', rest, rfl, .inr (.inr rfl)⟩
    · exact ⟨'e', _, rfl, .inr (.inl rfl)⟩
  · exact ⟨'.', _, rfl, .inl rfl⟩

/-- A number in decimal announces no base. -/
theorem readBased_eq_none (hwhole : IsWhole whole) (negative : Bool) {c : Char} (hc : baseOfMark? c = none)
    (cs : List Char) : readBased (minusIf negative ++ (whole ++ c :: cs)) = none := by
  cases negative with
  | true => rfl
  | false =>
    show readBased (whole ++ c :: cs) = none
    cases hwhole with
    | zero =>
      show (baseOfMark? c).bind _ = none
      rw [hc]
      rfl
    | positive hdigits hfirst =>
      obtain ⟨d, ds, rfl⟩ := List.exists_cons_of_ne_nil hdigits.ne_nil
      unfold readBased
      split
      · rename_i heq
        rw [List.head?_cons, List.head_eq_of_cons_eq heq] at hfirst
        exact absurd rfl hfirst
      · rfl

/-- A number in decimal at the end of a line is read as the value of its parts. -/
theorem readValue_numeral (h : IsNumeral whole fraction exponent) (negative : Bool) (fuel : ℕ) (rest : List Char) :
    readValue (fuel + 1) (minusIf negative ++ (whole ++ (fraction ++ (exponent ++ '\n' :: rest))))
      = (Decimal.value ⟨minusIf negative, whole, fraction, exponent⟩).map fun value => (value, '\n' :: rest) := by
  have hdecimal := takeDecimal_numeral h negative rest
  obtain ⟨c, cs, hbehind, hc⟩ := h.exists_behind_whole rest
  rw [hbehind] at hdecimal ⊢
  have hbased : readBased (minusIf negative ++ (whole ++ c :: cs)) = none :=
    readBased_eq_none h.isWhole negative (by rcases hc with rfl | rfl | rfl <;> rfl) cs
  have hnumber : readNumber (minusIf negative ++ (whole ++ c :: cs))
      = (Decimal.value ⟨minusIf negative, whole, fraction, exponent⟩).map fun value => (value, '\n' :: rest) := by
    unfold readNumber
    rw [hbased, hdecimal]
  have hscalar : readScalar (minusIf negative ++ (whole ++ c :: cs))
      = readNumber (minusIf negative ++ (whole ++ c :: cs)) := by
    cases negative with
    | true =>
      exact readScalar_sign (whole ++ c :: cs) (by decide) (by decide) (by decide)
    | false =>
      refine readScalar_eq_readNumber cs h.isWhole.isDigits.isDigit ?_ ?_ ?_ ?_
      · rcases hc with rfl | rfl | rfl <;> decide
      · right
        rcases hc with rfl | rfl | rfl <;> decide
      · rcases hc with rfl | rfl | rfl <;> decide
      · rcases hc with rfl | rfl | rfl <;> decide
  rw [← hnumber, ← hscalar]
  obtain ⟨d, ds, hwhole, hd⟩ := h.isWhole.isDigits.exists_cons
  rw [hwhole]
  cases negative with
  | true => exact readValue_scalar fuel _ (by decide)
  | false =>
    refine readValue_scalar fuel _ ⟨?_, ?_, ?_, ?_⟩
    all_goals
      rintro rfl
      revert hd
      decide

/-! ## The texts that are written -/

/-- The number that decimal digits write. -/
theorem valueOfDigits_ofNat (n : ℕ) : valueOfDigits 10 (Text.ofNat n) = n := by
  have hfold : ∀ digits : List Char, (∀ c ∈ digits, c.isDigit = true) → ∀ start,
      digits.foldl (fun n d => 10 * n + (Json.hexValue? d).getD 0) start = Nat.ofDigitChars 10 digits start := by
    intro digits
    induction digits with
    | nil => exact fun _ _ => rfl
    | cons c cs ih =>
      intro hdigits start
      have hc : (Json.hexValue? c).getD 0 = c.toNat - '0'.toNat := by
        rw [Json.hexValue?, if_pos (hdigits c List.mem_cons_self)]
        rfl
      rw [List.foldl_cons, hc, ih (fun d hd => hdigits d (List.mem_cons_of_mem c hd)), Nat.ofDigitChars_cons]
  unfold valueOfDigits
  rw [hfold _ (Text.isDigits_ofNat n).isDigit]
  exact Nat.ofDigitChars_ten_toDigits

theorem isNumeral_ofNat (n : ℕ) : IsNumeral (Text.ofNat n) [] [] :=
  ⟨Text.isWhole_ofNat n, .inl rfl, .inl rfl⟩

/-- An integer that is not too long is read back at the end of a line. -/
theorem readValue_ofInt (fuel : ℕ) (n : ℤ) (rest : List Char) :
    readValue (fuel + 1) (Text.ofInt n ++ '\n' :: rest)
      = if Text.digitLimit < (Text.ofNat n.natAbs).length then .error .tooLong
        else .ok (.integer n, '\n' :: rest) := by
  have htext : Text.ofInt n = minusIf (decide (n < 0)) ++ Text.ofNat n.natAbs := by
    unfold Text.ofInt minusIf
    by_cases hneg : n < 0
    · simp [hneg]
    · simp [hneg]
  have hread := readValue_numeral (isNumeral_ofNat n.natAbs) (decide (n < 0)) fuel rest
  simp only [List.nil_append] at hread
  rw [htext, List.append_assoc, hread]
  unfold Decimal.value Decimal.integer
  simp only [List.isEmpty_nil, Bool.and_self, if_true, valueOfDigits_ofNat]
  split
  · rfl
  · have hvalue : (if minusIf (decide (n < 0)) = ['-'] then -(n.natAbs : ℤ) else (n.natAbs : ℤ)) = n := by
      by_cases hneg : n < 0
      · have habs : -(n.natAbs : ℤ) = n := by omega
        rw [decide_eq_true hneg]
        exact habs
      · have habs : (n.natAbs : ℤ) = n := by omega
        rw [decide_eq_false hneg]
        exact habs
    rw [hvalue]
    rfl

/-- What starts with neither a digit nor a mark of another value is read as a number. -/
theorem readValue_word (fuel : ℕ) {c : Char} (cs : List Char) (hc : c.isDigit = false)
    (hfirst : c ≠ ':' ∧ c ≠ 't' ∧ c ≠ 'f' ∧ c ≠ '"' ∧ c ≠ '\'' ∧ c ≠ '[' ∧ c ≠ '\x7b') :
    readValue (fuel + 1) (c :: cs) = readNumber (c :: cs) := by
  obtain ⟨hcolon, hfalse, htrue, hstring⟩ := hfirst
  rw [readValue_scalar fuel cs hstring]
  exact readScalar_sign cs hc hcolon ⟨hfalse, htrue⟩

/-- A number is read back at the end of a line. -/
theorem readValue_render {x : Binary64} (hx : x.Usual) (fuel : ℕ) (rest : List Char) :
    readValue (fuel + 1) (x.render Binary64.plainNames ++ '\n' :: rest) = .ok (.float x, '\n' :: rest) := by
  have hread := Binary64.read_render hx
  cases x with
  | nan => exact readValue_word fuel _ rfl (by decide)
  | infinite negative =>
    cases negative with
    | true => exact readValue_word fuel _ rfl (by decide)
    | false => exact readValue_word fuel _ rfl (by decide)
  | finite negative m q =>
    obtain ⟨whole, fraction, exponent, htext, hdecimal⟩ := Binary64.exists_isDecimal_magnitude m q
    have hnumeral : IsNumeral whole fraction exponent :=
      ⟨hdecimal.isWhole, hdecimal.isFraction, hdecimal.isExponent⟩
    have hmarked : (fraction.isEmpty && exponent.isEmpty) = false := by
      rw [Bool.and_eq_false_iff, List.isEmpty_eq_false_iff, List.isEmpty_eq_false_iff]
      exact hdecimal.marked
    have hrender : (Binary64.finite negative m q).render Binary64.plainNames
        = minusIf negative ++ whole ++ fraction ++ exponent := by
      cases negative with
      | true =>
        show '-' :: Binary64.magnitudeText m q = _
        rw [htext]
        rfl
      | false => exact htext
    have hvalue : Decimal.value ⟨minusIf negative, whole, fraction, exponent⟩
        = .ok (.float (.finite negative m q)) := by
      unfold Decimal.value
      dsimp only
      rw [hmarked, if_neg Bool.false_ne_true, ← hrender, hread]
      rfl
    rw [hrender, List.append_assoc, List.append_assoc, List.append_assoc,
      readValue_numeral hnumeral negative fuel rest, hvalue]
    rfl

end MqttProfile.Toml
