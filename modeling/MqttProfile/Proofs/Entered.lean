import Mathlib.Data.List.DropRight
import MqttProfile.Assembly.Check

/-!
# Entered values

What a form calls given, missing and trimmed, stated on the values themselves.  Trimming takes the blanks
off both ends of a text and leaves every other value alone, so a value that was trimmed once stays as it
is, and a text that was given is still given afterwards.  What is shown for a value that is true is some text.
-/

namespace MqttProfile

namespace Text

/-! ## Trimming texts -/

/-- Stripping drops from the front first and then from the back. -/
theorem stripBy_eq_rdropWhile (p : Char → Bool) (cs : List Char) :
    stripBy p cs = List.rdropWhile p (cs.dropWhile p) := rfl

/-- The text between the blanks starts and ends with none, so stripping it again changes nothing. -/
theorem stripBy_stripBy (p : Char → Bool) (cs : List Char) :
    stripBy p (stripBy p cs) = stripBy p cs := by
  rw [stripBy_eq_rdropWhile p (stripBy p cs), stripBy_eq_rdropWhile p cs]
  have hfront : (List.rdropWhile p (cs.dropWhile p)).dropWhile p
      = List.rdropWhile p (cs.dropWhile p) := by
    rw [List.dropWhile_eq_self_iff]
    intro hlen
    -- a prefix that is not empty starts like the whole list
    have hfirst := List.rdropWhile_prefix p (cs.dropWhile p)
    rw [hfirst.getElem hlen]
    exact List.dropWhile_get_zero_not p cs _
  rw [hfront, List.rdropWhile_idempotent]

@[simp]
theorem trim_trim (s : String) : trim (trim s) = trim s := by
  rw [trim, trim, String.toList_ofList, stripBy_stripBy]

/-- A text without blanks stays as it is. -/
theorem trim_of_not_blank {s : String} (h : ∀ c ∈ s.toList, isBlank c = false) : trim s = s := by
  have hfront : s.toList.dropWhile isBlank = s.toList := by
    rw [List.dropWhile_eq_self_iff]
    intro hlen
    rw [h _ (List.getElem_mem hlen)]
    exact Bool.false_ne_true
  have hback : List.rdropWhile isBlank s.toList = s.toList := by
    rw [List.rdropWhile_eq_self_iff]
    intro hne
    rw [h _ (List.getLast_mem hne)]
    exact Bool.false_ne_true
  rw [trim, stripBy_eq_rdropWhile, hfront, hback, String.ofList_toList]

/-- A text is stripped to nothing exactly when it consists of what is stripped. -/
theorem stripBy_eq_nil_iff (p : Char → Bool) (cs : List Char) :
    stripBy p cs = [] ↔ ∀ c ∈ cs, p c = true := by
  rw [stripBy_eq_rdropWhile, List.rdropWhile_eq_nil_iff]
  constructor
  · intro h c hc
    -- what was dropped from the front is stripped for that reason alone
    rw [← List.takeWhile_append_dropWhile (p := p) (l := cs), List.mem_append] at hc
    rcases hc with hc | hc
    · exact List.mem_takeWhile_imp hc
    · exact h c hc
  · intro h c hc
    exact h c (List.dropWhile_subset p hc)

theorem trim_eq_empty_iff (s : String) : trim s = "" ↔ blank s = true := by
  rw [trim, String.ofList_eq_empty_iff, stripBy_eq_nil_iff, blank, List.all_eq_true]

theorem blank_trim_iff (s : String) : blank (trim s) = true ↔ blank s = true := by
  rw [← trim_eq_empty_iff, trim_trim, trim_eq_empty_iff]

end Text

namespace Json

/-! ## Given values -/

/-- A value that was given: anything but null and a text of blanks. -/
def Given : Json → Prop
  | .null => False
  | .str s => ∃ c ∈ s.toList, Text.isBlank c = false
  | _ => True

/-- A value that a text field can hold: null or a text. -/
def IsText : Json → Prop
  | .null | .str _ => True
  | _ => False

theorem given_str_iff (s : String) : Given (.str s) ↔ Text.blank s = false := by
  rw [Given, Text.blank, List.all_eq_false]
  simp

theorem missing_eq_false_iff (value : Json) : value.missing = false ↔ value.Given := by
  cases value with
  | str s => rw [given_str_iff]; rfl
  | null => simp [missing, Given]
  | bool _ | int _ | float _ | arr _ | obj _ => simp [missing, Given]

theorem missing_eq_true_iff (value : Json) : value.missing = true ↔ ¬ value.Given := by
  rw [← missing_eq_false_iff, Bool.not_eq_false]

theorem truthy_str_iff (s : String) : truthy (.str s) = true ↔ s ≠ "" := by
  rw [truthy, Bool.not_eq_true', String.isEmpty_eq_false_iff]

@[simp]
theorem trimmed_trimmed (value : Json) : value.trimmed.trimmed = value.trimmed := by
  cases value with
  | str s => rw [trimmed, trimmed, Text.trim_trim]
  | null | bool _ | int _ | float _ | arr _ | obj _ => rfl

theorem truthy_trim_iff (s : String) : truthy (.str (Text.trim s)) = true ↔ Given (.str s) := by
  rw [truthy_str_iff, Ne, Text.trim_eq_empty_iff, given_str_iff, Bool.not_eq_true]

theorem given_trimmed_iff (value : Json) : value.trimmed.Given ↔ value.Given := by
  cases value with
  | str s =>
    rw [trimmed, given_str_iff, given_str_iff, ← Bool.not_eq_true, ← Bool.not_eq_true,
      Text.blank_trim_iff]
  | null | bool _ | int _ | float _ | arr _ | obj _ => rfl

theorem IsText.writable {value : Json} (h : value.IsText) : value.writable = true := by
  cases value with
  | null | str _ => rfl
  | bool _ | int _ | float _ | arr _ | obj _ => exact h.elim

theorem IsText.trimmed {value : Json} (h : value.IsText) : value.trimmed.IsText := by
  cases value with
  | null | str _ => trivial
  | bool _ | int _ | float _ | arr _ | obj _ => exact h.elim

/-- A text field that is filled in holds a text with a character that is not blank. -/
theorem IsText.exists_str {value : Json} (htext : value.IsText) (hgiven : value.Given) :
    ∃ s, value = .str s ∧ Given (.str s) := by
  cases value with
  | str s => exact ⟨s, rfl, hgiven⟩
  | null => exact hgiven.elim
  | bool _ | int _ | float _ | arr _ | obj _ => exact htext.elim

theorem orElse_of_truthy {value : Json} (h : value.truthy = true) (default : Json) :
    value.orElse default = value := by
  rw [orElse, if_pos h]

theorem orElse_of_not_truthy {value : Json} (h : value.truthy = false) (default : Json) :
    value.orElse default = default := by
  rw [orElse, if_neg (by rw [h]; exact Bool.false_ne_true)]

theorem truthy_orElse (value default : Json) :
    (value.orElse default).truthy = (value.truthy || default.truthy) := by
  cases htruthy : value.truthy with
  | true => rw [orElse_of_truthy htruthy, htruthy, Bool.true_or]
  | false => rw [orElse_of_not_truthy htruthy, Bool.false_or]

/-- A value that was replaced by null where it is false is false only if it is null. -/
theorem orNull_eq_null_iff (value : Json) : value.orNull = .null ↔ value.orNull.truthy = false := by
  constructor
  · intro hnull
    rw [hnull]
    rfl
  · intro hfalse
    cases htruthy : value.truthy with
    | true =>
      rw [orNull, orElse_of_truthy htruthy, htruthy] at hfalse
      cases hfalse
    | false => exact orElse_of_not_truthy htruthy .null

/-- Trimming leaves something of a text exactly when it was given. -/
theorem IsText.truthy_trimmed_iff {value : Json} (h : value.IsText) :
    value.trimmed.truthy = true ↔ value.Given := by
  cases value with
  | null => exact iff_of_false Bool.false_ne_true id
  | str s => exact truthy_trim_iff s
  | bool _ | int _ | float _ | arr _ | obj _ => exact h.elim

/-- Of the texts only the empty one is handed over as null. -/
theorem IsText.orNull_ne_null_iff {value : Json} (h : value.IsText) :
    value.orNull ≠ .null ↔ ∃ s, value = .str s ∧ s ≠ "" := by
  cases value with
  | null =>
    rw [orNull, orElse_of_not_truthy rfl]
    constructor
    · intro hne
      exact absurd rfl hne
    · intro hexists
      rcases hexists with ⟨s, hs, -⟩
      cases hs
  | str s =>
    by_cases hs : s = ""
    · subst hs
      rw [orNull, orElse_of_not_truthy (by decide)]
      constructor
      · intro hne
        exact absurd rfl hne
      · intro hexists
        rcases hexists with ⟨t, ht, hne⟩
        cases ht
        exact absurd rfl hne
    · rw [orNull, orElse_of_truthy ((truthy_str_iff s).mpr hs)]
      constructor
      · intro _
        exact ⟨s, rfl, hs⟩
      · intro _ hnull
        cases hnull
  | bool _ | int _ | float _ | arr _ | obj _ => exact h.elim

theorem Given.ne_empty {s : String} (h : Given (.str s)) : s ≠ "" := by
  rintro rfl
  obtain ⟨c, hc, -⟩ := h
  simp at hc

theorem Given.orNull_eq {s : String} (h : Given (.str s)) : (Json.str s).orNull = .str s := by
  rw [orNull, orElse_of_truthy ((truthy_str_iff s).mpr h.ne_empty)]

/-! ## Shown values -/

/-- Inside a message every value leaves some text. -/
theorem displayNested_ne_nil (value : Json) : value.displayNested ≠ [] := by
  cases value with
  | null => decide
  | bool b => cases b <;> decide
  | int n =>
    rw [displayNested, Text.ofInt]
    split
    · exact List.cons_ne_nil _ _
    · exact Nat.toDigits_ne_nil
  | float x =>
    rw [displayNested]
    exact Binary64.render_plainNames_ne_nil x
  | str s => exact List.cons_ne_nil _ _
  | arr items => cases items <;> exact List.cons_ne_nil _ _
  | obj members => cases members <;> exact List.cons_ne_nil _ _

/-- A value that is true is shown by a text that is not empty. -/
theorem display_ne_empty {value : Json} (h : value.truthy = true) : value.display ≠ "" := by
  cases value with
  | str s => exact (truthy_str_iff s).mp h
  | null | bool _ | int _ | float _ | arr _ | obj _ =>
    rw [display, Ne, String.ofList_eq_empty_iff]
    · exact displayNested_ne_nil _
    · intro s hs
      cases hs

theorem eq_display_of_shown {value : Json} {text : String} (h : value.shown = .ok text) :
    text = value.display := by
  rw [shown] at h
  split at h
  · cases h
    rfl
  · cases h

end Json

end MqttProfile
