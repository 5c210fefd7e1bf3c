import Mathlib.Data.List.Basic
import MqttProfile.Toml.Document

/-!
# Texts between quotes

A text that is put between quotes as it is, at the end of a line, is read back only if it is plain: without
quotes, backslashes and control characters.  This is not just a matter of what may stand in a string: a quote in
the text may end the string early or, at its front, open one of several lines that goes on behind the line.

* `readString_plain` says that plain texts are read back;
* `readBasic_before_quote` says that nothing but a plain text is read back by a string of one line;
* `not_reads_opening` says that nothing is read back by a string of several lines that was opened by accident;
* `plain_of_readString` puts these together.
-/

namespace MqttProfile.Toml

/-- A text that may stand between quotes as it is. -/
def Plain (cs : List Char) : Prop :=
  ∀ c ∈ cs, c ≠ '"' ∧ c ≠ '\\' ∧ isForbidden c = false

instance : DecidablePred Plain := fun cs =>
  List.decidableBAll (fun c => c ≠ '"' ∧ c ≠ '\\' ∧ isForbidden c = false) cs

theorem plain_nil : Plain [] := by
  intro c hc
  cases hc

/-! ## Plain texts -/

/-- A plain text is read up to the quote behind it. -/
theorem readBasic_plain {u : List Char} (hu : Plain u) (v : List Char) :
    readBasic (u ++ '"' :: v) = some (u, v) := by
  induction u with
  | nil => rfl
  | cons c u ih =>
    obtain ⟨hquote, hslash, hallowed⟩ := hu c List.mem_cons_self
    have hrest := ih fun d hd => hu d (List.mem_cons_of_mem c hd)
    rw [List.cons_append, readBasic.eq_def]
    split
    · rename_i heq
      cases heq
    · rename_i heq
      exact absurd (List.head_eq_of_cons_eq heq) hquote
    · rename_i heq
      exact absurd (List.head_eq_of_cons_eq heq) hslash
    · rename_i heq
      exact absurd (List.head_eq_of_cons_eq heq) hslash
    · rename_i heq
      exact absurd (List.head_eq_of_cons_eq heq) hslash
    · rename_i heq
      cases heq
      rw [hallowed, if_neg Bool.false_ne_true, hrest]
      rfl

/-- A plain text between quotes is read back at the end of a line. -/
theorem readString_plain {u : List Char} (hu : Plain u) (v : List Char) :
    readString ('"' :: (u ++ '"' :: '\n' :: v)) = some (u, '\n' :: v) := by
  have hbasic := readBasic_plain hu ('\n' :: v)
  unfold readString
  split
  · -- no plain text starts with a quote, and no third quote follows an empty one
    rename_i heq
    cases u with
    | nil => cases heq
    | cons c u =>
      have hc := List.head_eq_of_cons_eq (List.cons.inj heq).2
      exact absurd hc (hu c List.mem_cons_self).1
  · rename_i heq
    cases heq
    exact hbasic
  · rename_i heq
    cases heq
  · rename_i heq
    cases heq
  · rename_i _ hquote _ _
    exact absurd rfl (hquote _)

/-! ## What one step of a reader uses up -/

/-- What a step of a reader uses up, and what it makes of that: a quote is used up only as the last character, and
only to make a quote. -/
structure Step (used made : List Char) : Prop where
  ne_nil : used ≠ []
  shorter : made.length ≤ used.length
  quote : '"' ∉ used ∨ ∃ front, used = front ++ ['"'] ∧ '"' ∉ front ∧ made = ['"']

theorem step_single {c : Char} (hc : c ≠ '"') {made : List Char} (hmade : made.length ≤ 1) : Step [c] made :=
  ⟨List.cons_ne_nil c [], hmade, .inl fun hmem => hc (List.mem_singleton.mp hmem).symm⟩

/-- An escape of two characters is used up with the backslash. -/
theorem step_escape {c d : Char} (h : shortEscape? c = some d) : Step ['\\', c] [d] := by
  refine ⟨List.cons_ne_nil _ _, by simp, ?_⟩
  by_cases hc : c = '"'
  · subst hc
    have hd : d = '"' := by
      have hshort : shortEscape? '"' = some '"' := by decide
      rw [hshort] at h
      exact (Option.some.inj h).symm
    exact .inr ⟨['\\'], rfl, by decide, by rw [hd]⟩
  · refine .inl fun hmem => ?_
    rcases List.mem_cons.mp hmem with hslash | hmem
    · cases hslash
    · exact hc (List.mem_singleton.mp hmem).symm

theorem quote_not_mem_of_unitOfHex {a b c d : Char} {n : ℕ} (h : Json.unitOfHex? a b c d = some n) :
    '"' ∉ [a, b, c, d] := by
  have hnone : Json.hexValue? '"' = none := by decide
  intro hmem
  simp only [List.mem_cons, List.not_mem_nil, or_false] at hmem
  rcases hmem with rfl | rfl | rfl | rfl <;> simp [Json.unitOfHex?, hnone] at h

/-- An escape of four hexadecimal digits is used up with its mark. -/
theorem step_hex4 {a b c d e : Char} (h : charOfHex4? a b c d = some e) :
    Step ['\\', 'u', a, b, c, d] [e] := by
  obtain ⟨n, hn, -⟩ := Option.bind_eq_some_iff.mp h
  have hquote := quote_not_mem_of_unitOfHex hn
  refine ⟨List.cons_ne_nil _ _, by simp, .inl ?_⟩
  simpa using hquote

/-- So is one of eight. -/
theorem step_hex8 {a b c d e f g h i : Char}
    (hread : charOfHex8? (Json.unitOfHex? a b c d) (Json.unitOfHex? e f g h) = some i) :
    Step ['\\', 'U', a, b, c, d, e, f, g, h] [i] := by
  obtain ⟨high, hhigh, hread⟩ := Option.bind_eq_some_iff.mp hread
  obtain ⟨low, hlow, -⟩ := Option.bind_eq_some_iff.mp hread
  have hquoteHigh := quote_not_mem_of_unitOfHex hhigh
  have hquoteLow := quote_not_mem_of_unitOfHex hlow
  refine ⟨List.cons_ne_nil _ _, by simp, .inl ?_⟩
  simp only [List.mem_cons, List.not_mem_nil, or_false, not_or] at hquoteHigh hquoteLow ⊢
  exact ⟨by decide, by decide, hquoteHigh.1, hquoteHigh.2.1, hquoteHigh.2.2.1, hquoteHigh.2.2.2, hquoteLow⟩

/-- A step that starts in front of a quote ends in front of it or right behind it. -/
theorem Step.split {used made a b left : List Char} (h : Step used made) (heq : a ++ '"' :: b = used ++ left) :
    (∃ a', a = used ++ a' ∧ left = a' ++ '"' :: b) ∨ used = a ++ ['"'] ∧ made = ['"'] ∧ left = b := by
  rcases List.append_eq_append_iff.mp heq with ⟨more, hused, hleft⟩ | ⟨a', ha, hleft⟩
  · cases more with
    | nil =>
      rw [List.append_nil] at hused
      exact .inl ⟨[], by rw [hused, List.append_nil], hleft.symm⟩
    | cons c more =>
      rw [List.cons_append, List.cons.injEq] at hleft
      obtain ⟨rfl, hleft⟩ := hleft
      -- the quote is used up, so it is the last character
      have hmem : '"' ∈ used := by
        rw [hused]
        exact List.mem_append_right a List.mem_cons_self
      obtain ⟨front, hfront, hnone, hmade⟩ := h.quote.resolve_left (not_not.mpr hmem)
      rcases List.eq_nil_or_concat more with rfl | ⟨more, last, rfl⟩
      · exact .inr ⟨hused, hmade, hleft.symm⟩
      · have hconcat : (a ++ '"' :: more) ++ [last] = front ++ ['"'] := by
          rw [← hfront, hused, List.concat_eq_append, List.append_assoc, List.cons_append]
        have hsame := (List.append_inj' hconcat rfl).1
        rw [← hsame] at hnone
        exact absurd (List.mem_append_right a List.mem_cons_self) hnone
  · exact .inl ⟨a', ha, hleft⟩

/-- A string of one line ends, or a step is read. -/
theorem readBasic_cases {cs body rest : List Char} (h : readBasic cs = some (body, rest)) :
    body = [] ∧ cs = '"' :: rest ∨
      ∃ used c left body', cs = used ++ left ∧ body = c :: body' ∧ readBasic left = some (body', rest)
        ∧ Step used [c] ∧ (Plain used ∧ used = [c] ∨ 2 ≤ used.length) := by
  rw [readBasic.eq_def] at h
  split at h
  · cases h
  · cases h
    exact .inl ⟨rfl, rfl⟩
  · rename_i a b c d left
    obtain ⟨e, he, h⟩ := Option.bind_eq_some_iff.mp h
    obtain ⟨⟨body', rest'⟩, hleft, heq⟩ := Option.map_eq_some_iff.mp h
    cases heq
    exact .inr ⟨['\\', 'u', a, b, c, d], e, left, body', rfl, rfl, hleft, step_hex4 he, .inr (by simp)⟩
  · rename_i a b c d e f g i left
    obtain ⟨j, hj, h⟩ := Option.bind_eq_some_iff.mp h
    obtain ⟨⟨body', rest'⟩, hleft, heq⟩ := Option.map_eq_some_iff.mp h
    cases heq
    exact .inr ⟨['\\', 'U', a, b, c, d, e, f, g, i], j, left, body', rfl, rfl, hleft, step_hex8 hj,
      .inr (by simp)⟩
  · rename_i c left _ _
    obtain ⟨d, hd, h⟩ := Option.bind_eq_some_iff.mp h
    obtain ⟨⟨body', rest'⟩, hleft, heq⟩ := Option.map_eq_some_iff.mp h
    cases heq
    exact .inr ⟨['\\', c], d, left, body', rfl, rfl, hleft, step_escape hd, .inr (by simp)⟩
  · rename_i c left hquote _ _ hslash
    have hc : c ≠ '"' := fun heq => hquote heq
    split at h
    · cases h
    · rename_i hallowed
      obtain ⟨⟨body', rest'⟩, hleft, heq⟩ := Option.map_eq_some_iff.mp h
      cases heq
      refine .inr ⟨[c], c, left, body', rfl, rfl, hleft, step_single hc (Nat.le_refl 1), .inl ⟨?_, rfl⟩⟩
      have hslash' : c ≠ '\\' := by
        rintro rfl
        cases left with
        | nil => cases hleft
        | cons d left => exact hslash _ _ rfl rfl
      intro d hd
      rw [List.mem_singleton.mp hd]
      exact ⟨hc, hslash', Bool.eq_false_iff.mpr hallowed⟩

/-! ## Strings of one line -/

/-- A string of one line that is read off a text, the quote behind it and the end of the line is shorter than the
text, unless it is the text and the text is plain. -/
theorem readBasic_before_quote {u v body rest : List Char}
    (h : readBasic (u ++ '"' :: '\n' :: v) = some (body, rest)) : body.length < u.length ∨ Plain u ∧ body = u := by
  induction hn : u.length using Nat.strongRecOn generalizing u body with
  | ind n ih =>
    rcases readBasic_cases h with ⟨rfl, hclosed⟩ | ⟨used, c, left, body', hused, rfl, hleft, hstep, hplain⟩
    · cases u with
      | nil => exact .inr ⟨plain_nil, rfl⟩
      | cons c u =>
        left
        rw [← hn, List.length_cons]
        exact Nat.succ_pos _
    · have hpos : 0 < used.length := List.length_pos_iff_ne_nil.mpr hstep.ne_nil
      rcases hstep.split hused with ⟨u', rfl, rfl⟩ | ⟨-, -, rfl⟩
      · rw [List.length_append] at hn
        rcases ih u'.length (by omega) hleft rfl with hshorter | ⟨hplain', rfl⟩
        · left
          rw [List.length_cons]
          omega
        · rcases hplain with ⟨hplain, rfl⟩ | hlong
          · refine .inr ⟨fun d hd => ?_, rfl⟩
            rcases List.mem_append.mp hd with hmem | hmem
            · exact hplain d hmem
            · exact hplain' d hmem
          · left
            rw [List.length_cons]
            omega
      · -- the end of the line may not stand in the string
        rw [readBasic.eq_def] at hleft
        cases hleft

/-! ## Strings of several lines -/

/-- What stands behind a line in which a string of several lines is still open. -/
def Continues (cs : List Char) : Prop :=
  ∀ c ∈ cs.head?, c ≠ '"' ∧ c ≠ '\\' ∧ c ≠ '\r'

/-- What is read in a string of several lines: its end, or a step and what is read behind that.  No lines are being
joined behind what a step makes. -/
inductive StepOrEnd (rest : List Char) : List Char → List Char → Prop
  | ends : StepOrEnd rest ('"' :: '"' :: '"' :: rest) []
  | step {used made left body : List Char} {joining : Joining} (hstep : Step used made)
      (hread : readBasicLines joining left = some (body, rest)) (hjoining : made ≠ [] → joining = .none) :
      StepOrEnd rest (used ++ left) (made ++ body)

theorem stepOrEnd_dropped {used left body rest : List Char} {joining : Joining} (hne : used ≠ [])
    (hquote : '"' ∉ used) (h : readBasicLines joining left = some (body, rest)) :
    StepOrEnd rest (used ++ left) body := by
  have hstep : Step used [] := ⟨hne, Nat.zero_le _, .inl hquote⟩
  exact .step hstep h fun hmade => absurd rfl hmade

/-- A character may be made in front of what is read. -/
theorem stepOrEnd_made {used left body rest : List Char} {c : Char} (hstep : Step used [c])
    (h : (readBasicLines .none left).map (consChar c) = some (body, rest)) :
    StepOrEnd rest (used ++ left) body := by
  obtain ⟨⟨body', rest'⟩, hleft, heq⟩ := Option.map_eq_some_iff.mp h
  cases heq
  exact .step hstep hleft fun _ => rfl

theorem ne_quote_of_isGap {c : Char} (h : isGap c = true) : c ≠ '"' := by
  rintro rfl
  revert h
  decide

/-- What is read in a string of several lines starts with a step, unless the string ends. -/
theorem stepOrEnd_of_readBasicLines {joining : Joining} {cs body rest : List Char}
    (h : readBasicLines joining cs = some (body, rest)) : StepOrEnd rest cs body := by
  have drop_one : ∀ {c : Char} {left : List Char} {joining}, c ≠ '"' →
      readBasicLines joining left = some (body, rest) → StepOrEnd rest (c :: left) body :=
    fun hc hleft => stepOrEnd_dropped (List.cons_ne_nil _ _) (fun hmem => hc (List.mem_singleton.mp hmem).symm) hleft
  have drop_slash : ∀ {c : Char} {left : List Char} {joining}, c ≠ '"' →
      readBasicLines joining left = some (body, rest) → StepOrEnd rest ('\\' :: c :: left) body :=
    fun {c left joining} hc hleft => by
      have hquote : '"' ∉ ['\\', c] := by simpa using hc.symm
      exact stepOrEnd_dropped (List.cons_ne_nil _ _) hquote hleft
  rw [readBasicLines.eq_def] at h
  split at h
  · cases h
  · rename_i c left
    by_cases hlineEnd : joining = .lineEnd
    · rw [if_pos hlineEnd] at h
      split at h
      · rename_i hgap
        exact drop_one (ne_quote_of_isGap hgap) h
      · split at h
        · rename_i hfeed
          exact drop_one (hfeed ▸ by decide) h
        · cases h
    rw [if_neg hlineEnd] at h
    by_cases hblank : joining = .nextText ∧ (isGap c = true ∨ c = '\n')
    · rw [if_pos hblank] at h
      rcases hblank.2 with hgap | hfeed
      · exact drop_one (ne_quote_of_isGap hgap) h
      · exact drop_one (hfeed ▸ by decide) h
    rw [if_neg hblank] at h
    by_cases hquote : c = '"'
    · subst hquote
      rw [if_pos rfl] at h
      split at h
      · cases h
        exact .ends
      · have hstep : Step ['"'] ['"'] :=
          ⟨List.cons_ne_nil _ _, Nat.le_refl 1, .inr ⟨[], rfl, List.not_mem_nil, rfl⟩⟩
        exact stepOrEnd_made hstep h
    rw [if_neg hquote] at h
    by_cases hslash : c = '\\'
    · subst hslash
      rw [if_pos rfl] at h
      split at h
      · obtain ⟨e, he, h⟩ := Option.bind_eq_some_iff.mp h
        exact stepOrEnd_made (step_hex4 he) h
      · obtain ⟨e, he, h⟩ := Option.bind_eq_some_iff.mp h
        exact stepOrEnd_made (step_hex8 he) h
      · rename_i d left _ _
        split at h
        · rename_i hfeed
          exact drop_slash (hfeed ▸ by decide) h
        · split at h
          · rename_i hgap
            exact drop_slash (ne_quote_of_isGap hgap) h
          · obtain ⟨e, he, h⟩ := Option.bind_eq_some_iff.mp h
            exact stepOrEnd_made (step_escape he) h
      · cases h
    rw [if_neg hslash] at h
    split at h
    · cases h
    · exact stepOrEnd_made (step_single hquote (Nat.le_refl 1)) h

/-- An ordinary character is read as itself. -/
theorem readBasicLines_ordinary {c : Char} {cs body rest : List Char} (hquote : c ≠ '"') (hslash : c ≠ '\\')
    (h : readBasicLines .none (c :: cs) = some (body, rest)) :
    ∃ body', body = c :: body' ∧ readBasicLines .none cs = some (body', rest) := by
  rw [readBasicLines.eq_def] at h
  simp only [reduceCtorEq, false_and, if_false, hquote, hslash] at h
  split at h
  · cases h
  · obtain ⟨⟨body', rest'⟩, hcs, heq⟩ := Option.map_eq_some_iff.mp h
    cases heq
    exact ⟨body', rfl, hcs⟩

/-- A string of several lines that goes on behind a line holds the end of the line and what comes next. -/
theorem exists_of_readBasicLines_lineEnd {cs body rest : List Char} (hcs : Continues cs)
    (h : readBasicLines .none ('\n' :: cs) = some (body, rest)) :
    ∃ c cs' back, cs = c :: cs' ∧ body = '\n' :: c :: back := by
  obtain ⟨body', rfl, hnext⟩ := readBasicLines_ordinary (by decide) (by decide) h
  cases cs with
  | nil => cases hnext
  | cons c cs =>
    obtain ⟨hquote, hslash, -⟩ := hcs c rfl
    obtain ⟨back, rfl, -⟩ := readBasicLines_ordinary hquote hslash hnext
    exact ⟨c, cs, back, rfl, rfl⟩

/-- A string of several lines that is read off a text, the quote behind it and the end of the line is shorter than the
text by two, or it holds the quote, the end of the line and what comes next, no further back than the text. -/
theorem readBasicLines_before_quote {joining : Joining} {u cs body rest : List Char} (hcs : Continues cs)
    (h : readBasicLines joining (u ++ '"' :: '\n' :: cs) = some (body, rest)) :
    body.length + 2 ≤ u.length ∨ ∃ c cs' front back, cs = c :: cs' ∧ body = front ++ '"' :: '\n' :: c :: back
      ∧ front.length ≤ u.length := by
  induction hn : u.length using Nat.strongRecOn generalizing joining u body with
  | ind n ih =>
    generalize htext : u ++ '"' :: '\n' :: cs = text at h
    cases stepOrEnd_of_readBasicLines h with
    | ends =>
      -- three quotes do not fit into less than two characters and the quote behind them
      left
      rw [← hn]
      match u, htext with
      | _ :: _ :: _, _ => simp
    | @step used made left body joining' hstep hread hjoining =>
      have hpos : 0 < used.length := List.length_pos_iff_ne_nil.mpr hstep.ne_nil
      have hshorter := hstep.shorter
      rcases hstep.split htext with ⟨u', rfl, rfl⟩ | ⟨-, rfl, rfl⟩
      · rw [List.length_append] at hn
        rcases ih u'.length (by omega) hread rfl with hearly | ⟨c, cs', front, back, hc, rfl, hfront⟩
        · left
          rw [List.length_append]
          omega
        · refine .inr ⟨c, cs', made ++ front, back, hc, by rw [List.append_assoc], ?_⟩
          rw [List.length_append]
          omega
      · rw [hjoining (List.cons_ne_nil _ _)] at hread
        obtain ⟨c, cs', back, hc, rfl⟩ := exists_of_readBasicLines_lineEnd hcs hread
        exact .inr ⟨c, cs', [], back, hc, rfl, Nat.zero_le _⟩

/-! ## Ends of lines -/

/-- A character is kept unless it is a carriage return in front of a line feed. -/
theorem joinLineEnds_cons_of {c : Char} {cs : List Char} (h : c ≠ '\r' ∨ cs.head? ≠ some '\n') :
    joinLineEnds (c :: cs) = c :: joinLineEnds cs := by
  rw [joinLineEnds.eq_def]
  split
  · rename_i heq
    cases heq
    rcases h with h | h <;> exact absurd rfl h
  · rename_i heq
    cases heq
    rfl
  · rename_i heq
    cases heq

theorem joinLineEnds_cons {c : Char} (hc : c ≠ '\r') (cs : List Char) :
    joinLineEnds (c :: cs) = c :: joinLineEnds cs :=
  joinLineEnds_cons_of (.inl hc)

/-- Joining goes no further than a character that is no line feed. -/
theorem joinLineEnds_append {c : Char} (hc : c ≠ '\n') (front back : List Char) :
    joinLineEnds (front ++ c :: back) = joinLineEnds front ++ joinLineEnds (c :: back) := by
  induction hn : front.length using Nat.strongRecOn generalizing front with
  | ind n ih =>
    match front with
    | [] => rfl
    | [d] =>
      have hsingle : joinLineEnds [d] = [d] := joinLineEnds_cons_of (.inr (by simp))
      rw [List.singleton_append, joinLineEnds_cons_of (.inr (by simpa using hc)), hsingle]
      rfl
    | d :: e :: front =>
      by_cases hjoined : d = '\r' ∧ e = '\n'
      · obtain ⟨rfl, rfl⟩ := hjoined
        have hfront := ih front.length (by simp at hn; omega) front rfl
        show '\n' :: joinLineEnds (front ++ c :: back) = '\n' :: joinLineEnds front ++ joinLineEnds (c :: back)
        rw [hfront, List.cons_append]
      · have hkept : ∀ cs, joinLineEnds (d :: e :: cs) = d :: joinLineEnds (e :: cs) := by
          intro cs
          refine joinLineEnds_cons_of ?_
          rw [List.head?_cons, Ne, Ne, Option.some.injEq]
          exact not_and_or.mp hjoined
        have hfront := ih (e :: front).length (by simp at hn ⊢; omega) (e :: front) rfl
        rw [List.cons_append, List.cons_append, hkept, ← List.cons_append, hfront, hkept, List.cons_append]

/-- Joining shortens a text, if it changes it at all. -/
theorem length_joinLineEnds_le (cs : List Char) : (joinLineEnds cs).length ≤ cs.length := by
  fun_induction joinLineEnds cs with
  | case1 rest ih =>
    simp only [List.length_cons]
    omega
  | case2 c rest _ ih =>
    simp only [List.length_cons]
    omega
  | case3 => exact Nat.le_refl 0

/-- Nothing is joined in front of the first carriage return. -/
theorem joinLineEnds_front {front : List Char} (h : ∀ c ∈ front, c ≠ '\r') (cs : List Char) :
    joinLineEnds (front ++ cs) = front ++ joinLineEnds cs := by
  induction front with
  | nil => rfl
  | cons c front ih =>
    rw [List.cons_append, joinLineEnds_cons (h c List.mem_cons_self),
      ih fun d hd => h d (List.mem_cons_of_mem c hd), List.cons_append]

/-- A plain text has no ends of lines to join. -/
theorem joinLineEnds_of_plain {cs : List Char} (h : Plain cs) : joinLineEnds cs = cs := by
  have hreturn : ∀ c ∈ cs, c ≠ '\r' := by
    rintro c hc rfl
    have hforbidden := (h _ hc).2.2
    revert hforbidden
    decide
  have hjoined := joinLineEnds_front hreturn []
  rw [List.append_nil] at hjoined
  rw [hjoined]
  exact List.append_nil cs

/-! ## Strings that are opened by accident -/

/-- Quotes behind the end of a string of several lines are part of it. -/
theorem exists_takeQuotes (body rest : List Char) :
    ∃ quotes, (takeQuotes '"' body rest).1 = body ++ quotes ∧ quotes.length ≤ 2 := by
  unfold takeQuotes
  split
  · split
    · split
      · exact ⟨['"', '"'], rfl, Nat.le_refl 2⟩
      · exact ⟨['"'], rfl, by decide⟩
    · exact ⟨[], (List.append_nil body).symm, by decide⟩
  · split
    · exact ⟨['"'], rfl, by decide⟩
    · exact ⟨[], (List.append_nil body).symm, by decide⟩
  · exact ⟨[], (List.append_nil body).symm, by decide⟩

/-- The end of the line that may follow the opening quotes is all that is dropped in front of a quote. -/
theorem exists_dropLineEnd_append (u cs : List Char) :
    ∃ u', dropLineEnd (u ++ '"' :: cs) = u' ++ '"' :: cs ∧ u'.length ≤ u.length := by
  match u with
  | [] => exact ⟨[], rfl, Nat.le_refl 0⟩
  | c :: u =>
    by_cases hc : c = '\n'
    · subst hc
      exact ⟨u, rfl, Nat.le_succ _⟩
    · refine ⟨c :: u, ?_, Nat.le_refl _⟩
      rw [List.cons_append]
      unfold dropLineEnd
      split
      · rename_i heq
        exact absurd (List.head_eq_of_cons_eq heq) hc
      · rfl

section Opening

variable {s v body rest cs : List Char} {c : Char}

/-- The text that a string of several lines is read as has at most two quotes behind what was read. -/
theorem length_le_of_takeQuotes (heq : (takeQuotes '"' body rest).1 = s) : s.length ≤ body.length + 2 := by
  obtain ⟨quotes, hquotes, htwo⟩ := exists_takeQuotes body rest
  rw [hquotes] at heq
  rw [← heq, List.length_append]
  omega

/-- The text in which a string of several lines is opened does not hold the end of a line with what comes next: it
would hold it again further in front. -/
theorem not_holds_lineEnd (hc : c ≠ '"' ∧ c ≠ '\\' ∧ c ≠ '\r') (hs : joinLineEnds s = '"' :: '"' :: v)
    (h : readBasicLines .none (dropLineEnd (v ++ '"' :: '\n' :: cs)) = some (body, rest))
    (heq : (takeQuotes '"' body rest).1 = s) (front back : List Char) :
    s ≠ front ++ '"' :: '\n' :: c :: back := by
  obtain ⟨quotes, hquotes, -⟩ := exists_takeQuotes body rest
  have hlength := length_le_of_takeQuotes heq
  rw [hquotes] at heq
  induction hn : front.length using Nat.strongRecOn generalizing front back with
  | ind n ih =>
    intro hfound
    obtain ⟨back', hback'⟩ : ∃ back', back' = joinLineEnds back := ⟨_, rfl⟩
    obtain ⟨front', hfront'⟩ : ∃ front', front' = joinLineEnds front := ⟨_, rfl⟩
    have hjoined : '"' :: '"' :: v = front' ++ '"' :: '\n' :: c :: back' := by
      rw [← hs, hfound, joinLineEnds_append (by decide), joinLineEnds_cons (by decide),
        joinLineEnds_cons (by decide), joinLineEnds_cons hc.2.2, hback', hfront']
    have hshorter : front'.length ≤ front.length := hfront' ▸ length_joinLineEnds_le front
    match front', hjoined with
    | [], hjoined => cases hjoined
    | [_], hjoined =>
      -- the end of the line is dropped, so that the text starts with what comes next
      obtain rfl : v = '\n' :: c :: back' := (List.cons.inj (List.cons.inj hjoined).2).2
      obtain ⟨body', rfl, -⟩ := readBasicLines_ordinary hc.1 hc.2.1 h
      rw [← heq, List.cons_append, joinLineEnds_cons hc.2.2] at hs
      exact hc.1 (List.head_eq_of_cons_eq hs)
    | _ :: _ :: front', hjoined =>
      obtain rfl : v = front' ++ '"' :: '\n' :: c :: back' := (List.cons.inj (List.cons.inj hjoined).2).2
      obtain ⟨u, hdropped, hu⟩ := exists_dropLineEnd_append front' ('\n' :: c :: back' ++ '"' :: '\n' :: cs)
      rw [List.append_assoc, List.cons_append, hdropped] at h
      have hlonger : front.length < s.length := by
        rw [hfound, List.length_append]
        simp
      simp only [List.length_cons] at hshorter
      have hnext : Continues (c :: (back' ++ '"' :: '\n' :: cs)) := by
        intro d hd
        cases hd
        exact hc
      rcases readBasicLines_before_quote hnext h with hearly | ⟨d, cs', front₂, back₂, hd, hbody, hfront₂⟩
      · omega
      · cases hd
        refine ih front₂.length (by omega) front₂ (back₂ ++ quotes) rfl ?_
        rw [← heq, hbody]
        simp

/-- A string of several lines that is opened by the first quotes of a text is not read back as this text. -/
theorem not_reads_opening (hcs : Continues cs) (hs : joinLineEnds s = '"' :: '"' :: v)
    (h : readBasicLines .none (dropLineEnd (v ++ '"' :: '\n' :: cs)) = some (body, rest)) :
    (takeQuotes '"' body rest).1 ≠ s := by
  intro heq
  have hlength := length_le_of_takeQuotes heq
  have hjoined : v.length + 2 ≤ s.length := by
    have := length_joinLineEnds_le s
    rw [hs, List.length_cons, List.length_cons] at this
    omega
  obtain ⟨u, hdropped, hu⟩ := exists_dropLineEnd_append v ('\n' :: cs)
  have hread := h
  rw [hdropped] at hread
  rcases readBasicLines_before_quote hcs hread with hearly | ⟨c, cs', front, back, hc, hbody, -⟩
  · omega
  · obtain ⟨quotes, hquotes, -⟩ := exists_takeQuotes body rest
    have hfound : s = front ++ '"' :: '\n' :: c :: (back ++ quotes) := by
      rw [← heq, hquotes, hbody]
      simp
    exact not_holds_lineEnd (hcs c (by rw [hc]; rfl)) hs h heq front _ hfound

end Opening

/-- A text between quotes that is read back at the end of a line is plain. -/
theorem plain_of_readString {s rest cs : List Char} (hcs : Continues cs)
    (h : readString ('"' :: (joinLineEnds s ++ '"' :: '\n' :: cs)) = some (s, rest)) : Plain s := by
  have hlength := length_joinLineEnds_le s
  unfold readString at h
  split at h
  · rename_i left heq
    obtain ⟨⟨body, rest'⟩, hread, htaken⟩ := Option.map_eq_some_iff.mp h
    have htaken' : (takeQuotes '"' body rest').1 = s := congrArg Prod.fst htaken
    generalize hu : joinLineEnds s = u at heq
    exfalso
    match u, heq with
    | [_], heq =>
      -- the string is opened by a quote that is the text, and goes on behind the line
      cases heq
      cases cs with
      | nil => cases hread
      | cons c cs =>
        obtain ⟨hquote, hslash, hreturn⟩ := hcs c rfl
        obtain ⟨body', rfl, -⟩ := readBasicLines_ordinary hquote hslash hread
        obtain ⟨quotes, hquotes, -⟩ := exists_takeQuotes (c :: body') rest'
        rw [← htaken', hquotes, List.cons_append, joinLineEnds_cons hreturn] at hu
        exact hquote (List.head_eq_of_cons_eq hu)
    | _ :: _ :: v, heq =>
      cases heq
      exact not_reads_opening hcs hu hread htaken'
  · rename_i heq
    cases heq
    rcases readBasic_before_quote h with hshorter | ⟨hplain, hsame⟩
    · omega
    · rw [hsame]
      exact hplain
  · rename_i heq
    cases heq
  · rename_i heq
    cases heq
  · cases h

end MqttProfile.Toml
