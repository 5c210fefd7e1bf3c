import MqttProfile.Identifier.Generator
import MqttProfile.Proofs.Entered

/-!
# Drawn characters

Whatever a generator does, what it draws is a letter or a digit of the alphabet.  A drawn identifier
therefore has no blanks, and trimming leaves it as it is.  What is left of a generator depends on the number
of characters that were drawn and on nothing else (`after`).
-/

namespace MqttProfile

/-- A text that was drawn: behind a fixed start there is a number of letters from A to Z, in either case,
and digits. -/
def Json.IsDrawn (value : Json) (start : String) (length : Nat) : Prop :=
  ∃ cs : List Char, value = .str (start ++ String.ofList cs) ∧ cs.length = length
    ∧ ∀ c ∈ cs, c.isAlphanum = true

namespace Generator

/-! ## Positions -/

/-- The generator once a number of characters were drawn from it. -/
def after (g : Generator) (n : Nat) : Generator :=
  (g.drawMany n).2

theorem drawn_draw (g : Generator) : g.draw.2.drawn = g.drawn + 1 := by
  rw [draw]
  cases g.source <;> rfl

theorem drawn_after (g : Generator) (n : Nat) : (g.after n).drawn = g.drawn + n := by
  induction n generalizing g with
  | zero => rfl
  | succ n ih =>
    show (g.draw.2.after n).drawn = g.drawn + (n + 1)
    rw [ih, drawn_draw, Nat.add_assoc, Nat.add_comm 1 n]

theorem after_after (g : Generator) (m n : Nat) : (g.after m).after n = g.after (m + n) := by
  induction m generalizing g with
  | zero => rw [Nat.zero_add]; rfl
  | succ m ih =>
    rw [Nat.succ_add]
    exact ih g.draw.2

theorem generator_credentialsName (g : Generator) : g.credentialsName.2 = g.after 5 := by
  rw [credentialsName, drawAfter, after]

theorem generator_clientId (g : Generator) : g.clientId.2 = g.after 8 := by
  rw [clientId, drawAfter, after]

theorem generator_username (g : Generator) : g.username.2 = g.after 8 := by
  rw [username, drawAfter, after]

/-! ## Characters -/

/-- An output of a twister that is taken is an index of the alphabet. -/
theorem drawIndex_lt (tries : Nat) (state : Identifier.Twister) :
    (drawIndex tries state).1 < alphabetSize := by
  -- by induction on the tries that are left; the last one is taken whatever it is
  induction tries generalizing state with
  | zero =>
    rw [drawIndex]
    exact Nat.mod_lt _ (by decide)
  | succ tries ih =>
    rw [drawIndex]
    dsimp only
    split
    · rename_i hlt
      exact hlt
    · exact ih _

/-- A drawn character is at an index of the alphabet. -/
theorem exists_draw_eq_letter (g : Generator) : ∃ i < alphabetSize, g.draw.1 = letter i := by
  rw [draw]
  cases g.source with
  | stepped start step =>
    have hsize : ((alphabetSize : Nat) : Int) = 62 := rfl
    -- the step may be negative, but a remainder of integers is not
    refine ⟨((start + step * g.drawn) % alphabetSize).toNat, ?_, rfl⟩
    have hpos := Int.emod_nonneg (start + step * g.drawn) (b := alphabetSize) (by decide)
    have hlt := Int.emod_lt_of_pos (start + step * g.drawn) (b := alphabetSize) (by decide)
    omega
  | twister state => exact ⟨_, drawIndex_lt patience state, rfl⟩

/-- All characters that are drawn are at an index of the alphabet. -/
theorem exists_eq_letter_of_mem_drawMany {g : Generator} {n : Nat} {c : Char}
    (h : c ∈ (g.drawMany n).1) : ∃ i < alphabetSize, c = letter i := by
  induction n generalizing g with
  | zero => cases h
  | succ n ih =>
    rw [drawMany] at h
    rcases List.mem_cons.mp h with rfl | h
    · exact exists_draw_eq_letter g
    · exact ih h

theorem length_drawMany (g : Generator) (n : Nat) : (g.drawMany n).1.length = n := by
  induction n generalizing g with
  | zero => rfl
  | succ n ih =>
    rw [drawMany]
    exact congrArg (· + 1) (ih g.draw.2)

theorem isAlphanum_letter {i : Nat} (h : i < alphabetSize) : (letter i).isAlphanum = true := by
  have hall : ∀ i < 62, (letter i).isAlphanum = true := by decide
  exact hall i h

theorem isDrawn_drawAfter (start : String) (length : Nat) (g : Generator) :
    (Json.str (drawAfter start length g).1).IsDrawn start length := by
  refine ⟨(g.drawMany length).1, rfl, length_drawMany g length, fun c hc => ?_⟩
  obtain ⟨i, hi, rfl⟩ := exists_eq_letter_of_mem_drawMany hc
  exact isAlphanum_letter hi

theorem isDrawn_credentialsName (g : Generator) :
    (Json.str g.credentialsName.1).IsDrawn "WebSocket Credentials " 5 :=
  isDrawn_drawAfter "WebSocket Credentials " 5 g

theorem isDrawn_clientId (g : Generator) : (Json.str g.clientId.1).IsDrawn "tbmq_" 8 :=
  isDrawn_drawAfter "tbmq_" 8 g

theorem isDrawn_username (g : Generator) : (Json.str g.username.1).IsDrawn "tbmq_un_" 8 :=
  isDrawn_drawAfter "tbmq_un_" 8 g

theorem isBlank_letter {i : Nat} (h : i < alphabetSize) : Text.isBlank (letter i) = false := by
  have hall : ∀ i < 62, Text.isBlank (letter i) = false := by decide
  exact hall i h

/-- Trimming leaves a generated client identifier as it is. -/
theorem trim_clientId (g : Generator) : Text.trim g.clientId.1 = g.clientId.1 := by
  have htext : g.clientId.1 = clientIdStart ++ String.ofList (g.drawMany 8).1 := rfl
  refine Text.trim_of_not_blank fun c hc => ?_
  rw [htext, String.toList_append, String.toList_ofList, List.mem_append] at hc
  rcases hc with hc | hc
  · have hstart : clientIdStart.toList.all (Text.isBlank · == false) = true := by decide
    exact beq_iff_eq.mp (List.all_eq_true.mp hstart c hc)
  · obtain ⟨i, hi, rfl⟩ := exists_eq_letter_of_mem_drawMany hc
    exact isBlank_letter hi

theorem clientId_ne_empty (g : Generator) : g.clientId.1 ≠ "" := by
  have htext : g.clientId.1 = clientIdStart ++ String.ofList (g.drawMany 8).1 := rfl
  intro hempty
  have hlist := congrArg String.toList hempty
  rw [htext, String.toList_append] at hlist
  exact List.append_ne_nil_of_left_ne_nil (by decide) _ hlist

end Generator

end MqttProfile
