import MqttProfile.Proofs.Json.Decimals
import MqttProfile.Proofs.Success

/-!
# Reading back printed values

Every value that can be written is read back, in either style, and it is read back as it was if it is
`Exact`: it holds no binary64 number, and every object in it has its members under different names, as an
object should; the type alone does not say so.  Both styles put nothing but blanks behind their commas and
colons, and that is all that is used of them.

The reader is driven by fuel.  A value takes no more of it than its text has characters, so the texts
themselves measure the fuel, and the induction is on the value with its items and its members.
-/

namespace MqttProfile.Json

/-! ## Exact values -/

mutual

/-- A value without binary64 numbers in whose objects no name occurs twice. -/
def Exact : Json → Prop
  | .float _ => False
  | .arr items => ExactItems items
  | .obj members => (members.map (·.1)).Nodup ∧ ExactMembers members
  | _ => True

/-- Items that are exact. -/
def ExactItems : List Json → Prop
  | [] => True
  | item :: items => item.Exact ∧ ExactItems items

/-- Members whose values are exact. -/
def ExactMembers : Members → Prop
  | [] => True
  | (_, value) :: members => value.Exact ∧ ExactMembers members

end

/-- A style with nothing but blanks behind its commas and colons. -/
structure Style.Lawful (style : Style) : Prop where
  comma : ∃ blanks, style.comma = ',' :: blanks ∧ ∀ c ∈ blanks, isJsonBlank c = true
  colon : ∃ blanks, style.colon = ':' :: blanks ∧ ∀ c ∈ blanks, isJsonBlank c = true

theorem lawful_compact : compact.Lawful := by
  have hnone : ∀ c ∈ ([] : List Char), isJsonBlank c = true := fun c hc => nomatch hc
  exact ⟨⟨[], rfl, hnone⟩, ⟨[], rfl, hnone⟩⟩

theorem lawful_spaced : spaced.Lawful := by
  have hone : ∀ c ∈ [' '], isJsonBlank c = true := by
    intro c hc
    cases List.mem_singleton.mp hc
    rfl
  exact ⟨⟨[' '], rfl, hone⟩, ⟨[' '], rfl, hone⟩⟩

/-! ## Blanks -/

theorem skipBlanks_cons {c : Char} (h : isJsonBlank c = false) (cs : List Char) :
    skipBlanks (c :: cs) = c :: cs := by
  rw [skipBlanks, List.dropWhile_cons, h]
  rfl

theorem skipBlanks_append {blanks : List Char} (hblanks : ∀ c ∈ blanks, isJsonBlank c = true) {c : Char}
    (hc : isJsonBlank c = false) (cs : List Char) : skipBlanks (blanks ++ c :: cs) = c :: cs := by
  rw [skipBlanks, List.dropWhile_append_of_pos hblanks]
  exact skipBlanks_cons hc cs

/-- A digit is no blank and closes no array. -/
theorem ne_blank_of_isDigit {c : Char} (h : c.isDigit = true) : isJsonBlank c = false ∧ c ≠ ']' := by
  constructor
  · by_contra hblank
    rw [Bool.not_eq_false] at hblank
    simp only [isJsonBlank, Bool.or_eq_true, beq_iff_eq] at hblank
    rcases hblank with ((rfl | rfl) | rfl) | rfl <;> exact absurd h (by decide)
  · rintro rfl
    exact absurd h (by decide)

/-- The first character of a printed value is no blank and closes no array. -/
theorem exists_render_eq_cons (style : Style) (value : Json) :
    ∃ c cs, value.render style = c :: cs ∧ isJsonBlank c = false ∧ c ≠ ']' := by
  cases value with
  | null => exact ⟨'n', _, rfl, by decide, by decide⟩
  | bool b => cases b <;> exact ⟨_, _, rfl, by decide, by decide⟩
  | int n =>
    rw [render, Text.ofInt]
    split
    · exact ⟨'-', _, rfl, by decide, by decide⟩
    · obtain ⟨c, cs, hdigits, hc⟩ := (Text.isDigits_ofNat n.natAbs).exists_cons
      exact ⟨c, cs, hdigits, ne_blank_of_isDigit hc⟩
  | float x =>
    cases x with
    | nan => exact ⟨'N', _, rfl, by decide, by decide⟩
    | infinite negative => cases negative <;> exact ⟨_, _, rfl, by decide, by decide⟩
    | finite negative m q =>
      cases negative with
      | true => exact ⟨'-', _, rfl, by decide, by decide⟩
      | false =>
        obtain ⟨c, cs, htext, hc⟩ := Binary64.exists_magnitudeText_eq_cons m q
        exact ⟨c, cs, htext, ne_blank_of_isDigit hc⟩
  | str s => exact ⟨'"', _, rfl, by decide, by decide⟩
  | arr items => cases items <;> exact ⟨'[', _, rfl, by decide, by decide⟩
  | obj members => cases members <;> exact ⟨'\x7b', _, rfl, by decide, by decide⟩

/-- The text of a value is not empty. -/
theorem truthy_toText (style : Style) (value : Json) :
    (Json.str (value.toText style)).truthy = true := by
  obtain ⟨c, cs, hcons, -⟩ := exists_render_eq_cons style value
  rw [truthy, Bool.not_eq_true', String.isEmpty_eq_false_iff, toText, hcons]
  intro hempty
  have hlist := congrArg String.toList hempty
  rw [String.toList_ofList] at hlist
  cases hlist

/-! ## Values without parts -/

/-- A value that starts with a digit is a number. -/
theorem readValue_digit (fuel : Nat) {c : Char} (h : c.isDigit = true) (cs : List Char) :
    readValue (fuel + 1) (c :: cs) = readUnsigned false (c :: cs) := by
  rw [readValue.eq_def]
  dsimp only
  split
  all_goals first
    | rfl
    | rename_i heq
      cases heq
      exact absurd h (by decide)

/-- A value that starts with a minus sign and a digit is a negative number. -/
theorem readValue_minus (fuel : Nat) {c : Char} (h : c.isDigit = true) (cs : List Char) :
    readValue (fuel + 1) ('-' :: c :: cs) = readUnsigned true (c :: cs) := by
  have hne : c ≠ 'I' := by
    rintro rfl
    exact absurd h (by decide)
  rw [readValue]
  intro rest hrest
  exact hne (List.head_eq_of_cons_eq hrest)

/-- The digits of an integer are read back exactly if they can be written. -/
theorem readValue_ofInt (fuel : Nat) (n : Int) {rest : List Char} (hends : Ends rest) :
    readValue (fuel + 1) (Text.ofInt n ++ rest)
      = if Text.writable n then .ok (.int n, rest) else .error .badValue := by
  obtain ⟨c, cs, hdigits, hc⟩ := (Text.isDigits_ofNat n.natAbs).exists_cons
  have hlimit : (if Text.digitLimit < (Text.ofNat n.natAbs).length then .error .badValue
        else .ok (.int n, rest)) = if Text.writable n then .ok (.int n, rest)
          else (.error .badValue : Except Fault (Json × List Char)) := by
    rw [Text.writable, ← ite_not]
    exact if_congr (by rw [Nat.not_lt, decide_eq_true_iff]) rfl rfl
  rw [Text.ofInt]
  split
  · rename_i hneg
    rw [hdigits, List.cons_append, List.cons_append, readValue_minus fuel hc, ← List.cons_append,
      ← hdigits, readUnsigned_ofNat true n.natAbs hends, if_pos rfl]
    have habs : -(n.natAbs : Int) = n := by omega
    rw [habs, hlimit]
  · rename_i hpos
    rw [hdigits, List.cons_append, readValue_digit fuel hc, ← List.cons_append, ← hdigits,
      readUnsigned_ofNat false n.natAbs hends, if_neg Bool.false_ne_true]
    have habs : (n.natAbs : Int) = n := by omega
    rw [habs, hlimit]

/-- A binary64 number is read back as some number. -/
theorem exists_readValue_float (x : Binary64) :
    ∃ y, ∀ fuel rest, Ends rest →
      readValue (fuel + 1) (x.render specialNames ++ rest) = .ok (.float y, rest) := by
  cases x with
  | nan => exact ⟨.nan, fun _ _ _ => rfl⟩
  | infinite negative => cases negative <;> exact ⟨.infinite _, fun _ _ _ => rfl⟩
  | finite negative m q =>
    obtain ⟨whole, fraction, exponent, htext, hdecimal⟩ := Binary64.exists_isDecimal_magnitude m q
    obtain ⟨c, cs, hcons, hc⟩ := Binary64.exists_magnitudeText_eq_cons m q
    obtain ⟨y, hy⟩ := exists_readUnsigned_decimal hdecimal negative
    rw [← htext, hcons] at hy
    refine ⟨y, fun fuel rest hends => ?_⟩
    rw [← hy rest hends, Binary64.render, hcons]
    cases negative with
    | true => exact readValue_minus fuel hc _
    | false => exact readValue_digit fuel hc _

theorem quote_append (asciiOnly : Bool) (s : String) (rest : List Char) :
    quote asciiOnly s ++ rest = '"' :: (s.toList.flatMap (escapeChar asciiOnly) ++ '"' :: rest) := by
  rw [quote, List.cons_append, List.cons_append, List.append_assoc, List.singleton_append]

theorem readValue_quote (fuel : Nat) (asciiOnly : Bool) (s : String) (rest : List Char) :
    readValue (fuel + 1) (quote asciiOnly s ++ rest) = .ok (.str s, rest) := by
  rw [quote_append, readValue, readString_quote, orMalformed, map_ok]
  dsimp only
  rw [String.ofList_toList]

/-! ## Objects -/

/-- A member with a name that is not there yet is put at the end. -/
theorem insert_of_not_mem {key : String} (value : Json) {members : Members}
    (h : key ∉ members.map (·.1)) : insert key value members = members ++ [(key, value)] := by
  induction members with
  | nil => rfl
  | cons member members ih =>
    obtain ⟨k, v⟩ := member
    rw [List.map_cons, List.mem_cons, not_or] at h
    rw [insert, if_neg (Ne.symm h.1), ih h.2, List.cons_append]

/-- Members with different names are put together in order. -/
theorem foldl_insert {members : Members} (earlier : Members)
    (h : ((earlier ++ members).map (·.1)).Nodup) :
    members.foldl (fun object (key, value) => insert key value object) earlier = earlier ++ members := by
  -- by induction with the members that are already there
  induction members generalizing earlier with
  | nil => rw [List.foldl_nil, List.append_nil]
  | cons member members ih =>
    obtain ⟨key, value⟩ := member
    have hsplit : earlier ++ (key, value) :: members = (earlier ++ [(key, value)]) ++ members := by
      rw [List.append_assoc, List.singleton_append]
    have hnew : key ∉ earlier.map (·.1) := by
      rw [List.map_append, List.map_cons, List.nodup_append] at h
      intro hmem
      exact h.2.2 key hmem key List.mem_cons_self rfl
    rw [hsplit] at h
    rw [List.foldl_cons, hsplit, ← ih (earlier ++ [(key, value)]) h]
    dsimp only
    rw [insert_of_not_mem value hnew]

/-! ## The induction -/

section

variable {style : Style}

/-- The text of a value is read as a value, whatever ends it. -/
def ReadsAs (style : Style) (value result : Json) : Prop :=
  ∀ fuel rest, (value.render style).length ≤ fuel → Ends rest →
    readValue fuel (value.render style ++ rest) = .ok (result, rest)

/-- The texts of items are read as items up to the bracket behind them. -/
def ItemsReadAs (style : Style) : List Json → List Json → Prop
  | [], results => results = []
  | item :: items, results => ∀ fuel rest,
    (item.render style).length + (renderItems style items).length ≤ fuel →
      readItems fuel (item.render style ++ (renderItems style items ++ rest)) = .ok (results, rest)

/-- The texts of members are read as members up to the brace behind them. -/
def MembersReadAs (style : Style) : Members → Members → Prop
  | [], results => results = []
  | (key, value) :: members, results => ∀ fuel rest,
    (value.render style).length + (renderMembers style members).length < fuel →
      readMembers fuel (quote style.asciiOnly key ++ (style.colon
          ++ (value.render style ++ (renderMembers style members ++ rest)))) = .ok (results, rest)

theorem ends_renderItems (hstyle : style.Lawful) (items : List Json) (rest : List Char) :
    Ends (renderItems style items ++ rest) := by
  cases items with
  | nil => exact ends_cons rest (.inr (.inl rfl))
  | cons item items =>
    obtain ⟨blanks, hcomma, -⟩ := hstyle.comma
    rw [renderItems, hcomma]
    exact ends_cons _ (.inl rfl)

theorem ends_renderMembers (hstyle : style.Lawful) (members : Members) (rest : List Char) :
    Ends (renderMembers style members ++ rest) := by
  cases members with
  | nil => exact ends_cons rest (.inr (.inr rfl))
  | cons member members =>
    obtain ⟨blanks, hcomma, -⟩ := hstyle.comma
    rw [renderMembers, hcomma]
    exact ends_cons _ (.inl rfl)

/-- Blanks in front of a printed value are skipped. -/
theorem skipBlanks_render {blanks : List Char} (hblanks : ∀ c ∈ blanks, isJsonBlank c = true)
    (value : Json) (rest : List Char) :
    skipBlanks (blanks ++ (value.render style ++ rest)) = value.render style ++ rest := by
  obtain ⟨c, cs, htext, hc, -⟩ := exists_render_eq_cons style value
  rw [htext, List.cons_append]
  exact skipBlanks_append hblanks hc _

/-- A value that is read with fuel is read, for its text leaves some. -/
theorem readsAs_of_succ {value result : Json}
    (hread : ∀ fuel rest, Ends rest →
      readValue (fuel + 1) (value.render style ++ rest) = .ok (result, rest)) :
    ReadsAs style value result := by
  intro fuel rest hfuel hends
  obtain ⟨c, cs, htext, -⟩ := exists_render_eq_cons style value
  rw [htext, List.length_cons] at hfuel
  obtain ⟨fuel, rfl⟩ := Nat.exists_eq_succ_of_ne_zero (n := fuel) (by omega)
  exact hread fuel rest hends

/-- An item that is read goes before items that are. -/
theorem itemsReadAs_cons (hstyle : style.Lawful) {item result : Json} {items results : List Json}
    (hitem : ReadsAs style item result) (hitems : ItemsReadAs style items results) :
    ItemsReadAs style (item :: items) (result :: results) := by
  intro fuel rest hfuel
  cases items with
  | nil =>
    obtain rfl : results = [] := hitems
    rw [renderItems] at hfuel ⊢
    rw [List.length_singleton] at hfuel
    obtain ⟨fuel, rfl⟩ := Nat.exists_eq_succ_of_ne_zero (n := fuel) (by omega)
    rw [List.singleton_append, readItems, hitem fuel _ (by omega) (ends_cons rest (.inr (.inl rfl))),
      bind_ok]
    dsimp only
    rw [skipBlanks_cons (by decide)]
    rfl
  | cons next items =>
    obtain ⟨blanks, hcomma, hblanks⟩ := hstyle.comma
    have hends := ends_renderItems hstyle (next :: items) rest
    rw [renderItems, hcomma] at hfuel hends ⊢
    simp only [List.length_append, List.length_cons] at hfuel
    obtain ⟨fuel, rfl⟩ := Nat.exists_eq_succ_of_ne_zero (n := fuel) (by omega)
    rw [readItems, hitem fuel _ (by omega) hends, bind_ok]
    dsimp only
    rw [List.append_assoc, List.append_assoc, List.cons_append, skipBlanks_cons (by decide)]
    show (readItems fuel (skipBlanks _)).map _ = _
    rw [skipBlanks_render hblanks next, hitems fuel rest (by omega), map_ok]

/-- A member whose value is read goes before members that are. -/
theorem membersReadAs_cons (hstyle : style.Lawful) {key : String} {value result : Json}
    {members results : Members} (hvalue : ReadsAs style value result)
    (hmembers : MembersReadAs style members results) :
    MembersReadAs style ((key, value) :: members) ((key, result) :: results) := by
  intro fuel rest hfuel
  obtain ⟨fuel, rfl⟩ := Nat.exists_eq_succ_of_ne_zero (n := fuel) (by omega)
  obtain ⟨blanks, hcolon, hblanks⟩ := hstyle.colon
  have hends := ends_renderMembers hstyle members rest
  -- the name and the colon
  rw [quote_append, readMembers, readString_quote, orMalformed, bind_ok, hcolon, List.cons_append]
  dsimp only
  rw [skipBlanks_cons (by decide), String.ofList_toList]
  -- the value
  show (readValue fuel (skipBlanks _)).bind _ = _
  rw [skipBlanks_render hblanks value, hvalue fuel _ (by omega) hends, bind_ok]
  dsimp only
  cases members with
  | nil =>
    obtain rfl : results = [] := hmembers
    rw [renderMembers, List.singleton_append, skipBlanks_cons (by decide)]
    rfl
  | cons next members =>
    obtain ⟨nextKey, nextValue⟩ := next
    obtain ⟨commaBlanks, hcomma, hcommaBlanks⟩ := hstyle.comma
    rw [renderMembers, hcomma] at hfuel ⊢
    simp only [List.length_append, List.length_cons] at hfuel
    rw [List.cons_append, List.cons_append, List.cons_append, List.cons_append, List.cons_append,
      skipBlanks_cons (by decide)]
    show (readMembers fuel (skipBlanks _)).map _ = _
    have hskip : skipBlanks (commaBlanks ++ quote style.asciiOnly nextKey ++ style.colon
          ++ nextValue.render style ++ renderMembers style members ++ rest)
        = quote style.asciiOnly nextKey ++ (style.colon
          ++ (nextValue.render style ++ (renderMembers style members ++ rest))) := by
      simp only [List.append_assoc]
      exact skipBlanks_append hcommaBlanks (by decide) _
    rw [hskip, hmembers fuel rest (by omega), map_ok]

/-- An array of items that are read is read. -/
theorem readsAs_arr {items results : List Json} (hitems : ItemsReadAs style items results) :
    ReadsAs style (.arr items) (.arr results) := by
  intro fuel rest hfuel _
  cases items with
  | nil =>
    obtain rfl : results = [] := hitems
    have htwo : 2 ≤ fuel := hfuel
    obtain ⟨fuel, rfl⟩ := Nat.exists_eq_succ_of_ne_zero (n := fuel) (by omega)
    rfl
  | cons item items =>
    rw [render] at hfuel ⊢
    simp only [List.length_append, List.length_cons] at hfuel
    obtain ⟨fuel, rfl⟩ := Nat.exists_eq_succ_of_ne_zero (n := fuel) (by omega)
    obtain ⟨c, cs, htext, hblank, hclose⟩ := exists_render_eq_cons style item
    have hskip : skipBlanks (item.render style ++ (renderItems style items ++ rest))
        = c :: (cs ++ (renderItems style items ++ rest)) := by
      rw [htext, List.cons_append]
      exact skipBlanks_cons hblank _
    have hread := hitems fuel rest (by omega)
    rw [htext, List.cons_append] at hread
    rw [List.cons_append, List.cons_append, List.append_assoc, readValue, hskip]
    -- the first item does not look like the bracket that closes an empty array
    split
    · rename_i heq
      exact absurd (List.head_eq_of_cons_eq heq) hclose
    · rw [hread, map_ok]

/-- An object of members that are read is read, and of those with one name the last counts. -/
theorem readsAs_obj {members results : Members} (hmembers : MembersReadAs style members results) :
    ReadsAs style (.obj members)
      (.obj (results.foldl (fun object (key, value) => insert key value object) [])) := by
  intro fuel rest hfuel _
  cases members with
  | nil =>
    obtain rfl : results = [] := hmembers
    have htwo : 2 ≤ fuel := hfuel
    obtain ⟨fuel, rfl⟩ := Nat.exists_eq_succ_of_ne_zero (n := fuel) (by omega)
    rfl
  | cons member members =>
    obtain ⟨key, value⟩ := member
    rw [render] at hfuel ⊢
    simp only [List.length_append, List.length_cons] at hfuel
    obtain ⟨fuel, rfl⟩ := Nat.exists_eq_succ_of_ne_zero (n := fuel) (by omega)
    have hquote : 2 ≤ (quote style.asciiOnly key).length := by
      rw [quote, List.length_append, List.length_cons, List.length_singleton]
      omega
    have hread := hmembers fuel rest (by omega)
    have htext : '\x7b' :: quote style.asciiOnly key ++ style.colon ++ value.render style
          ++ renderMembers style members ++ rest
        = '\x7b' :: (quote style.asciiOnly key ++ (style.colon
          ++ (value.render style ++ (renderMembers style members ++ rest)))) := by
      simp only [List.cons_append, List.append_assoc]
    rw [htext, readValue, quote_append, skipBlanks_cons (by decide), ← quote_append]
    refine (congrArg (Except.map _) hread).trans ?_
    rw [map_ok]

mutual

/-- Every value that can be written is read back, and an exact one as it was. -/
theorem exists_readsAs (hstyle : style.Lawful) :
    ∀ value : Json, value.writable = true →
      ∃ result, ReadsAs style value result ∧ (value.Exact → result = value)
  | .null, _ => ⟨_, readsAs_of_succ fun _ _ _ => rfl, fun _ => rfl⟩
  | .bool true, _ => ⟨_, readsAs_of_succ fun _ _ _ => rfl, fun _ => rfl⟩
  | .bool false, _ => ⟨_, readsAs_of_succ fun _ _ _ => rfl, fun _ => rfl⟩
  | .int _, hwritable =>
    ⟨_, readsAs_of_succ fun fuel _ hends => (readValue_ofInt fuel _ hends).trans (if_pos hwritable),
      fun _ => rfl⟩
  | .float x, _ => by
    obtain ⟨y, hread⟩ := exists_readValue_float x
    exact ⟨.float y, readsAs_of_succ hread, fun hexact => hexact.elim⟩
  | .str s, _ =>
    ⟨_, readsAs_of_succ fun fuel rest _ => readValue_quote fuel style.asciiOnly s rest, fun _ => rfl⟩
  | .arr items, hwritable => by
    obtain ⟨results, hread, hsame⟩ := exists_itemsReadAs hstyle items hwritable
    exact ⟨.arr results, readsAs_arr hread, fun hexact => congrArg Json.arr (hsame hexact)⟩
  | .obj members, hwritable => by
    obtain ⟨results, hread, hsame⟩ := exists_membersReadAs hstyle members hwritable
    refine ⟨_, readsAs_obj hread, fun hexact => ?_⟩
    rw [hsame hexact.2, foldl_insert [] hexact.1, List.nil_append]

/-- All items that can be written are read back, and exact ones as they were. -/
theorem exists_itemsReadAs (hstyle : style.Lawful) :
    ∀ items : List Json, itemsWritable items = true →
      ∃ results, ItemsReadAs style items results ∧ (ExactItems items → results = items)
  | [], _ => ⟨[], rfl, fun _ => rfl⟩
  | item :: items, hwritable => by
    rw [itemsWritable, Bool.and_eq_true] at hwritable
    obtain ⟨result, hitem, hsame⟩ := exists_readsAs hstyle item hwritable.1
    obtain ⟨results, hitems, hsameItems⟩ := exists_itemsReadAs hstyle items hwritable.2
    refine ⟨result :: results, itemsReadAs_cons hstyle hitem hitems, fun hexact => ?_⟩
    rw [hsame hexact.1, hsameItems hexact.2]

/-- All members that can be written are read back, and exact ones as they were. -/
theorem exists_membersReadAs (hstyle : style.Lawful) :
    ∀ members : Members, membersWritable members = true →
      ∃ results, MembersReadAs style members results ∧ (ExactMembers members → results = members)
  | [], _ => ⟨[], rfl, fun _ => rfl⟩
  | (key, value) :: members, hwritable => by
    rw [membersWritable, Bool.and_eq_true] at hwritable
    obtain ⟨result, hvalue, hsame⟩ := exists_readsAs hstyle value hwritable.1
    obtain ⟨results, hmembers, hsameMembers⟩ := exists_membersReadAs hstyle members hwritable.2
    refine ⟨(key, result) :: results, membersReadAs_cons hstyle hvalue hmembers, fun hexact => ?_⟩
    rw [hsame hexact.1, hsameMembers hexact.2]

end

/-! ## Texts -/

/-- The text of every value that can be written is read, and that of an exact one as that value. -/
theorem exists_ofText_toText (hstyle : style.Lawful) {value : Json} (hwritable : value.writable = true) :
    ∃ result, ofText (value.toText style) = .ok result ∧ (value.Exact → result = value) := by
  obtain ⟨result, hreads, hsame⟩ := exists_readsAs hstyle value hwritable
  refine ⟨result, ?_, hsame⟩
  obtain ⟨c, cs, htext, hblank, -⟩ := exists_render_eq_cons style value
  have hskip : skipBlanks (value.render style) = value.render style := by
    rw [htext]
    exact skipBlanks_cons hblank cs
  have hread := hreads ((value.render style).length + 1) [] (by omega) ends_nil
  rw [List.append_nil] at hread
  rw [ofText, toText, String.toList_ofList, read, hskip, hread]
  rfl

/-- The digits of an integer are no text that can be read, if there are too many of them. -/
theorem ofText_decimal_of_not_writable {n : Int} (h : Text.writable n = false) :
    ofText (Text.decimal n) = .error .badValue := by
  obtain ⟨c, cs, htext, hblank, -⟩ := exists_render_eq_cons compact (.int n)
  have hdigits : Text.ofInt n = c :: cs := htext
  have hskip : skipBlanks (Text.ofInt n) = Text.ofInt n := by
    rw [hdigits]
    exact skipBlanks_cons hblank cs
  have hread := readValue_ofInt (Text.ofInt n).length n ends_nil
  rw [List.append_nil, h, if_neg Bool.false_ne_true] at hread
  rw [ofText, Text.decimal, String.toList_ofList, read, hskip, hread]
  rfl

/-- The text of an exact value that can be written is read as that value. -/
theorem ofText_toText (hstyle : style.Lawful) {value : Json} (hwritable : value.writable = true)
    (h : value.Exact) : ofText (value.toText style) = .ok value := by
  obtain ⟨result, hread, hsame⟩ := exists_ofText_toText hstyle hwritable
  rw [hread, hsame h]

end

end MqttProfile.Json
