import Mathlib.Data.List.Nodup
import MqttProfile.LastWill
import MqttProfile.Proofs.Json.RoundTrip

/-!
# Values that were read

The type of values has objects with two members of one name, but no text is read as one: of the members
with one name the first gives the place and the last the value.  Nor is a text read as a value with an
integer that cannot be written.  So a value that was read can be written again, it is `Exact` as soon as it
holds no binary64 number, and what is written for it is then read as the same value.

* `Distinct` and `FloatFree` are the two halves of `Exact`;
* `readValue_cases`, `readItems_cases` and `readMembers_cases` say what can be read with some fuel in terms of
  what can be read with less;
* `forall_of_ofText` follows by induction on the fuel: what the parts of a value hand on to it holds of every
  value that was read;
* `distinct_of_ofText` and `writable_of_ofText` are the two cases of it.
-/

namespace MqttProfile.Json

/-! ## The halves of exactness -/

mutual

/-- A value in whose objects no name occurs twice. -/
def Distinct : Json → Prop
  | .arr items => DistinctItems items
  | .obj members => (members.map (·.1)).Nodup ∧ DistinctMembers members
  | _ => True

/-- Items in whose objects no name occurs twice. -/
def DistinctItems : List Json → Prop
  | [] => True
  | item :: items => item.Distinct ∧ DistinctItems items

/-- Members in the objects of whose values no name occurs twice. -/
def DistinctMembers : Members → Prop
  | [] => True
  | (_, value) :: members => value.Distinct ∧ DistinctMembers members

end

mutual

/-- A value without binary64 numbers. -/
def FloatFree : Json → Prop
  | .float _ => False
  | .arr items => FloatFreeItems items
  | .obj members => FloatFreeMembers members
  | _ => True

/-- Items without binary64 numbers. -/
def FloatFreeItems : List Json → Prop
  | [] => True
  | item :: items => item.FloatFree ∧ FloatFreeItems items

/-- Members whose values are without binary64 numbers. -/
def FloatFreeMembers : Members → Prop
  | [] => True
  | (_, value) :: members => value.FloatFree ∧ FloatFreeMembers members

end

mutual

theorem Distinct.exact : ∀ {value : Json}, value.Distinct → value.FloatFree → value.Exact
  | .null, _, _ | .bool _, _, _ | .int _, _, _ | .str _, _, _ => trivial
  | .float _, _, hfree => hfree
  | .arr _, hdistinct, hfree => DistinctItems.exact hdistinct hfree
  | .obj _, hdistinct, hfree => ⟨hdistinct.1, DistinctMembers.exact hdistinct.2 hfree⟩

theorem DistinctItems.exact : ∀ {items : List Json}, DistinctItems items → FloatFreeItems items →
    ExactItems items
  | [], _, _ => trivial
  | _ :: _, hdistinct, hfree => ⟨hdistinct.1.exact hfree.1, DistinctItems.exact hdistinct.2 hfree.2⟩

theorem DistinctMembers.exact : ∀ {members : Members}, DistinctMembers members →
    FloatFreeMembers members → ExactMembers members
  | [], _, _ => trivial
  | (_, _) :: _, hdistinct, hfree =>
    ⟨hdistinct.1.exact hfree.1, DistinctMembers.exact hdistinct.2 hfree.2⟩

end

theorem distinct_of_not_structured {value : Json} (h : value.isStructured = false) : value.Distinct := by
  cases value with
  | arr _ | obj _ => cases h
  | null | bool _ | int _ | float _ | str _ => exact trivial

theorem distinctItems_iff {items : List Json} : DistinctItems items ↔ ∀ item ∈ items, item.Distinct := by
  induction items with
  | nil => simp [DistinctItems]
  | cons item items ih => simp [DistinctItems, ih]

theorem distinctMembers_iff {members : Members} :
    DistinctMembers members ↔ ∀ member ∈ members, member.2.Distinct := by
  induction members with
  | nil => simp [DistinctMembers]
  | cons member members ih => simp [DistinctMembers, ih]

theorem itemsWritable_iff {items : List Json} :
    itemsWritable items = true ↔ ∀ item ∈ items, item.writable = true := by
  induction items with
  | nil => simp [itemsWritable]
  | cons item items ih => simp [itemsWritable, ih]

theorem membersWritable_iff {members : Members} :
    membersWritable members = true ↔ ∀ member ∈ members, member.2.writable = true := by
  induction members with
  | nil => simp [membersWritable]
  | cons member members ih => simp [membersWritable, ih]

/-! ## Putting members together -/

/-- A member that is put among others adds its name at the end, unless the name is there. -/
theorem names_insert (key : String) (value : Json) (members : Members) :
    (insert key value members).map (·.1)
      = if key ∈ members.map (·.1) then members.map (·.1) else members.map (·.1) ++ [key] := by
  induction members with
  | nil => rfl
  | cons member members ih =>
    obtain ⟨name, earlier⟩ := member
    rw [insert, List.map_cons]
    by_cases hname : name = key
    · rw [if_pos hname, if_pos (List.mem_cons.mpr (.inl hname.symm))]
      rfl
    · have hmem : key ∈ name :: members.map (·.1) ↔ key ∈ members.map (·.1) := by
        rw [List.mem_cons, or_iff_right (Ne.symm hname)]
      rw [if_neg hname, List.map_cons, ih]
      simp only [hmem]
      split <;> rfl

/-- A member that is put among others replaces a value or comes after them. -/
theorem forall_insert {P : Json → Prop} {key : String} {value : Json} {members : Members}
    (hmembers : ∀ member ∈ members, P member.2) (hvalue : P value) :
    ∀ member ∈ insert key value members, P member.2 := by
  induction members with
  | nil => exact List.forall_mem_singleton.mpr hvalue
  | cons member members ih =>
    obtain ⟨name, earlier⟩ := member
    obtain ⟨hearlier, hrest⟩ := List.forall_mem_cons.mp hmembers
    rw [insert]
    split
    · exact List.forall_mem_cons.mpr ⟨hvalue, hrest⟩
    · exact List.forall_mem_cons.mpr ⟨hearlier, ih hrest⟩

theorem DistinctMembers.insert {members : Members} (h : DistinctMembers members) (key : String)
    {value : Json} (hvalue : value.Distinct) : DistinctMembers (insert key value members) :=
  distinctMembers_iff.mpr (forall_insert (distinctMembers_iff.mp h) hvalue)

/-- An object gets no name twice when a member is put into it. -/
theorem distinct_insert {members : Members} (h : (Json.obj members).Distinct) (key : String) {value : Json}
    (hvalue : value.Distinct) : (Json.obj (insert key value members)).Distinct := by
  refine ⟨?_, h.2.insert key hvalue⟩
  rw [names_insert]
  split
  · exact h.1
  · rename_i hnew
    rw [← List.concat_eq_append]
    exact List.Nodup.concat hnew h.1

/-- An object that is put together from members has no name twice, whatever their names are. -/
theorem distinct_foldl_insert {members earlier : Members} (hmembers : DistinctMembers members)
    (hearlier : (Json.obj earlier).Distinct) :
    (Json.obj (members.foldl (fun object (key, value) => insert key value object) earlier)).Distinct := by
  -- by induction with the object that is put together so far
  induction members generalizing earlier with
  | nil => exact hearlier
  | cons member members ih =>
    obtain ⟨key, value⟩ := member
    exact ih hmembers.2 (distinct_insert hearlier key hmembers.1)

/-- An object that is put together from members that can be written can be written. -/
theorem writable_foldl_insert {members earlier : Members}
    (hmembers : ∀ member ∈ members, member.2.writable = true)
    (hearlier : ∀ member ∈ earlier, member.2.writable = true) :
    (Json.obj (members.foldl (fun object (key, value) => insert key value object) earlier)).writable
      = true := by
  induction members generalizing earlier with
  | nil => exact membersWritable_iff.mpr hearlier
  | cons member members ih =>
    obtain ⟨key, value⟩ := member
    obtain ⟨hvalue, hrest⟩ := List.forall_mem_cons.mp hmembers
    exact ih hrest (forall_insert (P := fun value => value.writable = true) hearlier hvalue)

/-! ## Reading -/

theorem eq_some_of_orMalformed {α : Type} {found : Option α} {a : α} (h : orMalformed found = .ok a) :
    found = some a := by
  cases found with
  | none => cases h
  | some _ =>
    cases h
    rfl

/-- Digits write a number below the power of ten that has one digit more. -/
theorem digitsValue_lt {digits : List Char} (h : ∀ c ∈ digits, c.isDigit = true) :
    Binary64.digitsValue digits < Nat.pow 10 digits.length := by
  induction digits with
  | nil => exact Nat.one_pos
  | cons c cs ih =>
    obtain ⟨hc, hcs⟩ := List.forall_mem_cons.mp h
    have hdigit : c.toNat - '0'.toNat ≤ 9 := by
      have hnine : c.toNat ≤ '9'.toNat := (Char.isDigit_iff_toNat.mp hc).2
      exact Nat.sub_le_sub_right hnine '0'.toNat
    have hrest : Binary64.digitsValue cs < Nat.pow 10 cs.length := ih hcs
    rw [Binary64.digitsValue, Nat.ofDigitChars_cons, Nat.mul_zero, Nat.zero_add,
      Nat.ofDigitChars_eq_ofDigitChars_zero, List.length_cons]
    calc Nat.pow 10 cs.length * (c.toNat - '0'.toNat) + Nat.ofDigitChars 10 cs 0
        < Nat.pow 10 cs.length * (c.toNat - '0'.toNat) + Nat.pow 10 cs.length := Nat.add_lt_add_left hrest _
      _ = Nat.pow 10 cs.length * (c.toNat - '0'.toNat + 1) := (Nat.mul_succ _ _).symm
      _ ≤ Nat.pow 10 cs.length * 10 := Nat.mul_le_mul_left _ (Nat.succ_le_succ hdigit)
      _ = Nat.pow 10 (cs.length + 1) := rfl

/-- The digits at the front of a number are digits. -/
theorem isDigit_of_splitWhole {cs whole rest : List Char}
    (h : (match cs with
      | '0' :: rest => (['0'], rest)
      | cs => Binary64.spanDigits cs) = (whole, rest)) : ∀ c ∈ whole, c.isDigit = true := by
  split at h
  · cases h
    exact List.forall_mem_singleton.mpr rfl
  · rw [Binary64.spanDigits, List.span_eq_takeWhile_dropWhile] at h
    cases h
    exact fun c hc => List.mem_takeWhile_imp hc

/-- Digits are read as a number, and as an integer only if it can be written. -/
theorem scalar_of_readUnsigned {negative : Bool} {cs rest : List Char} {value : Json}
    (h : readUnsigned negative cs = .ok (value, rest)) :
    value.isStructured = false ∧ value.writable = true := by
  rw [readUnsigned.eq_def] at h
  split at h
  rename_i whole _ hsplit
  split at h
  · cases h
  · rename_i hdigits
    dsimp only at h
    split at h
    · split at h
      · cases h
      · rename_i hfew
        cases h
        have hpos : 0 < whole.length := by
          rwa [List.isEmpty_iff, ← Ne, ← List.length_pos_iff] at hdigits
        -- without its leading zeros the number has no more digits than were read
        have hlength : (Text.ofNat (Binary64.digitsValue whole)).length ≤ Text.digitLimit :=
          ((Text.length_ofNat_le_iff hpos).mpr (digitsValue_lt (isDigit_of_splitWhole hsplit))).trans
            (Nat.not_lt.mp hfew)
        refine ⟨rfl, decide_eq_true ?_⟩
        cases negative <;> simpa using hlength
    · obtain ⟨x, -, heq⟩ := Option.map_eq_some_iff.mp (eq_some_of_orMalformed h)
      cases heq
      exact ⟨rfl, rfl⟩

/-- What is read with some fuel is no array and no object, or its items or members are read with less. -/
theorem readValue_cases {fuel : Nat} {cs rest : List Char} {value : Json}
    (h : readValue (fuel + 1) cs = .ok (value, rest)) :
    (value.isStructured = false ∧ value.writable = true)
      ∨ (∃ items, value = .arr items ∧ (items = [] ∨ ∃ cs', readItems fuel cs' = .ok (items, rest)))
      ∨ ∃ members, value = .obj (members.foldl (fun object (key, value) => insert key value object) [])
        ∧ (members = [] ∨ ∃ cs', readMembers fuel cs' = .ok (members, rest)) := by
  unfold readValue at h
  -- a string, an array, an object, and then the words and the numbers
  split at h
  · obtain ⟨text, -, heq⟩ := exists_of_map_eq_ok h
    cases heq
    exact .inl ⟨rfl, rfl⟩
  · split at h
    · cases h
      exact .inr (.inl ⟨[], rfl, .inl rfl⟩)
    · obtain ⟨⟨items, _⟩, hitems, heq⟩ := exists_of_map_eq_ok h
      cases heq
      exact .inr (.inl ⟨items, rfl, .inr ⟨_, hitems⟩⟩)
  · split at h
    · cases h
      exact .inr (.inr ⟨[], rfl, .inl rfl⟩)
    · obtain ⟨⟨members, _⟩, hmembers, heq⟩ := exists_of_map_eq_ok h
      cases heq
      exact .inr (.inr ⟨members, rfl, .inr ⟨_, hmembers⟩⟩)
  all_goals first
    | exact .inl (scalar_of_readUnsigned h)
    | cases h; exact .inl ⟨rfl, rfl⟩

/-- Items that are read with some fuel are a value alone or a value before more items, each read with
less. -/
theorem readItems_cases {fuel : Nat} {cs rest : List Char} {items : List Json}
    (h : readItems (fuel + 1) cs = .ok (items, rest)) :
    ∃ item later, items = item :: later ∧ (∃ left, readValue fuel cs = .ok (item, left))
      ∧ (later = [] ∨ ∃ cs', readItems fuel cs' = .ok (later, rest)) := by
  rw [readItems] at h
  obtain ⟨⟨item, left⟩, hitem, hlater⟩ := exists_of_bind_eq_ok h
  dsimp only at hlater
  split at hlater
  · cases hlater
    exact ⟨item, [], rfl, ⟨left, hitem⟩, .inl rfl⟩
  · obtain ⟨⟨later, _⟩, hitems, heq⟩ := exists_of_map_eq_ok hlater
    cases heq
    exact ⟨item, later, rfl, ⟨left, hitem⟩, .inr ⟨_, hitems⟩⟩
  · cases hlater

/-- Members that are read with some fuel are one alone or one before more members, each with its value read
with less. -/
theorem readMembers_cases {fuel : Nat} {cs rest : List Char} {members : Members}
    (h : readMembers (fuel + 1) cs = .ok (members, rest)) :
    ∃ key value later, members = (key, value) :: later
      ∧ (∃ cs' left, readValue fuel cs' = .ok (value, left))
      ∧ (later = [] ∨ ∃ cs', readMembers fuel cs' = .ok (later, rest)) := by
  unfold readMembers at h
  split at h
  · obtain ⟨⟨key, _⟩, -, hmember⟩ := exists_of_bind_eq_ok h
    dsimp only at hmember
    split at hmember
    · obtain ⟨⟨value, left⟩, hvalue, hlater⟩ := exists_of_bind_eq_ok hmember
      dsimp only at hlater
      split at hlater
      · cases hlater
        exact ⟨_, value, [], rfl, ⟨_, left, hvalue⟩, .inl rfl⟩
      · obtain ⟨⟨later, _⟩, hmembers, heq⟩ := exists_of_map_eq_ok hlater
        cases heq
        exact ⟨_, value, later, rfl, ⟨_, left, hvalue⟩, .inr ⟨_, hmembers⟩⟩
      · cases hlater
    · cases hmember
  · cases h

section

variable {P : Json → Prop}
  (hscalar : ∀ value : Json, value.isStructured = false → value.writable = true → P value)
  (harr : ∀ items : List Json, (∀ item ∈ items, P item) → P (.arr items))
  (hobj : ∀ members : Members, (∀ member ∈ members, P member.2) →
    P (.obj (members.foldl (fun object (key, value) => insert key value object) [])))

include hscalar harr hobj

/-- What the items and members of a value hand on to it holds of whatever is read with some fuel. -/
theorem forall_of_read (fuel : Nat) :
    (∀ cs value rest, readValue fuel cs = .ok (value, rest) → P value)
      ∧ (∀ cs items rest, readItems fuel cs = .ok (items, rest) → ∀ item ∈ items, P item)
      ∧ ∀ cs members rest, readMembers fuel cs = .ok (members, rest) → ∀ member ∈ members, P member.2 := by
  induction fuel with
  | zero =>
    refine ⟨fun cs value rest h => ?_, fun cs items rest h => ?_, fun cs members rest h => ?_⟩
    · rw [readValue] at h
      cases h
    · rw [readItems] at h
      cases h
    · rw [readMembers] at h
      cases h
  | succ fuel ih =>
    obtain ⟨hvalues, hitems, hmembers⟩ := ih
    refine ⟨fun cs value rest h => ?_, fun cs items rest h => ?_, fun cs members rest h => ?_⟩
    · obtain hflat | ⟨items, rfl, rfl | ⟨cs', hread⟩⟩ | ⟨members, rfl, rfl | ⟨cs', hread⟩⟩ :=
        readValue_cases h
      · exact hscalar value hflat.1 hflat.2
      · exact harr [] (List.forall_mem_nil _)
      · exact harr items (hitems cs' items rest hread)
      · exact hobj [] (List.forall_mem_nil _)
      · exact hobj members (hmembers cs' members rest hread)
    · obtain ⟨item, later, rfl, ⟨left, hitem⟩, rfl | ⟨cs', hlater⟩⟩ := readItems_cases h
      · exact List.forall_mem_singleton.mpr (hvalues cs item left hitem)
      · exact List.forall_mem_cons.mpr ⟨hvalues cs item left hitem, hitems cs' later rest hlater⟩
    · obtain ⟨key, value, later, rfl, ⟨cs', left, hvalue⟩, rfl | ⟨cs'', hlater⟩⟩ := readMembers_cases h
      · exact List.forall_mem_singleton.mpr (hvalues cs' value left hvalue)
      · exact List.forall_mem_cons.mpr ⟨hvalues cs' value left hvalue, hmembers cs'' later rest hlater⟩

/-- So it holds of the value of every text. -/
theorem forall_of_ofText {s : String} {value : Json} (h : ofText s = .ok value) : P value := by
  rw [ofText, read] at h
  obtain ⟨⟨found, rest⟩, hread, hend⟩ := exists_of_bind_eq_ok h
  dsimp only at hend
  split at hend
  · cases hend
    exact (forall_of_read hscalar harr hobj _).1 _ _ _ hread
  · cases hend

end

/-- No text is read as a value in which a name occurs twice. -/
theorem distinct_of_ofText {s : String} {value : Json} (h : ofText s = .ok value) : value.Distinct := by
  refine forall_of_ofText (fun value hflat _ => distinct_of_not_structured hflat) ?_ ?_ h
  · intro items hitems
    exact distinctItems_iff.mpr hitems
  · intro members hmembers
    exact distinct_foldl_insert (distinctMembers_iff.mpr hmembers) ⟨List.nodup_nil, trivial⟩

/-- What was read can be written. -/
theorem writable_of_ofText {s : String} {value : Json} (h : ofText s = .ok value) : value.writable = true := by
  refine forall_of_ofText (fun value _ hwritable => hwritable) ?_ ?_ h
  · intro items hitems
    exact itemsWritable_iff.mpr hitems
  · intro members hmembers
    exact writable_foldl_insert hmembers (List.forall_mem_nil _)

/-- What is printed for a value that was read is read as the same value, unless there are binary64 numbers in
it. -/
theorem ofText_toText_of_ofText {style : Style} (hstyle : style.Lawful) {s : String} {value : Json}
    (h : ofText s = .ok value) (hfree : value.FloatFree) : ofText (value.toText style) = .ok value :=
  ofText_toText hstyle (writable_of_ofText h) ((distinct_of_ofText h).exact hfree)

end MqttProfile.Json
