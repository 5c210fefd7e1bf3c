import Mathlib.Data.List.TakeDrop
import MqttProfile.Proofs.Success
import MqttProfile.Toml.Document

/-!
# Reading a document line by line

A statement never takes a text back that an earlier one has put somewhere: tables only grow.  So what is found in a
document that was read can be looked for in the line that put it there.

* `Keeps` is the relation between a table and what later statements make of it, and `keeps_readLines` says that
  reading on is one of these;
* `readLines_entry` and its companions read one line of a document.
-/

namespace MqttProfile.Toml

/-! ## Tables that grow -/

namespace Table

/-- A table has a text under a name in the table at a path. -/
def Holds : List String → String → String → Table → Prop
  | [], name, s, entries => entries.lookup name = some (.text s)
  | step :: path, name, s, entries => ∃ inner, entries.lookup step = some (.table inner) ∧ Holds path name s inner

/-- Another table has all texts that a table has. -/
def Keeps (table table' : Table) : Prop :=
  ∀ path name s, Holds path name s table → Holds path name s table'

theorem Keeps.refl (table : Table) : Keeps table table :=
  fun _ _ _ h => h

theorem Keeps.trans {first second third : Table} (h : Keeps first second) (h' : Keeps second third) :
    Keeps first third :=
  fun path name s hold => h' path name s (h path name s hold)

/-- What matters is that texts stay and that tables keep their texts. -/
theorem keeps_of_lookup {table table' : Table}
    (htext : ∀ name s, table.lookup name = some (.text s) → table'.lookup name = some (.text s))
    (htable : ∀ name inner, table.lookup name = some (.table inner) →
      ∃ inner', table'.lookup name = some (.table inner') ∧ Keeps inner inner') : Keeps table table' := by
  intro path name s h
  cases path with
  | nil => exact htext name s h
  | cons step path =>
    obtain ⟨inner, hinner, hold⟩ := h
    obtain ⟨inner', hinner', hkeeps⟩ := htable step inner hinner
    exact ⟨inner', hinner', hkeeps path name s hold⟩

theorem lookup_append_of_eq_some {table : Table} {name : String} {value : Toml}
    (h : table.lookup name = some value) (entries : Table) : (table ++ entries).lookup name = some value := by
  rw [List.lookup_append, h]
  rfl

theorem keeps_append (table entries : Table) : Keeps table (table ++ entries) :=
  keeps_of_lookup (fun _ _ h => lookup_append_of_eq_some h entries)
    fun _ inner h => ⟨inner, lookup_append_of_eq_some h entries, .refl inner⟩

/-- The value of a name that is replaced is the new one, if there was any. -/
theorem lookup_replace_self {table : Table} {name : String} {old : Toml} (h : table.lookup name = some old)
    (value : Toml) : (table.replace name value).lookup name = some value := by
  induction table with
  | nil => cases h
  | cons entry table ih =>
    obtain ⟨n, v⟩ := entry
    rw [replace, List.map_cons, ← replace]
    by_cases hn : n = name
    · subst hn
      simp
    · have hne : (name == n) = false := beq_eq_false_iff_ne.mpr fun heq => hn heq.symm
      rw [List.lookup_cons, hne] at h
      simp only [if_neg hn, List.lookup_cons, hne]
      exact ih h

/-- The other values stay. -/
theorem lookup_replace_of_ne {name other : String} (h : other ≠ name) (value : Toml) (table : Table) :
    (table.replace name value).lookup other = table.lookup other := by
  induction table with
  | nil => rfl
  | cons entry table ih =>
    obtain ⟨n, v⟩ := entry
    rw [replace, List.map_cons, ← replace, List.lookup_cons]
    by_cases hn : n = name
    · subst hn
      have hne : (other == n) = false := beq_eq_false_iff_ne.mpr h
      simp [List.lookup_cons, hne, ih]
    · simp only [if_neg hn, List.lookup_cons, ih]

/-- The last value is replaced where no other one has its name. -/
theorem replace_append {front : Table} {name : String} (h : List.lookup name front = none) (old value : Toml) :
    replace name value (front ++ [(name, old)]) = front ++ [(name, value)] := by
  induction front with
  | nil => simp [replace]
  | cons entry front ih =>
    obtain ⟨n, v⟩ := entry
    rw [List.lookup_cons] at h
    split at h
    · cases h
    · rename_i hne
      have hn : n ≠ name := fun heq => beq_eq_false_iff_ne.mp hne heq.symm
      rw [List.cons_append, List.cons_append, ← ih h, replace, List.map_cons, ← replace]
      exact congrArg (List.cons · _) (if_neg hn)

/-- A table keeps its texts when a table in it grows. -/
theorem keeps_replace_table {table inner inner' : Table} {name : String}
    (h : table.lookup name = some (.table inner)) (hinner : Keeps inner inner') :
    Keeps table (table.replace name (.table inner')) := by
  apply keeps_of_lookup
  · intro other s hother
    have hne : other ≠ name := by
      rintro rfl
      rw [h] at hother
      cases hother
    rw [lookup_replace_of_ne hne, hother]
  · intro other inner₂ hother
    by_cases hname : other = name
    · subst hname
      rw [h] at hother
      cases hother
      exact ⟨inner', lookup_replace_self h _, hinner⟩
    · exact ⟨inner₂, by rw [lookup_replace_of_ne hname, hother], .refl inner₂⟩

/-- A table keeps its texts when an array in it changes. -/
theorem keeps_replace_array {table : Table} {items : List Toml} {name : String}
    (h : table.lookup name = some (.array items)) (value : Toml) : Keeps table (table.replace name value) := by
  have hne : ∀ {other v}, table.lookup other = some v → (∀ items, v ≠ .array items) → other ≠ name := by
    rintro other v hother hv rfl
    rw [h] at hother
    cases hother
    exact hv items rfl
  apply keeps_of_lookup
  · intro other s hother
    rw [lookup_replace_of_ne (hne hother (by simp)), hother]
  · intro other inner hother
    exact ⟨inner, by rw [lookup_replace_of_ne (hne hother (by simp)), hother], .refl inner⟩

/-- A change keeps the texts of the tables on the way to it, if it keeps those of the table it is made in. -/
theorem keeps_changeAt {enterArrays : Bool} {change : Table → Option Table}
    (hchange : ∀ table table', change table = some table' → Keeps table table') {path : List String}
    {table table' : Table} (h : changeAt enterArrays change path table = some table') : Keeps table table' := by
  induction path generalizing table table' with
  | nil => exact hchange table table' h
  | cons name path ih =>
    rw [changeAt] at h
    split at h
    · obtain ⟨inner, -, rfl⟩ := Option.map_eq_some_iff.mp h
      exact keeps_append table _
    · rename_i inner hinner
      obtain ⟨inner', hinner', rfl⟩ := Option.map_eq_some_iff.mp h
      exact keeps_replace_table hinner (ih hinner')
    · rename_i items hitems
      split at h
      · obtain ⟨inner', -, rfl⟩ := Option.map_eq_some_iff.mp h
        exact keeps_replace_array hitems _
      · cases h
    · cases h

theorem keeps_add {name : String} {value : Toml} {table table' : Table} (h : add? name value table = some table') :
    Keeps table table' := by
  unfold add? at h
  split at h
  · cases h
  · cases h
    exact keeps_append table _

/-- A table that is added to an array hides nothing. -/
theorem keeps_appendTable {name : String} {table table' : Table} (h : appendTable name table = some table') :
    Keeps table table' := by
  unfold appendTable at h
  split at h
  · cases h
    exact keeps_append table _
  · rename_i items hitems
    cases h
    exact keeps_replace_array hitems _
  · cases h

end Table

open Table

/-! ## Statements -/

/-- An entry keeps all texts. -/
theorem keeps_addEntry {path : List String} {value : Toml} {d d' : Document}
    (h : d.addEntry path value = some d') : Keeps d.root d'.root := by
  unfold Document.addEntry at h
  dsimp only at h
  split at h
  · cases h
  · obtain ⟨root, hroot, rfl⟩ := Option.map_eq_some_iff.mp h
    exact keeps_changeAt (fun _ _ => keeps_add) hroot

/-- So does a table that is opened. -/
theorem keeps_openTable {path : List String} {d d' : Document} (h : d.openTable path = some d') :
    Keeps d.root d'.root := by
  unfold Document.openTable at h
  split at h
  · cases h
  · obtain ⟨root, hroot, rfl⟩ := Option.map_eq_some_iff.mp h
    refine keeps_changeAt (fun table table' hsome => ?_) hroot
    cases hsome
    exact .refl table

theorem keeps_openItem {path : List String} {d d' : Document} (h : d.openItem path = some d') :
    Keeps d.root d'.root := by
  unfold Document.openItem at h
  split at h
  · cases h
  · obtain ⟨root, hroot, rfl⟩ := Option.map_eq_some_iff.mp h
    exact keeps_changeAt (fun _ _ => keeps_appendTable) hroot

/-- What is demanded of a text that is TOML so far is there. -/
theorem eq_some_of_demand {α : Type} {o : Option α} {a : α} (h : demand o = .ok a) : o = some a := by
  cases o with
  | none => cases h
  | some a' =>
    cases h
    rfl

/-- A statement keeps all texts. -/
theorem keeps_readStatement {d d' : Document} {cs rest : List Char} (h : readStatement d cs = .ok (d', rest)) :
    Keeps d.root d'.root := by
  unfold readStatement at h
  split at h
  · cases h
    exact .refl _
  · cases h
    exact .refl _
  · cases h
    exact .refl _
  · obtain ⟨⟨path, rest'⟩, -, h⟩ := exists_of_bind_eq_ok h
    dsimp only at h
    split at h
    · obtain ⟨d₂, hopened, heq⟩ := exists_of_map_eq_ok h
      cases heq
      exact keeps_openItem (d := d.endSection) (eq_some_of_demand hopened)
    · cases h
  · obtain ⟨⟨path, rest'⟩, -, h⟩ := exists_of_bind_eq_ok h
    dsimp only at h
    split at h
    · obtain ⟨d₂, hopened, heq⟩ := exists_of_map_eq_ok h
      cases heq
      exact keeps_openTable (d := d.endSection) (eq_some_of_demand hopened)
    · cases h
  · obtain ⟨⟨path, value, rest'⟩, -, h⟩ := exists_of_bind_eq_ok h
    obtain ⟨d₂, hadded, heq⟩ := exists_of_map_eq_ok h
    cases heq
    exact keeps_addEntry (eq_some_of_demand hadded)

/-- Reading on keeps all texts. -/
theorem keeps_readLines {fuel : ℕ} {d d' : Document} {cs : List Char} (h : readLines fuel d cs = .ok d') :
    Keeps d.root d'.root := by
  induction fuel generalizing d cs with
  | zero => cases h
  | succ fuel ih =>
    rw [readLines] at h
    obtain ⟨⟨d₂, rest⟩, hstatement, h⟩ := exists_of_bind_eq_ok h
    have hkeeps := keeps_readStatement hstatement
    obtain ⟨rest', -, h⟩ := exists_of_bind_eq_ok h
    split at h
    · cases h
      exact hkeeps
    · exact hkeeps.trans (ih h)
    · cases h

/-! ## Lines -/

/-- A name that needs no quotes. -/
structure IsBareName (name : List Char) : Prop where
  ne_nil : name ≠ []
  bare : ∀ c ∈ name, isBare c = true

theorem isBareName_of_all {name : List Char} (h : name ≠ [] ∧ name.all isBare = true) : IsBareName name :=
  ⟨h.1, fun c hc => List.all_eq_true.mp h.2 c hc⟩

theorem ne_of_isBare {c d : Char} (hc : isBare c = true) (hd : isBare d = false) : c ≠ d := by
  rintro rfl
  rw [hc] at hd
  cases hd

theorem IsBareName.ne_return {name : List Char} (h : IsBareName name) : ∀ c ∈ name, c ≠ '\r' :=
  fun c hc => ne_of_isBare (h.bare c hc) (by decide)

/-- A bare name is read up to what cannot be part of one. -/
theorem readName_bare {name : List Char} (h : IsBareName name) {c : Char} (hc : isBare c = false) (cs : List Char) :
    readName (name ++ c :: cs) = some (String.ofList name, c :: cs) := by
  have hspan : (name ++ c :: cs).span isBare = (name, c :: cs) := by
    rw [List.span_eq_takeWhile_dropWhile, List.takeWhile_append_of_pos h.bare, List.dropWhile_append_of_pos h.bare]
    simp [hc]
  obtain ⟨d, ds, rfl⟩ := List.exists_cons_of_ne_nil h.ne_nil
  have hd := h.bare d List.mem_cons_self
  unfold readName
  split
  · rename_i heq
    exact absurd (List.head_eq_of_cons_eq heq) (ne_of_isBare hd (by decide))
  · rename_i heq
    exact absurd (List.head_eq_of_cons_eq heq) (ne_of_isBare hd (by decide))
  · rw [hspan]

/-- A key that is a bare name is read with the blanks behind it. -/
theorem readKey_bare {name : List Char} (h : IsBareName name) {c : Char} (hc : isBare c = false) (cs : List Char)
    (hpoint : ∀ rest, skipGaps (c :: cs) ≠ '.' :: rest) :
    readKey (name ++ c :: cs) = some ([String.ofList name], skipGaps (c :: cs)) := by
  have hlength : (name ++ c :: cs).length = (name.length + cs.length) + 1 := by
    rw [List.length_append, List.length_cons]
    omega
  unfold readKey
  rw [hlength, readNames, readName_bare h hc]
  -- no further name follows
  simp only [Option.bind_some]

/-- The line of an entry, up to its value. -/
def entryStart (name : List Char) (cs : List Char) : List Char :=
  name ++ ' ' :: '=' :: ' ' :: cs

/-- No blanks stand in front of a bare name. -/
theorem skipGaps_bare {name : List Char} (h : IsBareName name) (cs : List Char) :
    skipGaps (name ++ cs) = name ++ cs := by
  obtain ⟨b, bs, rfl⟩ := List.exists_cons_of_ne_nil h.ne_nil
  have hb : isBare b = true := h.bare b List.mem_cons_self
  have hnot : ¬isGap b = true := by
    intro hgap
    have hspace : b = ' ' ∨ b = '\t' := by simpa [isGap] using hgap
    rcases hspace with rfl | rfl
    · exact ne_of_isBare hb (d := ' ') (by decide) rfl
    · exact ne_of_isBare hb (d := '\t') (by decide) rfl
  rw [List.cons_append, skipGaps, List.dropWhile_cons_of_neg hnot]

/-- A line that starts with a bare name is the statement of an entry. -/
theorem readStatement_entryStart {name : List Char} (h : IsBareName name) (cs : List Char) (d : Document) :
    readStatement d (entryStart name cs)
      = (readEntry ((entryStart name cs).length + 1) (entryStart name cs)).bind
          fun (path, value, rest) => (demand (d.addEntry path value)).map fun d => (d, rest) := by
  obtain ⟨b, bs, rfl⟩ := List.exists_cons_of_ne_nil h.ne_nil
  have hb : isBare b = true := h.bare b List.mem_cons_self
  unfold readStatement
  split
  · rename_i heq
    cases heq
  · rename_i heq
    exact absurd (List.head_eq_of_cons_eq heq) (ne_of_isBare hb (by decide))
  · rename_i heq
    exact absurd (List.head_eq_of_cons_eq heq) (ne_of_isBare hb (by decide))
  · rename_i heq
    exact absurd (List.head_eq_of_cons_eq heq) (ne_of_isBare hb (by decide))
  · rename_i heq
    exact absurd (List.head_eq_of_cons_eq heq) (ne_of_isBare hb (by decide))
  · rfl

/-- A line that starts with a bare name is read as an entry. -/
theorem readLines_entryStart {name : List Char} (h : IsBareName name) {c : Char} (hc : isGap c = false)
    (cs : List Char) (d : Document) (fuel : ℕ) :
    readLines (fuel + 1) d (entryStart name (c :: cs))
      = (readValue (name.length + cs.length + 3 + 1) (c :: cs)).bind fun (value, rest) =>
          (demand (d.addEntry [String.ofList name] value)).bind fun d =>
            (demand (skipComment (skipGaps rest))).bind fun rest =>
              match rest with
              | [] => .ok d
              | '\n' :: rest => readLines fuel d rest
              | _ => .error .malformed := by
  have hkey : readKey (entryStart name (c :: cs)) = some ([String.ofList name], '=' :: ' ' :: c :: cs) :=
    readKey_bare h (by decide) _ (by intro rest heq; cases heq)
  have hvalue : skipGaps (' ' :: c :: cs) = c :: cs := by
    have hspace : isGap ' ' = true := by decide
    rw [skipGaps, List.dropWhile_cons_of_pos hspace, List.dropWhile_cons_of_neg (by rw [hc]; decide)]
  have hlength : (entryStart name (c :: cs)).length = name.length + cs.length + 3 + 1 := by
    simp [entryStart]
    omega
  have hentry : readEntry ((entryStart name (c :: cs)).length + 1) (entryStart name (c :: cs))
      = (readValue (name.length + cs.length + 3 + 1) (c :: cs)).map fun (value, rest) =>
          ([String.ofList name], value, rest) := by
    rw [readEntry, hkey, ← hlength]
    show (readValue _ (skipGaps (' ' :: c :: cs))).map _ = _
    rw [hvalue]
  have hgap : skipGaps (entryStart name (c :: cs)) = entryStart name (c :: cs) := skipGaps_bare h _
  rw [readLines, hgap, readStatement_entryStart h, hentry]
  cases readValue (name.length + cs.length + 3 + 1) (c :: cs) with
  | error failure => rfl
  | ok read =>
    obtain ⟨value, rest⟩ := read
    show ((demand (d.addEntry [String.ofList name] value)).map _).bind _
      = (demand (d.addEntry [String.ofList name] value)).bind _
    cases demand (d.addEntry [String.ofList name] value) with
    | error failure => rfl
    | ok d' => rfl

/-- An entry at the end of whose line nothing is left over is added to the document. -/
theorem readLines_entry {name : List Char} (h : IsBareName name) {value rest : List Char} {v : Toml} {d d' : Document}
    (hvalue : ∀ fuel, readValue (fuel + 1) (value ++ '\n' :: rest) = .ok (v, '\n' :: rest))
    (hgap : ∀ c ∈ value.head?, isGap c = false) (hne : value ≠ [])
    (hadd : d.addEntry [String.ofList name] v = some d') (fuel : ℕ) :
    readLines (fuel + 1) d (entryStart name (value ++ '\n' :: rest)) = readLines fuel d' rest := by
  obtain ⟨c, cs, rfl⟩ := List.exists_cons_of_ne_nil hne
  have hc := hgap c rfl
  rw [List.cons_append, readLines_entryStart h hc]
  rw [List.cons_append] at hvalue
  rw [hvalue]
  show (demand (d.addEntry [String.ofList name] v)).bind _ = _
  rw [hadd]
  rfl

/-- If a document is read behind an entry, a value was read and added, and what it holds is still there. -/
theorem exists_of_readLines_entry {name : List Char} (h : IsBareName name) {c : Char} (hc : isGap c = false)
    {cs : List Char} {d final : Document} {fuel : ℕ}
    (hread : readLines (fuel + 1) d (entryStart name (c :: cs)) = .ok final) :
    ∃ n v rest d', readValue (n + 1) (c :: cs) = .ok (v, rest) ∧ d.addEntry [String.ofList name] v = some d'
      ∧ Keeps d'.root final.root := by
  rw [readLines_entryStart h hc] at hread
  obtain ⟨⟨v, rest⟩, hvalue, hread⟩ := exists_of_bind_eq_ok hread
  obtain ⟨d', hadd, hread⟩ := exists_of_bind_eq_ok hread
  obtain ⟨rest', -, hread⟩ := exists_of_bind_eq_ok hread
  refine ⟨_, v, rest, d', hvalue, eq_some_of_demand hadd, ?_⟩
  split at hread
  · cases hread
    exact .refl _
  · exact keeps_readLines hread
  · cases hread

theorem readLines_empty (fuel : ℕ) (d : Document) (cs : List Char) :
    readLines (fuel + 1) d ('\n' :: cs) = readLines fuel d cs :=
  rfl

theorem readLines_nil (fuel : ℕ) (d : Document) : readLines (fuel + 1) d [] = .ok d :=
  rfl

/-- A header opens its table. -/
theorem readLines_header {name : List Char} (h : IsBareName name) {d d' : Document}
    (hopen : d.endSection.openTable [String.ofList name] = some d') (fuel : ℕ) (cs : List Char) :
    readLines (fuel + 1) d ('[' :: (name ++ ']' :: '\n' :: cs)) = readLines fuel d' cs := by
  have hkey : readKey (skipGaps (name ++ ']' :: '\n' :: cs)) = some ([String.ofList name], ']' :: '\n' :: cs) := by
    rw [skipGaps_bare h]
    exact readKey_bare h (by decide) _ (by intro rest heq; cases heq)
  have hstatement : readStatement d ('[' :: (name ++ ']' :: '\n' :: cs)) = .ok (d', '\n' :: cs) := by
    obtain ⟨b, bs, rfl⟩ := List.exists_cons_of_ne_nil h.ne_nil
    unfold readStatement
    split
    · rename_i heq
      cases heq
    · rename_i heq
      cases heq
    · rename_i heq
      cases heq
    · rename_i heq
      have hb := List.head_eq_of_cons_eq (List.cons.inj heq).2
      exact absurd hb (ne_of_isBare (h.bare b List.mem_cons_self) (by decide))
    · rename_i heq
      cases heq
      rw [hkey]
      show (demand (d.endSection.openTable [String.ofList (b :: bs)])).map _ = _
      rw [hopen]
      rfl
    · rename_i hheader
      exact absurd rfl (hheader _)
  have hgap : skipGaps ('[' :: (name ++ ']' :: '\n' :: cs)) = '[' :: (name ++ ']' :: '\n' :: cs) := rfl
  rw [readLines, hgap, hstatement]
  rfl

end MqttProfile.Toml
