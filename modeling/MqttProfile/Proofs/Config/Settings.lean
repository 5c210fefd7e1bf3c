import MqttProfile.Proofs.Toml.Document
import MqttProfile.Proofs.Toml.Number
import MqttProfile.Proofs.Toml.Text

/-!
# Lines of settings

A setting stands on a line of its own, behind its name.  A number is always read back, an integer unless it has too
many digits, and a text only if it is plain.

* `Setting` is what a line may hold, and `Readable` says when it is read back;
* `readLines_settings` reads lines of readable settings;
* `readable_of_readLines` says that settings are readable if no other texts are found in the document.
-/

namespace MqttProfile

open Toml

/-! ## The characters of numbers -/

/-- Whether a character is one that numbers are written with. -/
def isNumberChar (c : Char) : Bool :=
  c.isDigit || ['.', 'e', '+', '-', 'i', 'n', 'f', 'a'].contains c

theorem ne_return_of_isNumberChar {c : Char} (h : isNumberChar c = true) : c ≠ '\r' := by
  rintro rfl
  revert h
  decide

theorem not_gap_of_isNumberChar {c : Char} (h : isNumberChar c = true) : isGap c = false := by
  rw [← Bool.not_eq_true]
  intro hgap
  have hblank : c = ' ' ∨ c = '\t' := by simpa [isGap] using hgap
  revert h
  rcases hblank with rfl | rfl <;> decide

theorem all_isNumberChar_of_isDigits {digits : List Char} (h : Text.IsDigits digits) :
    digits.all isNumberChar = true := by
  rw [List.all_eq_true]
  intro c hc
  rw [isNumberChar, h.isDigit c hc, Bool.true_or]

/-- An integer is written with digits and a sign. -/
theorem all_isNumberChar_ofInt (n : Int) : (Text.ofInt n).all isNumberChar = true := by
  have hdigits := all_isNumberChar_of_isDigits (Text.isDigits_ofNat n.natAbs)
  unfold Text.ofInt
  split
  · rw [List.all_cons, hdigits]
    decide
  · exact hdigits

theorem ofInt_ne_nil (n : Int) : Text.ofInt n ≠ [] := by
  unfold Text.ofInt
  split
  · exact List.cons_ne_nil _ _
  · exact (Text.isDigits_ofNat n.natAbs).ne_nil

/-- A number is written with digits, a point, an exponent and signs, or with the letters of a name. -/
theorem all_isNumberChar_render (x : Binary64) : (x.render Binary64.plainNames).all isNumberChar = true := by
  cases x with
  | nan => decide
  | infinite negative => cases negative <;> decide
  | finite negative m q =>
    obtain ⟨whole, fraction, exponent, htext, hdecimal⟩ := Binary64.exists_isDecimal_magnitude m q
    have hwhole := all_isNumberChar_of_isDigits hdecimal.isWhole.isDigits
    have hfraction : fraction.all isNumberChar = true := by
      rcases hdecimal.isFraction with rfl | ⟨digits, rfl, hdigits⟩
      · rfl
      · rw [List.all_cons, all_isNumberChar_of_isDigits hdigits]
        decide
    have hexponent : exponent.all isNumberChar = true := by
      rcases hdecimal.isExponent with rfl | ⟨sign, digits, rfl, hsign, hdigits⟩
      · rfl
      · rw [List.all_cons, List.all_cons, all_isNumberChar_of_isDigits hdigits]
        rcases hsign with rfl | rfl <;> decide
    have hmagnitude : (Binary64.magnitudeText m q).all isNumberChar = true := by
      rw [htext, List.all_append, List.all_append, hwhole, hfraction, hexponent]
      rfl
    cases negative with
    | true =>
      show ('-' :: Binary64.magnitudeText m q).all isNumberChar = true
      rw [List.all_cons, hmagnitude]
      decide
    | false => exact hmagnitude

/-! ## Settings -/

/-- A setting of the configuration file. -/
inductive Setting where
  | text (s : String)
  | integer (n : Int)
  | number (x : Binary64)

namespace Setting

/-- The setting as it is written. -/
def written : Setting → String
  | .text s => "\"" ++ s ++ "\""
  | .integer n => Text.decimal n
  | .number x => x.text

/-- The setting as it ought to be read. -/
def value : Setting → Toml
  | .text s => .text s
  | .integer n => .integer n
  | .number x => .float x

/-- A setting that is read back: a plain text, an integer with few enough digits, or a number. -/
def Readable : Setting → Prop
  | .text s => Plain s.toList
  | .integer n => (Text.ofNat n.natAbs).length ≤ Text.digitLimit
  | .number x => x.Usual

/-- What the reader of the file finds: the ends of lines in a text are joined. -/
def found : Setting → List Char
  | .text s => '"' :: (joinLineEnds s.toList ++ ['"'])
  | .integer n => Text.ofInt n
  | .number x => x.render Binary64.plainNames

theorem value_isContainer (setting : Setting) : setting.value.isContainer = false := by
  cases setting <;> rfl

/-- A setting starts with no blank. -/
theorem exists_found_eq_cons (setting : Setting) : ∃ c cs, setting.found = c :: cs ∧ isGap c = false := by
  have hnumber : ∀ {cs : List Char}, cs ≠ [] → cs.all isNumberChar = true →
      ∃ d ds, cs = d :: ds ∧ isGap d = false := by
    intro cs hne hchars
    obtain ⟨d, ds, rfl⟩ := List.exists_cons_of_ne_nil hne
    exact ⟨d, ds, rfl, not_gap_of_isNumberChar (List.all_eq_true.mp hchars d List.mem_cons_self)⟩
  cases setting with
  | text s => exact ⟨'"', _, rfl, by decide⟩
  | integer n => exact hnumber (ofInt_ne_nil n) (all_isNumberChar_ofInt n)
  | number x => exact hnumber (Binary64.render_plainNames_ne_nil x) (all_isNumberChar_render x)

/-- Of a setting that is written, the ends of lines are joined in a text only. -/
theorem joinLineEnds_written (setting : Setting) (cs : List Char) :
    joinLineEnds (setting.written.toList ++ '\n' :: cs) = setting.found ++ '\n' :: joinLineEnds cs := by
  have hnumber : ∀ {front : List Char}, front.all isNumberChar = true →
      joinLineEnds (front ++ '\n' :: cs) = front ++ '\n' :: joinLineEnds cs := by
    intro front hchars
    have hfront : ∀ c ∈ front, c ≠ '\r' := fun c hc =>
      ne_return_of_isNumberChar (List.all_eq_true.mp hchars c hc)
    rw [joinLineEnds_front hfront, joinLineEnds_cons (by decide)]
  cases setting with
  | text s =>
    have hwritten : (written (.text s)).toList ++ '\n' :: cs = '"' :: (s.toList ++ '"' :: '\n' :: cs) := by
      simp [written]
    rw [hwritten, joinLineEnds_cons (by decide), joinLineEnds_append (by decide), joinLineEnds_cons (by decide),
      joinLineEnds_cons (by decide), found]
    simp
  | integer n =>
    rw [written, Text.decimal, String.toList_ofList]
    exact hnumber (all_isNumberChar_ofInt n)
  | number x =>
    rw [written, Binary64.text, String.toList_ofList]
    exact hnumber (all_isNumberChar_render x)

/-- A readable setting is read back at the end of a line. -/
theorem readValue_found {setting : Setting} (h : setting.Readable) (fuel : ℕ) (rest : List Char) :
    readValue (fuel + 1) (setting.found ++ '\n' :: rest) = .ok (setting.value, '\n' :: rest) := by
  cases setting with
  | text s =>
    have hread : readString ('"' :: (s.toList ++ '"' :: '\n' :: rest)) = some (s.toList, '\n' :: rest) :=
      readString_plain h rest
    have hfound : found (.text s) ++ '\n' :: rest = '"' :: (s.toList ++ '"' :: '\n' :: rest) := by
      rw [found, joinLineEnds_of_plain h]
      simp
    rw [hfound, readValue, hread]
    show Except.ok (Toml.text (String.ofList s.toList), '\n' :: rest) = _
    rw [String.ofList_toList]
    rfl
  | integer n =>
    have hfew : ¬Text.digitLimit < (Text.ofNat n.natAbs).length := not_lt.mpr h
    have hread := readValue_ofInt fuel n rest
    rw [if_neg hfew] at hread
    exact hread
  | number x => exact readValue_render h fuel rest

/-- A setting that is read as it was, or as no text if it was none, is readable. -/
theorem readable_of_readValue {setting : Setting} {fuel : ℕ} {rest rest' : List Char} {v : Toml}
    (hnext : Continues rest) (hnumber : ∀ x, setting = .number x → x.Usual)
    (hread : readValue (fuel + 1) (setting.found ++ '\n' :: rest) = .ok (v, rest'))
    (htext : ∀ s body, setting = .text s → v = .text body → body = s) : setting.Readable := by
  cases setting with
  | text s =>
    have hfound : found (.text s) ++ '\n' :: rest = '"' :: (joinLineEnds s.toList ++ '"' :: '\n' :: rest) := by
      rw [found]
      simp
    rw [hfound, readValue] at hread
    have hstring := eq_some_of_demand hread
    obtain ⟨⟨body, left⟩, hbody, heq⟩ := Option.map_eq_some_iff.mp hstring
    cases heq
    have hsame : body = s.toList := by
      rw [← htext s (String.ofList body) rfl rfl, String.toList_ofList]
    rw [hsame] at hbody
    exact plain_of_readString hnext hbody
  | integer n =>
    have hshort := readValue_ofInt fuel n rest
    by_contra hlong
    rw [if_pos (not_le.mp hlong)] at hshort
    rw [found, hshort] at hread
    cases hread
  | number x => exact hnumber x rfl

end Setting

/-! ## Lines of settings -/

/-- The lines of settings in front of a text, for a way in which each setting is written. -/
def settingLines (write : Setting → List Char) (rest : List Char) : List (String × Setting) → List Char
  | [] => rest
  | (name, setting) :: settings =>
    entryStart name.toList (write setting ++ '\n' :: settingLines write rest settings)

/-- The section that is open in a document, with the table of the document around what the section holds: values are
added to the section, and what it holds can be found. -/
structure InSection (header : List String) (around : Table → Table) : Prop where
  put : ∀ inner name value, List.lookup name inner = none →
    (around inner).putAt true header name value = some (around (inner ++ [(name, value)]))
  holds : ∀ inner name s, List.lookup name inner = some (.text s) → Table.Holds header name s (around inner)

/-- Settings whose names are bare, different from each other and new to a table. -/
structure Fresh (inner : Table) (settings : List (String × Setting)) : Prop where
  bare : ∀ entry ∈ settings, IsBareName entry.1.toList
  distinct : (settings.map (·.1)).Nodup
  new : ∀ entry ∈ settings, List.lookup entry.1 inner = none

section Lines

variable {header : List String} {around : Table → Table} {inner : Table} {settings : List (String × Setting)}
  {opened : List (List String)} {rest : List Char}

/-- The settings behind the first one are new to a table that has the first one. -/
theorem Fresh.tail {name : String} {setting : Setting} (h : Fresh inner ((name, setting) :: settings)) :
    Fresh (inner ++ [(name, setting.value)]) settings := by
  obtain ⟨hname, hdistinct⟩ := List.nodup_cons.mp h.distinct
  refine ⟨fun entry hentry => h.bare entry (List.mem_cons_of_mem _ hentry), hdistinct, fun entry hentry => ?_⟩
  have hne : (entry.1 == name) = false := by
    rw [beq_eq_false_iff_ne]
    rintro rfl
    exact hname (List.mem_map.mpr ⟨entry, hentry, rfl⟩)
  rw [List.lookup_append, h.new entry (List.mem_cons_of_mem _ hentry)]
  simp [List.lookup_cons, hne]

/-- A setting is added to the section that is open. -/
theorem addEntry_section (h : InSection header around) {name : String} (hnew : List.lookup name inner = none)
    {value : Toml} (hvalue : value.isContainer = false) :
    Document.addEntry [name] value ⟨around inner, header, opened, [], []⟩
      = some ⟨around (inner ++ [(name, value)]), header, opened, [], []⟩ := by
  have hput := h.put inner name value hnew
  unfold Document.addEntry Document.waypoints covers
  simp [hput, hvalue]

/-- The ends of lines are joined in the texts of settings only. -/
theorem joinLineEnds_settingLines (h : ∀ entry ∈ settings, IsBareName entry.1.toList) :
    joinLineEnds (settingLines (·.written.toList) rest settings)
      = settingLines Setting.found (joinLineEnds rest) settings := by
  induction settings with
  | nil => rfl
  | cons entry settings ih =>
    obtain ⟨name, setting⟩ := entry
    have hname := h _ List.mem_cons_self
    rw [settingLines, entryStart, joinLineEnds_front hname.ne_return, joinLineEnds_cons (by decide),
      joinLineEnds_cons (by decide), joinLineEnds_cons (by decide), Setting.joinLineEnds_written,
      ih fun entry hentry => h entry (List.mem_cons_of_mem _ hentry)]
    rfl

/-- A line of a setting may stand behind another one. -/
theorem continues_settingLines (h : ∀ entry ∈ settings, IsBareName entry.1.toList) (hrest : Continues rest) :
    Continues (settingLines Setting.found rest settings) := by
  cases settings with
  | nil => exact hrest
  | cons entry settings =>
    obtain ⟨name, setting⟩ := entry
    have hname := h _ List.mem_cons_self
    obtain ⟨b, bs, hcons⟩ := List.exists_cons_of_ne_nil hname.ne_nil
    have hb : isBare b = true := hname.bare b (hcons ▸ List.mem_cons_self)
    intro c hc
    rw [settingLines, entryStart, hcons] at hc
    cases hc
    exact ⟨ne_of_isBare hb (by decide), ne_of_isBare hb (by decide), ne_of_isBare hb (by decide)⟩

/-- A readable setting is read into the section that is open. -/
theorem readLines_setting (hsection : InSection header around) {name : String} {setting : Setting}
    (hbare : IsBareName name.toList) (hnew : List.lookup name inner = none) (hreadable : setting.Readable)
    (fuel : ℕ) (rest : List Char) :
    readLines (fuel + 1) ⟨around inner, header, opened, [], []⟩
        (entryStart name.toList (setting.found ++ '\n' :: rest))
      = readLines fuel ⟨around (inner ++ [(name, setting.value)]), header, opened, [], []⟩ rest := by
  obtain ⟨c, cs, hfound, hgap⟩ := setting.exists_found_eq_cons
  have hstart : ∀ d ∈ setting.found.head?, isGap d = false := by
    intro d hd
    rw [hfound] at hd
    cases hd
    exact hgap
  have hne : setting.found ≠ [] := by
    rw [hfound]
    exact List.cons_ne_nil c cs
  have hadd : Document.addEntry [String.ofList name.toList] setting.value ⟨around inner, header, opened, [], []⟩
      = some ⟨around (inner ++ [(name, setting.value)]), header, opened, [], []⟩ := by
    rw [String.ofList_toList]
    exact addEntry_section hsection hnew setting.value_isContainer
  exact readLines_entry hbare (fun fuel => Setting.readValue_found hreadable fuel rest) hstart hne hadd fuel

/-- Readable settings are read into the section that is open. -/
theorem readLines_settings (hsection : InSection header around) (hfresh : Fresh inner settings)
    (hreadable : ∀ entry ∈ settings, entry.2.Readable) (fuel : ℕ) :
    readLines (fuel + settings.length) ⟨around inner, header, opened, [], []⟩
        (settingLines Setting.found rest settings)
      = readLines fuel
          ⟨around (inner ++ settings.map fun entry => (entry.1, entry.2.value)), header, opened, [], []⟩ rest := by
  induction settings generalizing inner with
  | nil => simp [settingLines]
  | cons entry settings ih =>
    obtain ⟨name, setting⟩ := entry
    calc readLines (fuel + settings.length + 1) ⟨around inner, header, opened, [], []⟩ _
        = readLines (fuel + settings.length)
            ⟨around (inner ++ [(name, setting.value)]), header, opened, [], []⟩ _ :=
          readLines_setting hsection (hfresh.bare _ List.mem_cons_self) (hfresh.new _ List.mem_cons_self)
            (hreadable _ List.mem_cons_self) _ _
      _ = _ := ih hfresh.tail fun entry hentry => hreadable entry (List.mem_cons_of_mem _ hentry)
      _ = _ := by rw [List.append_assoc, List.singleton_append, List.map_cons]

/-- If a document is read behind the lines of settings and has no other texts than theirs, the settings are
readable. -/
theorem readable_of_readLines (hsection : InSection header around) (hfresh : Fresh inner settings)
    (hrest : Continues rest) (husual : ∀ name x, (name, .number x) ∈ settings → x.Usual) {fuel : ℕ}
    {final : Document}
    (hread : readLines (fuel + settings.length) ⟨around inner, header, opened, [], []⟩
      (settingLines Setting.found rest settings) = .ok final)
    (htexts : ∀ name s body, (name, .text s) ∈ settings → Table.Holds header name body final.root → body = s) :
    ∀ entry ∈ settings, entry.2.Readable := by
  induction settings generalizing inner with
  | nil =>
    intro entry hentry
    cases hentry
  | cons entry settings ih =>
    obtain ⟨name, setting⟩ := entry
    have hbare := hfresh.bare _ List.mem_cons_self
    have hnew := hfresh.new _ List.mem_cons_self
    have hnext : Continues (settingLines Setting.found rest settings) :=
      continues_settingLines (fun entry hentry => hfresh.bare entry (List.mem_cons_of_mem _ hentry)) hrest
    obtain ⟨c, cs, hfound, hgap⟩ := setting.exists_found_eq_cons
    -- the first line puts a value into the document, which is still found at the end
    have hfirst : setting.Readable := by
      have hline := hread
      rw [settingLines, hfound, List.cons_append] at hline
      obtain ⟨n, v, left, d', hvalue, hadd, hkeeps⟩ := exists_of_readLines_entry hbare hgap hline
      rw [← List.cons_append, ← hfound] at hvalue
      refine Setting.readable_of_readValue hnext (fun x hx => husual name x ?_) hvalue fun s body hs hv => ?_
      · rw [← hx]
        exact List.mem_cons_self
      · subst hs hv
        rw [String.ofList_toList, addEntry_section hsection hnew rfl] at hadd
        cases hadd
        have hholds : Table.Holds header name body (around (inner ++ [(name, .text body)])) := by
          apply hsection.holds
          simp [List.lookup_append, hnew]
        exact htexts name s body List.mem_cons_self (hkeeps header name body hholds)
    have hlater : ∀ entry ∈ settings, entry.2.Readable := by
      refine ih hfresh.tail (fun name x hx => husual name x (List.mem_cons_of_mem _ hx)) ?_
        fun name s body hs => htexts name s body (List.mem_cons_of_mem _ hs)
      rw [← hread]
      exact (readLines_setting hsection hbare hnew hfirst (fuel + settings.length) _).symm
    intro entry hentry
    rcases List.mem_cons.mp hentry with rfl | hmem
    · exact hfirst
    · exact hlater entry hmem

end Lines

end MqttProfile
