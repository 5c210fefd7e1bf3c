import MqttProfile.Binary64.Basic

/-!
# TOML values

A document is a table of values by name, in the order in which the names appear.  Of dates and times no
more is kept than that they are there.
-/

namespace MqttProfile

/-- A TOML value. -/
inductive Toml where
  | text (s : String)
  | integer (n : Int)
  | float (x : Binary64)
  | boolean (b : Bool)
  | moment
  | array (items : List Toml)
  | table (entries : List (String × Toml))
deriving Inhabited

namespace Toml

/-- Why a text is not read. -/
inductive Failure where
  /-- The text is not TOML. -/
  | malformed
  /-- A decimal integer has more digits than are converted. -/
  | tooLong
deriving DecidableEq, Repr

/-- What was read, if the text is TOML so far. -/
def demand {α : Type} : Option α → Except Failure α
  | some a => .ok a
  | none => .error .malformed

/-- A table: values by name. -/
abbrev Table := List (String × Toml)

/-- Whether a value is closed to later statements: arrays and tables that are written as values are. -/
def isContainer : Toml → Bool
  | .array _ | .table _ => true
  | _ => false

namespace Table

/-- The table with another value for a name that it has. -/
def replace (name : String) (value : Toml) (entries : Table) : Table :=
  entries.map fun (n, v) => if n = name then (n, value) else (n, v)

/-- The table with a value for a name that it does not have yet. -/
def add? (name : String) (value : Toml) (entries : Table) : Option Table :=
  match entries.lookup name with
  | some _ => none
  | none => some (entries ++ [(name, value)])

/-- Changes the table at a path.  Tables that are missing on the way are made; an array on the way stands
for its last table, if arrays may be entered at all. -/
def changeAt (enterArrays : Bool) (change : Table → Option Table) : List String → Table → Option Table
  | [], entries => change entries
  | name :: path, entries =>
    match entries.lookup name with
    | none => (changeAt enterArrays change path []).map fun inner => entries ++ [(name, .table inner)]
    | some (.table inner) =>
      (changeAt enterArrays change path inner).map fun inner => entries.replace name (.table inner)
    | some (.array items) =>
      match enterArrays, items.getLast? with
      | true, some (.table inner) =>
        (changeAt enterArrays change path inner).map fun inner =>
          entries.replace name (.array (items.dropLast ++ [.table inner]))
      | _, _ => none
    | some _ => none

/-- The table with a value at a path that must be free; arrays are entered or not. -/
def putAt (enterArrays : Bool) (path : List String) (name : String) (value : Toml) (entries : Table) :
    Option Table :=
  changeAt enterArrays (add? name value) path entries

/-- The table with one more, empty table in the array of a name. -/
def appendTable (name : String) (entries : Table) : Option Table :=
  match entries.lookup name with
  | none => some (entries ++ [(name, .array [.table []])])
  | some (.array items) => some (entries.replace name (.array (items ++ [.table []])))
  | some _ => none

end Table

end Toml

end MqttProfile
