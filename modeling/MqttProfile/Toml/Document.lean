import MqttProfile.Toml.Scalar
import MqttProfile.Toml.Text

/-!
# TOML documents

Values, the statements of a document and the rules on which parts of it a statement may still change.
A table can be opened by a header once; arrays and tables that are written as values are closed for
good; and tables that come about by a dotted key cannot be opened any more once their section has ended.

Reading is driven by fuel, of which a text never needs more than it has characters.
-/

namespace MqttProfile.Toml

/-- The text behind blanks, ends of lines and comments. -/
def skipLines (inComment : Bool) : List Char → Option (List Char)
  | [] => some []
  | c :: rest =>
    if c = '\n' then skipLines false rest
    else if inComment then if isForbidden c then none else skipLines true rest
    else if isGap c then skipLines false rest
    else if c = '#' then skipLines true rest
    else some (c :: rest)

/-- The text behind a comment, which ends with its line. -/
def skipComment : List Char → Option (List Char)
  | '#' :: rest =>
    let (comment, rest) := rest.span (· != '\n')
    if comment.any isForbidden then none else some rest
  | rest => some rest

/-- Whether one of the paths leads to a path or to something that it is part of. -/
def covers (paths : List (List String)) (path : List String) : Bool :=
  paths.any (·.isPrefixOf path)

/-! ## Values -/

mutual

/-- Reads a value. -/
def readValue : Nat → List Char → Except Failure (Toml × List Char)
  | 0, _ => .error .malformed
  | fuel + 1, cs =>
    match cs with
    | '"' :: _ | '\'' :: _ =>
      demand ((readString cs).map fun (body, rest) => (.text (String.ofList body), rest))
    | '[' :: rest =>
      (demand (skipLines false rest)).bind fun rest =>
        match rest with
        | ']' :: rest => .ok (.array [], rest)
        | rest => (readItems fuel rest).map fun (items, rest) => (.array items, rest)
    | '\x7b' :: rest =>
      match skipGaps rest with
      | '\x7d' :: rest => .ok (.table [], rest)
      | rest => (readEntries fuel [] [] rest).map fun (entries, rest) => (.table entries, rest)
    | cs => readScalar cs

/-- Reads the items of an array up to and including its closing bracket. -/
def readItems : Nat → List Char → Except Failure (List Toml × List Char)
  | 0, _ => .error .malformed
  | fuel + 1, cs =>
    (readValue fuel cs).bind fun (item, rest) =>
      (demand (skipLines false rest)).bind fun rest =>
        match rest with
        | ']' :: rest => .ok ([item], rest)
        | ',' :: rest =>
          (demand (skipLines false rest)).bind fun rest =>
            match rest with
            | ']' :: rest => .ok ([item], rest)
            | rest => (readItems fuel rest).map fun (items, rest) => (item :: items, rest)
        | _ => .error .malformed

/-- Reads the rest of a table that is written as a value, up to and including its closing brace, given
the entries so far and the paths of those that are closed. -/
def readEntries : Nat → Table → List (List String) → List Char → Except Failure (Table × List Char)
  | 0, _, _, _ => .error .malformed
  | fuel + 1, entries, closed, cs =>
    (readEntry fuel cs).bind fun (path, value, rest) =>
      if covers closed path then .error .malformed
      else
        (demand (entries.putAt false path.dropLast (path.getLastD "") value)).bind fun entries =>
          match skipGaps rest with
          | '\x7d' :: rest => .ok (entries, rest)
          | ',' :: rest =>
            let closed := if value.isContainer then path :: closed else closed
            readEntries fuel entries closed (skipGaps rest)
          | _ => .error .malformed

/-- Reads a key, an equals sign and a value. -/
def readEntry : Nat → List Char → Except Failure (List String × Toml × List Char)
  | 0, _ => .error .malformed
  | fuel + 1, cs =>
    (demand (readKey cs)).bind fun (path, rest) =>
      match rest with
      | '=' :: rest => (readValue fuel (skipGaps rest)).map fun (value, rest) => (path, value, rest)
      | _ => .error .malformed

end

/-! ## Statements -/

/-- A document as far as it was read. -/
structure Document where
  root : Table
  /-- The path of the section that was opened last. -/
  header : List String
  /-- The tables that cannot be opened by a header any more. -/
  opened : List (List String)
  /-- The values that nothing can be added to. -/
  closed : List (List String)
  /-- The tables that cannot be opened once the section has ended. -/
  pending : List (List String)

namespace Document

def empty : Document := ⟨[], [], [], [], []⟩

/-- The document at the end of a section. -/
def endSection (d : Document) : Document :=
  { d with opened := d.pending ++ d.opened, pending := [] }

/-- Opens a table. -/
def openTable (path : List String) (d : Document) : Option Document :=
  if d.opened.contains path || covers d.closed path then none
  else
    (Table.changeAt true some path d.root).map fun root =>
      { d with root, header := path, opened := path :: d.opened }

/-- Opens one more table of an array of tables.  What was said about the one before it does not hold for
this one. -/
def openItem (path : List String) (d : Document) : Option Document :=
  if covers d.closed path then none
  else
    (Table.changeAt true (Table.appendTable (path.getLastD "")) path.dropLast d.root).map fun root =>
      { d with
        root
        header := path
        opened := path :: d.opened.filter fun p => !path.isPrefixOf p
        closed := d.closed.filter fun p => !path.isPrefixOf p }

/-- The tables on the way to an entry of a dotted key. -/
def waypoints (header path : List String) : List (List String) :=
  ((List.range path.length).drop 1).map fun n => header ++ path.take n

/-- Puts an entry into the section that is open. -/
def addEntry (path : List String) (value : Toml) (d : Document) : Option Document :=
  let way := waypoints d.header path
  let parent := d.header ++ path.dropLast
  if way.any d.opened.contains || covers d.closed parent then none
  else
    (d.root.putAt true parent (path.getLastD "") value).map fun root =>
      { d with
        root
        pending := way ++ d.pending
        closed := if value.isContainer then (d.header ++ path) :: d.closed else d.closed }

end Document

/-- Reads the statement at the front of a line, if there is one. -/
def readStatement (d : Document) (cs : List Char) : Except Failure (Document × List Char) :=
  match cs with
  | [] | '\n' :: _ | '#' :: _ => .ok (d, cs)
  | '[' :: '[' :: rest =>
    (demand (readKey (skipGaps rest))).bind fun (path, rest) =>
      match rest with
      | ']' :: ']' :: rest => (demand (d.endSection.openItem path)).map fun d => (d, rest)
      | _ => .error .malformed
  | '[' :: rest =>
    (demand (readKey (skipGaps rest))).bind fun (path, rest) =>
      match rest with
      | ']' :: rest => (demand (d.endSection.openTable path)).map fun d => (d, rest)
      | _ => .error .malformed
  | cs =>
    (readEntry (cs.length + 1) cs).bind fun (path, value, rest) =>
      (demand (d.addEntry path value)).map fun d => (d, rest)

/-- Reads line after line. -/
def readLines : Nat → Document → List Char → Except Failure Document
  | 0, _, _ => .error .malformed
  | fuel + 1, d, cs =>
    (readStatement d (skipGaps cs)).bind fun (d, rest) =>
      (demand (skipComment (skipGaps rest))).bind fun rest =>
        match rest with
        | [] => .ok d
        | '\n' :: rest => readLines fuel d rest
        | _ => .error .malformed

/-- The text with a line feed for each end of a line. -/
def joinLineEnds : List Char → List Char
  | '\r' :: '\n' :: rest => '\n' :: joinLineEnds rest
  | c :: rest => c :: joinLineEnds rest
  | [] => []

/-- The table of a document. -/
def read (s : String) : Except Failure Table :=
  let cs := joinLineEnds s.toList
  (readLines (cs.length + 1) .empty cs).map (·.root)

end MqttProfile.Toml
