import EntityModel.Toml.DateTime
import EntityModel.Toml.Draft
import EntityModel.Toml.Number
import EntityModel.Toml.Text

/-!
# EntityModel.Toml.Document

Documents. A document is read line by line into statements: headers, headers in double brackets and
assignments. The statements are then carried out on an empty draft.

* `value`: the values, with arrays and tables in braces nested to a limited depth.
* `statements?`: the lines of a text.
* `Table.ofText?`: the table that a text describes, if it is a document at all.
* `parse`: the same, as a `Parser`.
-/

namespace EntityModel
namespace Toml

/-- The greatest depth of brackets and braces, and the greatest number of keys between dots. -/
def maxDepth : Nat := 80

/-! ## Keys -/

def isBareKeyCharacter (c : Char) : Bool :=
  c.isAlphanum || c == '_' || c == '-'

def simpleKey : Reader String := fun s =>
  let bare := s.takeWhile isBareKeyCharacter
  if bare.isEmpty then (lineText s).map fun (text, rest) => (String.ofList text, rest)
  else some (String.ofList bare, s.drop bare.length)

/-- A dot between two keys. -/
def nextAfterDot? (s : List Char) : Option (List Char) :=
  match skipBlanks s with
  | '.' :: rest => some (skipBlanks rest)
  | _ => none

/-- Keys between dots, not too many of them. -/
def keyPath : Reader KeyPath := fun s =>
  match items simpleKey nextAfterDot? s with
  | none => none
  | some (keys, rest) =>
    if keys.length ≤ maxDepth then
      keys.getLast?.map fun key => (⟨keys.dropLast, key⟩, rest)
    else none

/-- A key path, an equals sign and a value, with what `skip` passes over on either side of the
sign. -/
def assignment (skip : List Char → List Char) (value : Reader Value) :
    Reader (KeyPath × Value) := fun s =>
  match keyPath s with
  | none => none
  | some (path, rest) =>
    match skip rest with
    | '=' :: rest => (value (skip rest)).map fun (value, rest) => ((path, value), rest)
    | _ => none

/-! ## Values -/

/-- Neither a blank nor a line end nor a mark of the grammar. -/
def isWordCharacter (c : Char) : Bool :=
  !(isBlank c || c == '\n' || c == '=' || c == ',' || c == '#' || c == '[' || c == ']' ||
    c == '\x7b' || c == '\x7d')

/-- A word that is a value by itself. -/
def word? (s : List Char) : Option Value :=
  if s = "true".toList then some (.boolean true)
  else if s = "false".toList then some (.boolean false)
  else if isDateTime s then some .dateTime
  else number? s

/-- Words and the blanks after each of them. A text that follows a blank is none of the words. -/
def words (afterBlank : Bool) : List Char → List Char
  | [] => []
  | c :: rest =>
    if isBlank c then c :: words true rest
    else if isWordCharacter c && !(afterBlank && (c == '\x22' || c == '\x27')) then
      c :: words false rest
    else []

/-- The longest word in front. Blanks may stand inside it, as between a date and a time, but not at
its end. -/
def firstWord (s : List Char) : List Char :=
  ((words false s).reverse.dropWhile isBlank).reverse

/-- A value that holds no others. -/
def scalar : Reader Value := fun s =>
  match s.head? with
  | some '\x22' => (anyText s).map fun (text, rest) => (.string (String.ofList text), rest)
  | some '\x27' => (anyText s).map fun (text, rest) => (.string (String.ofList text), rest)
  | _ =>
    let word := firstWord s
    (word? word).map fun value => (value, s.drop word.length)

/-- A value in which brackets and braces nest up to `depth`. -/
def value : (depth : Nat) → Reader Value
  | 0, s => scalar s
  | depth + 1, s =>
    match s with
    | '[' :: rest => (bracketed ']' (value depth) rest).map fun (xs, rest) => (.array xs, rest)
    | '\x7b' :: rest =>
      match bracketed '\x7d' (assignment skipGap (value depth)) rest with
      | none => none
      | some (assignments, rest) =>
        (Draft.ofAssignments? assignments).map fun draft => (.table draft.finish, rest)
    | _ => scalar s

/-! ## Statements -/

inductive Statement where
  /-- The header `[path]`. -/
  | declare (path : KeyPath)
  /-- The header `[[path]]`. -/
  | append (path : KeyPath)
  /-- The line `path = value`. -/
  | assign (path : KeyPath) (value : Value)

/-- The path of a header between its brackets. -/
def headerPath : Reader KeyPath := fun s =>
  (keyPath (skipBlanks s)).map fun (path, rest) => (path, skipBlanks rest)

def statement : Reader Statement
  | '[' :: '[' :: rest =>
    match headerPath rest with
    | some (path, ']' :: ']' :: rest) => some (.append path, rest)
    | _ => none
  | '[' :: rest =>
    match headerPath rest with
    | some (path, ']' :: rest) => some (.declare path, rest)
    | _ => none
  | s => (assignment skipBlanks (value maxDepth) s).map fun (a, rest) => (.assign a.1 a.2, rest)

/-- A line, which may hold no statement. -/
def line : Reader (Option Statement) := fun s =>
  let start := skipToLineEnd s
  if start.isEmpty || start.head? = some '\n' then some (none, start)
  else (statement (skipBlanks s)).map fun (statement, rest) => (some statement, skipToLineEnd rest)

def nextLine? : List Char → Option (List Char)
  | '\n' :: rest => some rest
  | _ => none

/-- A byte order mark before the first line does not count. -/
def skipByteOrderMark : List Char → List Char
  | '\uFEFF' :: rest => rest
  | s => s

def statements? (text : String) : Option (List Statement) :=
  let s := skipByteOrderMark text.toList
  if hasWholeLineEnds s then
    match items line nextLine? s with
    | some (lines, []) => some (lines.filterMap id)
    | _ => none
  else none

/-! ## Documents -/

/-- A document under way: its root and the keys of the table that assignments go to. -/
structure Progress where
  root : Draft
  current : List String

namespace Progress

def start : Progress := ⟨[], []⟩

def perform (p : Progress) : Statement → Option Progress
  | .declare path => (p.root.declare path).map fun root => ⟨root, path.keys⟩
  | .append path => (p.root.append path).map fun root => ⟨root, path.keys⟩
  | .assign path value =>
    (p.root.editAt p.current fun draft => draft.assign path value).map fun root =>
      ⟨root, p.current⟩

end Progress

/-- The table that a text describes. -/
def Table.ofText? (text : String) : Option Table :=
  match statements? text with
  | none => none
  | some statements =>
    (statements.foldlM Progress.perform Progress.start).map fun p => p.root.finish

/-- The parser. Of a text that is no document it does not say where it fails. -/
def parse : Parser := fun text =>
  match Table.ofText? text with
  | some table => .ok table
  | none => .error ⟨"malformed document"⟩

end Toml
end EntityModel
