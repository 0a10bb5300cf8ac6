/-!
# EntityModel.Toml.Reader

Reading from the front of a text: a reader takes what it understands and leaves the rest, or
refuses. Here are the pieces that every part of a document shares: blanks, comments, line ends and
items between separators.

Lines end in `'\n'`, which a carriage return may stand before. `hasWholeLineEnds` rules out any
other carriage return, so that it can be taken for a blank at the end of a line.
-/

namespace EntityModel
namespace Toml

abbrev Reader (α : Type) := List Char → Option (α × List Char)

/-- Every carriage return stands before a line feed. -/
def hasWholeLineEnds : List Char → Bool
  | [] => true
  | '\r' :: '\n' :: rest => hasWholeLineEnds rest
  | '\r' :: _ => false
  | _ :: rest => hasWholeLineEnds rest

/-! ## Blanks and comments -/

def isBlank (c : Char) : Bool :=
  c == ' ' || c == '\t' || c == '\r'

/-- The characters that comments and texts may hold as they are. -/
def isPlain (c : Char) : Bool :=
  c == '\t' || (' ' ≤ c && c ≤ '~') || '\x80' ≤ c

def skipBlanks (s : List Char) : List Char :=
  s.dropWhile isBlank

/-- Blanks and a comment, up to the end of the line. -/
def skipToLineEnd (s : List Char) : List Char :=
  match skipBlanks s with
  | '#' :: rest => skipBlanks (rest.dropWhile isPlain)
  | rest => rest

/-- Blanks, comments and line ends. -/
def skipGap (s : List Char) : List Char :=
  go false s
where
  go (inComment : Bool) : List Char → List Char
    | [] => []
    | c :: rest =>
      if c = '\n' then go false rest
      else if inComment then if isPlain c || isBlank c then go true rest else c :: rest
      else if isBlank c then go false rest
      else if c = '#' then go true rest
      else c :: rest

/-! ## Separated items -/

/-- An item, and more of them for as long as `next?` finds what stands between two. -/
def separated {α : Type} (item : Reader α) (next? : List Char → Option (List Char)) :
    Nat → Reader (List α)
  | 0, _ => none
  | fuel + 1, s =>
    match item s with
    | none => none
    | some (x, rest) =>
      match next? rest with
      | none => some ([x], rest)
      | some rest =>
        match separated item next? fuel rest with
        | none => none
        | some (xs, rest) => some (x :: xs, rest)

/-- As many items as the text holds. Every item but the last has a separator after it, so the length
of the text is fuel enough. -/
def items {α : Type} (item : Reader α) (next? : List Char → Option (List Char)) :
    Reader (List α) :=
  fun s => separated item next? (s.length + 1) s

/-- A comma that another item follows, and not the closing bracket. -/
def nextAfterComma? (close : Char) (s : List Char) : Option (List Char) :=
  match skipGap s with
  | ',' :: rest =>
    let rest := skipGap rest
    if rest.head? = some close then none else some rest
  | _ => none

/-- The end of a bracketed list, where the last item may be followed by a comma. -/
def skipClose? (close : Char) (s : List Char) : Option (List Char) :=
  let afterComma :=
    match skipGap s with
    | ',' :: rest => skipGap rest
    | rest => rest
  match afterComma with
  | c :: rest => if c = close then some rest else none
  | [] => none

/-- Items after an opening bracket, between commas and up to the closing bracket. Gaps may stand
around each. -/
def bracketed {α : Type} (close : Char) (item : Reader α) : Reader (List α) := fun s =>
  let start := skipGap s
  if start.head? = some close then some ([], start.tail)
  else
    match items item (nextAfterComma? close) start with
    | none => none
    | some (xs, rest) => (skipClose? close rest).map (xs, ·)

end Toml
end EntityModel
