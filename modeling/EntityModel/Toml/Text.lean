import EntityModel.Toml.Digits
import EntityModel.Toml.Reader

/-!
# EntityModel.Toml.Text

Texts between quotation marks, which know escapes, and between apostrophes, which are taken as they
stand; each on one line, or on several between three marks.
-/

namespace EntityModel
namespace Toml

/-- The character with a code point, if there is one. -/
def scalar? (code : Nat) : Option Char :=
  if code.isValidChar then some (Char.ofNat code) else none

/-- What the characters before have left open inside a text. -/
inductive Pending where
  | nothing
  /-- A backslash. -/
  | escape
  /-- A code point that lacks hexadecimal digits. -/
  | code (lacking value : Nat)
  /-- A backslash at the end of a line, and whether that end is behind. -/
  | continuation (ended : Bool)
deriving DecidableEq

/-- The shape of a text: the characters that stand for themselves, and its end, which may give the
text a few more. -/
structure TextShape where
  plain : Char → Bool
  close? : Reader (List Char)

namespace Pending

/-- The end of a text is looked for unless an escape is open. -/
def settled : Pending → Bool
  | nothing => true
  | continuation ended => ended
  | _ => false

/-- A character with nothing open, and the text that it adds. -/
def plainNext (plain : Char → Bool) (c : Char) : Option (Pending × List Char) :=
  if c = '\\' then some (escape, [])
  else if plain c then some (nothing, [c])
  else none

/-- A character after a backslash. -/
def escapeNext (plain : Char → Bool) (c : Char) : Option (Pending × List Char) :=
  match c with
  | 'b' => some (nothing, ['\x08'])
  | 't' => some (nothing, ['\t'])
  | 'n' => some (nothing, ['\n'])
  | 'f' => some (nothing, ['\x0c'])
  | 'r' => some (nothing, ['\r'])
  | 'e' => some (nothing, ['\x1b'])
  | '\x22' => some (nothing, ['\x22'])
  | '\\' => some (nothing, ['\\'])
  | 'x' => some (code 2 0, [])
  | 'u' => some (code 4 0, [])
  | 'U' => some (code 8 0, [])
  | _ =>
    if isBlank c then some (continuation false, [])
    else if c = '\n' && plain c then some (continuation true, [])
    else none

/-- A character inside a code point. -/
def codeNext (lacking value : Nat) (c : Char) : Option (Pending × List Char) :=
  match digit? 16 c with
  | none => none
  | some digit =>
    let value := value * 16 + digit
    if lacking ≤ 1 then (scalar? value).map fun c => (nothing, [c])
    else some (code (lacking - 1) value, [])

/-- What is open after one more character, and the text that the character adds. -/
def next (plain : Char → Bool) (p : Pending) (c : Char) : Option (Pending × List Char) :=
  match p with
  | nothing => plainNext plain c
  | escape => escapeNext plain c
  | code lacking value => codeNext lacking value c
  | continuation ended =>
    if isBlank c then some (continuation ended, [])
    else if c = '\n' && plain c then some (continuation true, [])
    else if ended then plainNext plain c
    else none

end Pending

/-- The text up to its end. -/
def escapedText (shape : TextShape) : Pending → Reader (List Char)
  | _, [] => none
  | p, c :: rest =>
    match if p.settled then shape.close? (c :: rest) else none with
    | some (last, after) => some (last, after)
    | none =>
      match p.next shape.plain c with
      | none => none
      | some (p, added) =>
        (escapedText shape p rest).map fun (text, after) => (added ++ text, after)

/-- The text up to its end, without escapes. -/
def literalText (shape : TextShape) : Reader (List Char)
  | [] => none
  | c :: rest =>
    match shape.close? (c :: rest) with
    | some (last, after) => some (last, after)
    | none =>
      if shape.plain c then (literalText shape rest).map fun (text, after) => (c :: text, after)
      else none

/-- A text on one line ends at its mark. -/
def oneLine (mark : Char) : TextShape where
  plain := isPlain
  close? := fun
    | c :: rest => if c = mark then some ([], rest) else none
    | [] => none

/-- A text on several lines ends at three marks, and up to two marks before these belong to it. -/
def manyLines (mark : Char) : TextShape where
  plain := fun c => isPlain c || c == '\n' || c == '\r'
  close? := fun s =>
    let run := min (s.takeWhile (· == mark)).length 5
    if run < 3 then none else some (List.replicate (run - 3) mark, s.drop run)

/-- The line end right after three opening marks does not count. -/
def skipFirstLineEnd : List Char → List Char
  | '\n' :: rest => rest
  | '\r' :: '\n' :: rest => rest
  | rest => rest

/-- A text on one line, as keys may have it as well. -/
def lineText : Reader (List Char)
  | '\x22' :: rest => escapedText (oneLine '\x22') .nothing rest
  | '\x27' :: rest => literalText (oneLine '\x27') rest
  | _ => none

def anyText : Reader (List Char)
  | '\x22' :: '\x22' :: '\x22' :: rest =>
    escapedText (manyLines '\x22') .nothing (skipFirstLineEnd rest)
  | '\x27' :: '\x27' :: '\x27' :: rest => literalText (manyLines '\x27') (skipFirstLineEnd rest)
  | s => lineText s

end Toml
end EntityModel
