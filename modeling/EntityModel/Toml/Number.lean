import EntityModel.Binary64.Decimal
import EntityModel.Toml.Digits
import EntityModel.Toml.Value

/-!
# EntityModel.Toml.Number

Numbers. Whether a word is written like a number is one question, which number it writes another:
an integer of more than sixty-four bits, a float beyond the largest one and an integer with a
letter among its grouped digits are written like numbers and have no value.

* `isIntegerWord`, `isFloatWord`, `radixDigits?`: how numbers are written.
* `integerValue?`, `floatValue?`: what they are worth, underscores apart.
* `number?`: the value of a word that is written like a number.
-/

namespace EntityModel
namespace Toml

/-- A sign that may be there, and whether it is a minus. -/
def splitSign : List Char → Bool × List Char
  | '-' :: rest => (true, rest)
  | '+' :: rest => (false, rest)
  | s => (false, s)

def signed (negative : Bool) (n : Nat) : Int :=
  if negative then -(n : Int) else n

/-! ## Underscores -/

/-- After a first character, every underscore stands between two digits. -/
def areUnderscoresBetween (isDigit : Char → Bool) : List Char → Bool
  | [] => true
  | [c] => c != '_'
  | a :: b :: rest =>
    (b != '_' || (isDigit a && rest.head?.any isDigit)) &&
      areUnderscoresBetween isDigit (b :: rest)

/-- Every underscore stands between two digits, and none comes first. -/
def isGrouped (isDigit : Char → Bool) (s : List Char) : Bool :=
  s.head? != some '_' && areUnderscoresBetween isDigit s

def withoutUnderscores (s : List Char) : List Char :=
  s.filter (· != '_')

/-! ## Integers -/

/-- The base and the digits of an integer that names its base. -/
def radixDigits? : List Char → Option (Nat × List Char)
  | '0' :: 'x' :: rest => some (16, rest)
  | '0' :: 'o' :: rest => some (8, rest)
  | '0' :: 'b' :: rest => some (2, rest)
  | _ => none

/-- The marks that only floats have. -/
def isFloatMark (c : Char) : Bool :=
  c == '.' || c == 'e' || c == 'E'

/-- Decimal digits without a needless zero in front. From the first underscore on only a space is
ruled out, and what stands beside an underscore, which may be any digit up to `f`. -/
def isDecimalWord (s : List Char) : Bool :=
  let body := (splitSign s).2
  let rest := body.dropWhile (isDigit 10)
  !body.isEmpty && (body.length == 1 || body.head? != some '0') &&
    (rest.isEmpty || rest.head? == some '_') && !rest.contains ' ' && !rest.any isFloatMark &&
    isGrouped (isDigit 16) s

/-- The digits of a named base may all be missing. -/
def isIntegerWord (s : List Char) : Bool :=
  match radixDigits? s with
  | some (base, rest) =>
    (rest.all fun c => isDigit base c || c == '_') && isGrouped (isDigit base) rest
  | none => isDecimalWord s

def integerValue? (s : List Char) : Option Int :=
  let unlimited? : Option Int :=
    match radixDigits? s with
    | some (base, rest) => (natural? base (withoutUnderscores rest)).map fun n => (n : Int)
    | none =>
      let (negative, digits) := splitSign (withoutUnderscores s)
      (natural? 10 digits).map (signed negative)
  unlimited?.filter fun n => -0x8000000000000000 ≤ n && n < 0x8000000000000000

/-! ## Floats -/

/-- What follows a run of digits and underscores with at least one digit. Where `zeros` is not set
there is no zero in front of another digit. -/
def skipDigits? (zeros : Bool) (s : List Char) : Option (List Char) :=
  let run := s.takeWhile fun c => isDigit 10 c || c == '_'
  let count := (run.filter (isDigit 10)).length
  if count = 0 || (!zeros && count > 1 && run.head? == some '0') then none
  else some (s.drop run.length)

def skipFraction? : List Char → Option (List Char)
  | '.' :: rest => skipDigits? true rest
  | s => some s

def skipExponent? : List Char → Option (List Char)
  | 'e' :: rest => skipDigits? true (splitSign rest).2
  | 'E' :: rest => skipDigits? true (splitSign rest).2
  | s => some s

/-- A whole part, and then a fraction, an exponent or both. -/
def isFloatWord (s : List Char) : Bool :=
  let body := (splitSign s).2
  let rest := ((skipDigits? false body).bind skipFraction?).bind skipExponent?
  body.any isFloatMark && rest == some [] && isGrouped (isDigit 10) s

/-- The text before and after the first character of a kind. -/
def splitAtFirst (found : Char → Bool) (s : List Char) : List Char × List Char :=
  (s.takeWhile fun c => !found c, (s.dropWhile fun c => !found c).drop 1)

/-- The number whose whole part, fraction and exponent are given by their digits, none by none. -/
def floatValue? (s : List Char) : Option Binary64 :=
  let (negative, body) := splitSign (withoutUnderscores s)
  let (mantissa, exponent) := splitAtFirst (fun c => c == 'e' || c == 'E') body
  let (whole, fraction) := splitAtFirst (· == '.') mantissa
  let (down, places) := splitSign exponent
  let power := signed down ((natural? 10 places).getD 0) - (fraction.length : Int)
  let magnitude? := (natural? 10 (whole ++ fraction)).bind (Binary64.ofDecimal? · power)
  magnitude?.map fun x => if negative then x.negate else x

/-- The words for what is no finite number. -/
def special? (s : List Char) : Option Binary64 :=
  let (negative, body) := splitSign s
  let magnitude? :=
    if body = ['i', 'n', 'f'] then some Binary64.infinity
    else if body = ['n', 'a', 'n'] then some Binary64.nan
    else none
  magnitude?.map fun x => if negative then x.negate else x

/-! ## Words -/

def number? (s : List Char) : Option Value :=
  match special? s with
  | some x => some (.float x)
  | none =>
    if isIntegerWord s then some (((integerValue? s).map .integer).getD .unreadable)
    else if isFloatWord s then some (((floatValue? s).map .float).getD .unreadable)
    else none

end Toml
end EntityModel
