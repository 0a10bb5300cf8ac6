import EntityModel.Binary64

/-!
# EntityModel.Binary64.Decimal

Decimal notation of binary floating point numbers, in exact arithmetic on natural numbers.

* `ofDecimal?`: the number nearest to `n * 10 ^ k`, a tie going to the even significand. What lies
  beyond the largest number has none.
* `shortest`: the fewest decimal digits that are nearer to the number than to any other, and of
  those the nearest; of two equally near the greater.
* `text`: these digits in positional notation, with a digit on either side of the point.
-/

namespace EntityModel
namespace Binary64

/-! ## From decimal -/

/-- The whole number nearest to a quotient, a tie going to the even one. -/
def nearestQuotient (num den : Nat) : Nat :=
  let whole := num / den
  let twice := 2 * (num % den)
  if twice < den || (twice == den && whole % 2 == 0) then whole else whole + 1

/-- The number nearest to `num / den`. Counted in the smallest positive number `2 ^ -1074`, the
quotient drops as many bits as it has beyond fifty-three, and a rounded significand that overflows
carries into the exponent field. -/
def ofRatio? (num den : Nat) : Option Binary64 :=
  let scaled := num * Nat.pow 2 1074
  let dropped := (scaled / den).log2 - 52
  let bits := dropped * Nat.pow 2 52 + nearestQuotient scaled (den * Nat.pow 2 dropped)
  if bits < 0x7FF * Nat.pow 2 52 then some ⟨UInt64.ofNat bits⟩ else none

/-- The number nearest to `significand * 10 ^ exponent`. Exponents far outside the range are settled
without computing the power. -/
def ofDecimal? (significand : Nat) (exponent : Int) : Option Binary64 :=
  if significand = 0 then some ⟨0⟩
  else if 400 < exponent then none
  else if exponent + significand.log2 < -400 then some ⟨0⟩
  else ofRatio? (significand * Nat.pow 10 exponent.toNat) (Nat.pow 10 (-exponent).toNat)

/-! ## To decimal -/

/-- A positive number and the ends of the interval that rounds to it, as numerators over `den`.
The ends belong to the interval if the significand is even. -/
structure Interval where
  low : Nat
  value : Nat
  high : Nat
  den : Nat
  closed : Bool

namespace Interval

/-- The ends lie halfway to the neighbours, so everything is counted in quarters of the last bit. -/
def ofMagnitude (m : Magnitude) : Interval :=
  let scale := Nat.pow 2 (m.exponent - 2).toNat
  let below := if m.narrowBelow then 1 else 2
  { low := (4 * m.significand - below) * scale
    value := 4 * m.significand * scale
    high := (4 * m.significand + 2) * scale
    den := Nat.pow 2 (2 - m.exponent).toNat
    closed := m.significand % 2 == 0 }

/-- The decimal `digits * 10 ^ k` lies in the interval. -/
def contains (i : Interval) (digits : Nat) (k : Int) : Bool :=
  let point := digits * Nat.pow 10 k.toNat * i.den
  let low := i.low * Nat.pow 10 (-k).toNat
  let high := i.high * Nat.pow 10 (-k).toNat
  if i.closed then low ≤ point && point ≤ high else low < point && point < high

/-- The multiple of `10 ^ k` in the interval that is nearest to the number. One of the two around
the number lies in the interval if any does. -/
def nearest? (i : Interval) (k : Int) : Option Nat :=
  let num := i.value * Nat.pow 10 (-k).toNat
  let den := i.den * Nat.pow 10 k.toNat
  let below := num / den
  match i.contains below k, i.contains (below + 1) k with
  | true, true => some (if 2 * (num % den) < den then below else below + 1)
  | true, false => some below
  | false, true => some (below + 1)
  | false, false => none

end Interval

/-- The exponents of ten at which digits can end, the coarsest first. -/
def decimalExponents : List Int :=
  (List.range 634).map fun n : Nat => (309 : Int) - n

/-- The fewest digits of a finite number other than zero, and their exponent. -/
def shortest (x : Binary64) : Nat × Int :=
  let interval := Interval.ofMagnitude x.magnitude
  (decimalExponents.findSome? fun k => (interval.nearest? k).map (·, k)).getD (0, 0)

/-- A number below `10 ^ width` with zeros before it. -/
def padded (width n : Nat) : String :=
  let digits := Nat.repr n
  String.ofList (List.replicate (width - digits.length) '0') ++ digits

def positional (digits : Nat) (exponent : Int) : String :=
  let places := (-exponent).toNat
  let scaled := digits * Nat.pow 10 exponent.toNat
  let unit := Nat.pow 10 places
  Nat.repr (scaled / unit) ++ "." ++ padded (max places 1) (scaled % unit)

def text (x : Binary64) : String :=
  if x.isNaN then "NaN"
  else
    let sign := if x.isNegative then "-" else ""
    if x.isInfinite then sign ++ "inf"
    else if x.magnitude.significand = 0 then sign ++ positional 0 0
    else sign ++ positional x.shortest.1 x.shortest.2

end Binary64
end EntityModel
