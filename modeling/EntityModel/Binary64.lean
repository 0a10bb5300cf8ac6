/-!
# EntityModel.Binary64

Sixty-four bit binary floating point numbers, held by their bits so that equality is decidable and
agrees with what is written. `Binary64.magnitude` reads the bits as `m * 2 ^ q`, the sign apart.
-/

namespace EntityModel

/-- A floating point number by its bits: sign, eleven bits of exponent, fifty-two of fraction. -/
structure Binary64 where
  bits : UInt64
deriving DecidableEq

namespace Binary64

def isNegative (x : Binary64) : Bool := x.bits >>> 63 == 1

def exponentField (x : Binary64) : Nat := ((x.bits >>> 52) &&& 0x7FF).toNat

def fractionField (x : Binary64) : Nat := (x.bits &&& 0xFFFFFFFFFFFFF).toNat

def isNaN (x : Binary64) : Bool := x.exponentField == 0x7FF && x.fractionField != 0

def isInfinite (x : Binary64) : Bool := x.exponentField == 0x7FF && x.fractionField == 0

def infinity : Binary64 := ⟨0x7FF0000000000000⟩

def nan : Binary64 := ⟨0x7FF8000000000000⟩

/-- The same number with the other sign. -/
def negate (x : Binary64) : Binary64 := ⟨x.bits ^^^ 0x8000000000000000⟩

/-- The magnitude `significand * 2 ^ exponent` of a finite number. `narrowBelow` says that the next
number below is half as far away as the next one above. -/
structure Magnitude where
  significand : Nat
  exponent : Int
  narrowBelow : Bool

/-- The magnitude of a finite number. -/
def magnitude (x : Binary64) : Magnitude :=
  if x.exponentField = 0 then ⟨x.fractionField, -1074, false⟩
  else ⟨Nat.pow 2 52 + x.fractionField, (x.exponentField : Int) - 1075,
    x.fractionField == 0 && x.exponentField > 1⟩

end Binary64

end EntityModel
