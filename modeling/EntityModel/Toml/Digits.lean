/-!
# EntityModel.Toml.Digits

Digits in a base up to sixteen.
-/

namespace EntityModel
namespace Toml

/-- The value of a digit in a base up to sixteen. -/
def digit? (base : Nat) (c : Char) : Option Nat :=
  let value? :=
    if '0' ≤ c && c ≤ '9' then some (c.toNat - '0'.toNat)
    else if 'a' ≤ c && c ≤ 'f' then some (c.toNat - 'a'.toNat + 10)
    else if 'A' ≤ c && c ≤ 'F' then some (c.toNat - 'A'.toNat + 10)
    else none
  value?.filter (· < base)

def isDigit (base : Nat) (c : Char) : Bool :=
  (digit? base c).isSome

def ofDigits (base : Nat) (digits : List Nat) : Nat :=
  digits.foldl (fun n d => n * base + d) 0

/-- The number that digits write; at least one is needed. -/
def natural? (base : Nat) (s : List Char) : Option Nat :=
  if s.isEmpty then none else (s.mapM (digit? base)).map (ofDigits base)

end Toml
end EntityModel
