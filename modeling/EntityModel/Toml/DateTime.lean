import EntityModel.Toml.Digits

/-!
# EntityModel.Toml.DateTime

Dates and times: a date, a time, or both, and then an offset may follow. Seconds may be left out; a
fraction needs them.
-/

namespace EntityModel
namespace Toml

/-- The value of a fixed number of decimal digits. -/
def fixedDigits? (width : Nat) (s : List Char) : Option Nat :=
  if s.length = width then natural? 10 s else none

def isLeapYear (year : Nat) : Bool :=
  year % 4 == 0 && (year % 100 != 0 || year % 400 == 0)

def daysInMonth (year month : Nat) : Nat :=
  if month = 2 then if isLeapYear year then 29 else 28
  else if month = 4 || month = 6 || month = 9 || month = 11 then 30
  else 31

def isDate (s : List Char) : Bool :=
  match s with
  | y₁ :: y₂ :: y₃ :: y₄ :: '-' :: m₁ :: m₂ :: '-' :: day =>
    match fixedDigits? 4 [y₁, y₂, y₃, y₄], fixedDigits? 2 [m₁, m₂], fixedDigits? 2 day with
    | some year, some month, some day =>
      1 ≤ month && month ≤ 12 && 1 ≤ day && day ≤ daysInMonth year month
    | _, _, _ => false
  | _ => false

/-- Two digits up to a limit. -/
def isAtMost (limit : Nat) (s : List Char) : Bool :=
  (fixedDigits? 2 s).any (· ≤ limit)

def isHourMinute : List Char → Bool
  | h₁ :: h₂ :: ':' :: minute => isAtMost 23 [h₁, h₂] && isAtMost 59 minute
  | _ => false

def isFraction : List Char → Bool
  | [] => true
  | '.' :: digits => !digits.isEmpty && digits.all (isDigit 10)
  | _ => false

/-- A second may be a leap second. -/
def isTime : List Char → Bool
  | h₁ :: h₂ :: c :: m₁ :: m₂ :: ':' :: s₁ :: s₂ :: fraction =>
    isHourMinute [h₁, h₂, c, m₁, m₂] && isAtMost 60 [s₁, s₂] && isFraction fraction
  | s => isHourMinute s

def isOffset (s : List Char) : Bool :=
  match s with
  | ['Z'] => true
  | ['z'] => true
  | '+' :: rest => isHourMinute rest
  | '-' :: rest => isHourMinute rest
  | _ => false

def isTimeWithOffset (s : List Char) : Bool :=
  isTime s || (List.range (s.length + 1)).any fun n => isTime (s.take n) && isOffset (s.drop n)

/-- A date has ten characters, and one more stands between it and a time. -/
def isDateTime (s : List Char) : Bool :=
  isDate s || isTime s ||
    (isDate (s.take 10) &&
      match s.drop 10 with
      | c :: time => (c == 'T' || c == 't' || c == ' ') && isTimeWithOffset time
      | [] => false)

end Toml
end EntityModel
