import EntityModel.Config
import EntityModel.Visit.Visitor

/-!
# EntityModel.Visit.Log

The dispatch log: a visitor that records every dispatch in call order and then takes the default
descent. Functions are reached only if its configuration enables them.
-/

namespace EntityModel

/-- A recorded dispatch. -/
structure Dispatch where
  point : Point
  name? : Option String
deriving DecidableEq

structure DispatchLog where
  config : TraversalConfig := {}
  entries : Array Dispatch := #[]

namespace DispatchLog

def record (log : DispatchLog) (c : Call) : DispatchLog :=
  { log with entries := log.entries.push ⟨c.point, c.name?⟩ }

def clear (log : DispatchLog) : DispatchLog :=
  { log with entries := #[] }

/-- How often a point was dispatched. -/
def count (log : DispatchLog) (point : Point) : Nat :=
  (log.entries.toList.filter fun entry => entry.point == point).length

/-- The names recorded at a point, in call order. -/
def names (log : DispatchLog) (point : Point) : List String :=
  (log.entries.toList.filter fun entry => entry.point == point).filterMap (·.name?)

/-- The points that were dispatched at all, with how often, in declaration order. -/
def counts (log : DispatchLog) : List (Point × Nat) :=
  ((Enumeration.all : List Point).map fun point => (point, log.count point)).filter (·.2 != 0)

def visitor : Visitor DispatchLog BrokenReference where
  dispatch c walk := (Effect.update (·.record c)).andThen walk
  functions log := (log.config.functionsEnabled, log)
  ofBroken reference := reference

end DispatchLog

end EntityModel
