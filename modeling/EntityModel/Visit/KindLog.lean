import EntityModel.Error
import EntityModel.Visit.Visitor

/-!
# EntityModel.Visit.KindLog

A visitor that steps in at two points only: it notes the kind of every item and every annotation
with the kind of the item that carries it, and keeps the trace of the run.
-/

namespace EntityModel

inductive KindEntry where
  | item (kind : NodeKind)
  | annotated (kind : NodeKind) (entry : AnnotationEntry AnnotationValue)
deriving DecidableEq

structure KindLog where
  functionsEnabled : Bool := false
  seen : Array KindEntry := #[]
  trace : Array TraceLine := #[]

namespace KindLog

def note (log : KindLog) (entry : KindEntry) : KindLog :=
  { log with seen := log.seen.push entry }

def dispatch : Call → Effect KindLog Error → Effect KindLog Error
  | .dataModelItem kind, _ => Effect.update (·.note (.item kind))
  | .annotationEntry item entry, _ => Effect.update (·.note (.annotated item.kind entry))
  | _, walk => walk

def visitor : Visitor KindLog Error where
  dispatch := dispatch
  functions log := (log.functionsEnabled, log)
  ofBroken := .visit
  observe line log := { log with trace := log.trace.push line }

end KindLog

/-- A visitor that never steps in and only keeps the trace. -/
def traceVisitor : Visitor (Array TraceLine) Error where
  dispatch _ walk := walk
  functions trace := (false, trace)
  ofBroken := .visit
  observe line trace := trace.push line

end EntityModel
