import EntityModel.Model.Defects
import EntityModel.Trace

/-!
# EntityModel.Model.Assembly

Assembling a model from declarations. `assemble` gathers them; `build` hands the model out only if
it has no defects, and otherwise the first of them.

* `buildTraced`: a build with the lines that it reports.
* `build`: what a build hands out. `build_eq`: it is the assembled model, if that passes its checks.
-/

namespace EntityModel

/-- One declaration at the root of a model. -/
inductive Declaration where
  | version (version : Binary64)
  | annotate (key : String) (value : AnnotationValue)
  | ns (item : Namespace)
  | container (item : EntityContainer)

namespace Model

/-- A later version replaces an earlier one; all else accumulates. -/
def declare (m : Model) : Declaration → Model
  | .version version => { m with version := version }
  | .annotate key value => EntityModel.annotate key value m
  | .ns item => m.addNamespace item
  | .container item => m.addContainer item

/-- The model that the declarations describe, not yet checked. -/
def assemble (name : String) (declarations : List Declaration) : Model :=
  declarations.foldl declare { name := name }

/-- The model itself if it has no defects, or else the first of them. -/
def checked (m : Model) : Except Defect Model :=
  match m.defects with
  | [] => .ok m
  | defect :: _ => .error defect

/-- A build, and what it reports: of a model that is handed out how many namespaces and containers
it has, and otherwise nothing. -/
def buildTraced (name : String) (declarations : List Declaration) :
    Except Defect Model × List TraceLine :=
  match (assemble name declarations).checked with
  | .ok m => (.ok m, [.modelBuilt m.namespaces.length m.containers.length])
  | .error defect => (.error defect, [])

def build (name : String) (declarations : List Declaration) : Except Defect Model :=
  (buildTraced name declarations).1

theorem build_eq (name : String) (declarations : List Declaration) :
    build name declarations = (assemble name declarations).checked := by
  rw [build, buildTraced]
  cases (assemble name declarations).checked <;> rfl

end Model

end EntityModel
