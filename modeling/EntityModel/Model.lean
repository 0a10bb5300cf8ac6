import EntityModel.Binary64
import EntityModel.Container
import EntityModel.Namespace
import EntityModel.QualifiedName

/-!
# EntityModel.Model

The root of the graph: namespaces and containers under one name, with a schema version. References
across namespaces are qualified names, resolved by `Model.resolve?`.
-/

namespace EntityModel

/-- The schema version of a model that is given none: 3.0. -/
def defaultSchemaVersion : Binary64 := ⟨0x4008000000000000⟩

structure Model where
  name : String
  annotations : Annotations AnnotationValue := {}
  version : Binary64 := defaultSchemaVersion
  namespaces : List Namespace := []
  containers : List EntityContainer := []

instance : NamedNode Model where
  kind := .model
  annotations := Model.annotations
  setAnnotations store node := { node with annotations := store }
  name := Model.name

namespace Model

def addNamespace (m : Model) (ns : Namespace) : Model :=
  { m with namespaces := m.namespaces ++ [ns] }

def addContainer (m : Model) (container : EntityContainer) : Model :=
  { m with containers := m.containers ++ [container] }

def findNamespace? (m : Model) (name : String) : Option Namespace :=
  findNamed? name m.namespaces

def findContainer? (m : Model) (name : String) : Option EntityContainer :=
  findNamed? name m.containers

/-- What `find` finds under a qualified name: in the namespace it names, the item it names. -/
def resolve? {α : Type} (m : Model) (find : Namespace → String → Option α)
    (qualified : String) : Option α :=
  match QualifiedName.parse? qualified with
  | none => none
  | some q =>
    match m.findNamespace? q.ns with
    | none => none
    | some ns => find ns q.name

def findEntityType? (m : Model) (qualified : String) : Option EntityType :=
  m.resolve? Namespace.findEntityType? qualified

def findAssociationType? (m : Model) (qualified : String) : Option AssociationType :=
  m.resolve? Namespace.findAssociationType? qualified

def findComplexType? (m : Model) (qualified : String) : Option ComplexType :=
  m.resolve? Namespace.findComplexType? qualified

def findEnumType? (m : Model) (qualified : String) : Option EnumType :=
  m.resolve? Namespace.findEnumType? qualified

/-- A declared type resolves if it is found under its qualified name, a primitive one always. -/
def resolves (m : Model) : ReferencedType → Bool
  | .primitive _ => true
  | .complex name => (m.findComplexType? name).isSome
  | .enum name => (m.findEnumType? name).isSome
  | .entity name => (m.findEntityType? name).isSome

end Model

end EntityModel
