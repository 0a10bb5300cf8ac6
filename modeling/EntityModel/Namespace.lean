import EntityModel.StructuredType
import EntityModel.EnumType
import EntityModel.Association
import EntityModel.Function

/-!
# EntityModel.Namespace

Namespaces: the declared types, associations and function groups under one name, with a look-up for
each kind of type. `Namespace.itemNames` lists all names that share the namespace's scope.
-/

namespace EntityModel

structure Namespace where
  name : String
  annotations : Annotations AnnotationValue := {}
  complexTypes : List ComplexType := []
  entityTypes : List EntityType := []
  enumTypes : List EnumType := []
  associationTypes : List AssociationType := []
  functionGroups : List FunctionGroup := []

instance : NamedNode Namespace where
  kind := .ns
  annotations := Namespace.annotations
  setAnnotations store node := { node with annotations := store }
  name := Namespace.name

namespace Namespace

def addComplexType (ns : Namespace) (item : ComplexType) : Namespace :=
  { ns with complexTypes := ns.complexTypes ++ [item] }

def addEntityType (ns : Namespace) (item : EntityType) : Namespace :=
  { ns with entityTypes := ns.entityTypes ++ [item] }

def addEnumType (ns : Namespace) (item : EnumType) : Namespace :=
  { ns with enumTypes := ns.enumTypes ++ [item] }

def addAssociationType (ns : Namespace) (item : AssociationType) : Namespace :=
  { ns with associationTypes := ns.associationTypes ++ [item] }

def addFunctionGroup (ns : Namespace) (item : FunctionGroup) : Namespace :=
  { ns with functionGroups := ns.functionGroups ++ [item] }

/-! ## Look-up -/

def findComplexType? (ns : Namespace) (name : String) : Option ComplexType :=
  findNamed? name ns.complexTypes

def findEntityType? (ns : Namespace) (name : String) : Option EntityType :=
  findNamed? name ns.entityTypes

def findEnumType? (ns : Namespace) (name : String) : Option EnumType :=
  findNamed? name ns.enumTypes

def findAssociationType? (ns : Namespace) (name : String) : Option AssociationType :=
  findNamed? name ns.associationTypes

/-- The named items of the namespace, collection by collection. -/
def items (ns : Namespace) : List NamedItem :=
  ns.complexTypes.map namedItem ++ ns.entityTypes.map namedItem ++ ns.enumTypes.map namedItem ++
    ns.associationTypes.map namedItem ++ ns.functionGroups.map namedItem

def itemNames (ns : Namespace) : List String :=
  ns.items.map (·.name)

end Namespace

end EntityModel
