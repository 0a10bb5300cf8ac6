import EntityModel.Function

/-!
# EntityModel.Container

Entity containers: entity sets, association sets between them, and function imports.
-/

namespace EntityModel

/-- `elementType` is a qualified entity type name. -/
structure EntitySet where
  name : String
  elementType : String
  annotations : Annotations AnnotationValue := {}

instance : NamedNode EntitySet where
  kind := .entitySet
  annotations := EntitySet.annotations
  setAnnotations store node := { node with annotations := store }
  name := EntitySet.name

/-- `source` and `target` name entity sets of the same container; `associationType` is a qualified
association type name. -/
structure AssociationSet where
  name : String
  source : String
  target : String
  annotations : Annotations AnnotationValue := {}
  associationType : Option String := none

instance : NamedNode AssociationSet where
  kind := .associationSet
  annotations := AssociationSet.annotations
  setAnnotations store node := { node with annotations := store }
  name := AssociationSet.name

structure EntityContainer where
  name : String
  annotations : Annotations AnnotationValue := {}
  entitySets : List EntitySet := []
  associationSets : List AssociationSet := []
  functionImports : List FunctionImport := []

instance : NamedNode EntityContainer where
  kind := .entityContainer
  annotations := EntityContainer.annotations
  setAnnotations store node := { node with annotations := store }
  name := EntityContainer.name

namespace EntityContainer

def addEntitySet (container : EntityContainer) (item : EntitySet) : EntityContainer :=
  { container with entitySets := container.entitySets ++ [item] }

def addAssociationSet (container : EntityContainer) (item : AssociationSet) : EntityContainer :=
  { container with associationSets := container.associationSets ++ [item] }

def addFunctionImport (container : EntityContainer) (item : FunctionImport) : EntityContainer :=
  { container with functionImports := container.functionImports ++ [item] }

def findEntitySet? (container : EntityContainer) (name : String) : Option EntitySet :=
  findNamed? name container.entitySets

/-- The named items of the container, collection by collection. -/
def items (container : EntityContainer) : List NamedItem :=
  container.entitySets.map namedItem ++ container.associationSets.map namedItem ++
    container.functionImports.map namedItem

end EntityContainer

end EntityModel
