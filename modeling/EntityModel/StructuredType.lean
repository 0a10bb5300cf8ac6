import EntityModel.Property

/-!
# EntityModel.StructuredType

Complex types and entity types. The key of an entity type is a list of names of its own declared
properties, so a key property is reached once through the key and once as a declaration.
-/

namespace EntityModel

/-! ## Complex types -/

structure ComplexType where
  name : String
  annotations : Annotations AnnotationValue := {}
  isAbstract : Bool := false
  properties : List Property := []

instance : NamedNode ComplexType where
  kind := .complexType
  annotations := ComplexType.annotations
  setAnnotations store node := { node with annotations := store }
  name := ComplexType.name

namespace ComplexType

def addProperty (node : ComplexType) (property : Property) : ComplexType :=
  { node with properties := node.properties ++ [property] }

def findProperty? (node : ComplexType) (name : String) : Option Property :=
  findNamed? name node.properties

end ComplexType

/-! ## Entity types -/

/-- `baseType` is a qualified entity type name. -/
structure EntityType where
  name : String
  annotations : Annotations AnnotationValue := {}
  baseType : Option String := none
  isAbstract : Bool := false
  key : List String := []
  properties : List Property := []
  navigationProperties : List NavigationProperty := []

instance : NamedNode EntityType where
  kind := .entityType
  annotations := EntityType.annotations
  setAnnotations store node := { node with annotations := store }
  name := EntityType.name

namespace EntityType

def addKey (node : EntityType) (property : String) : EntityType :=
  { node with key := node.key ++ [property] }

def addProperty (node : EntityType) (property : Property) : EntityType :=
  { node with properties := node.properties ++ [property] }

def addNavigationProperty (node : EntityType) (property : NavigationProperty) : EntityType :=
  { node with navigationProperties := node.navigationProperties ++ [property] }

def findProperty? (node : EntityType) (name : String) : Option Property :=
  findNamed? name node.properties

def findNavigationProperty? (node : EntityType) (name : String) : Option NavigationProperty :=
  findNamed? name node.navigationProperties

/-- Properties and navigation properties, which share one scope. -/
def memberItems (node : EntityType) : List NamedItem :=
  node.properties.map namedItem ++ node.navigationProperties.map namedItem

end EntityType

end EntityModel
