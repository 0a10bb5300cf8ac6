import EntityModel.TypeReference

/-!
# EntityModel.Property

The members of structured types: a `Property` has a type, a `NavigationProperty` travels along an
association from one end to the other.
-/

namespace EntityModel

structure Property where
  name : String
  type : TypeReference
  annotations : Annotations AnnotationValue := {}

instance : NamedNode Property where
  kind := .property
  annotations := Property.annotations
  setAnnotations store node := { node with annotations := store }
  name := Property.name

/-- `association` names an association type of the same namespace. -/
structure NavigationProperty where
  name : String
  association : String
  origin : EndRole
  annotations : Annotations AnnotationValue := {}

instance : NamedNode NavigationProperty where
  kind := .navigationProperty
  annotations := NavigationProperty.annotations
  setAnnotations store node := { node with annotations := store }
  name := NavigationProperty.name

/-- The end that the property leads to. -/
def NavigationProperty.destination (node : NavigationProperty) : EndRole :=
  node.origin.opposite

end EntityModel
