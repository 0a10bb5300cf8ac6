import EntityModel.Item

/-!
# EntityModel.Association

Association types. An `AssociationType` owns its two ends; its referential constraint, if any,
points at one of the ends by role and at properties of that end's entity type by name.
-/

namespace EntityModel

/-- `entityType` names an entity type of the association's own namespace. -/
structure AssociationEnd where
  name : String
  entityType : String
  multiplicity : Multiplicity
  annotations : Annotations AnnotationValue := {}
  deleteAction : Option DeleteAction := none

instance : NamedNode AssociationEnd where
  kind := .associationEnd
  annotations := AssociationEnd.annotations
  setAnnotations store node := { node with annotations := store }
  name := AssociationEnd.name

structure AssociationConstraint where
  dependentEnd : EndRole
  annotations : Annotations AnnotationValue := {}
  dependentProperties : List String := []

instance : MetadataNode AssociationConstraint where
  kind := .associationConstraint
  annotations := AssociationConstraint.annotations
  setAnnotations store node := { node with annotations := store }

def AssociationConstraint.addDependentProperty (node : AssociationConstraint)
    (property : String) : AssociationConstraint :=
  { node with dependentProperties := node.dependentProperties ++ [property] }

structure AssociationType where
  name : String
  source : AssociationEnd
  target : AssociationEnd
  annotations : Annotations AnnotationValue := {}
  referentialConstraint : Option AssociationConstraint := none

instance : NamedNode AssociationType where
  kind := .associationType
  annotations := AssociationType.annotations
  setAnnotations store node := { node with annotations := store }
  name := AssociationType.name

/-- The end in a given role. -/
def AssociationType.endOf (node : AssociationType) : EndRole → AssociationEnd
  | .source => node.source
  | .target => node.target

end EntityModel
