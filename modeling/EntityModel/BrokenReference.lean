import EntityModel.Kinds

/-!
# EntityModel.BrokenReference

References by name that do not resolve: which node holds the reference, in which field, and what it
names. The checks on a model and the traversal of a graph report them alike.
-/

namespace EntityModel

/-- The fields of a node that refer to another node by name. -/
inductive ReferenceField where
  | keyProperty
  | baseType
  | association
  | entityType
  | dependentProperty
  | elementType
  | sourceSet
  | targetSet
  | associationType
  | type
deriving DecidableEq

def ReferenceField.name : ReferenceField → String
  | keyProperty => "key property"
  | baseType => "base type"
  | association => "association"
  | entityType => "entity type"
  | dependentProperty => "dependent property"
  | elementType => "element type"
  | sourceSet => "source set"
  | targetSet => "target set"
  | associationType => "association type"
  | type => "type"

/-- The node of kind `owner` called `name` refers by `field` to `target`, which is not there. A node
without a name of its own goes by the name of the node that declares it. -/
structure BrokenReference where
  owner : NodeKind
  name : String
  field : ReferenceField
  target : String
deriving DecidableEq

def BrokenReference.message (r : BrokenReference) : String :=
  s!"{r.owner.name} '{r.name}': {r.field.name} '{r.target}' does not resolve"

end EntityModel
