import EntityModel.BrokenReference

/-!
# EntityModel.Model.Defect

What can be wrong with an assembled model: an empty name, a name declared twice in one scope, a
reference that does not resolve, a spatial facet on a type that is not spatial, or an enum on a type
that is not integral.
-/

namespace EntityModel

/-- The facets that apply to spatial types only. -/
inductive SpatialFacet where
  | srid
  | variableSrid
deriving DecidableEq

def SpatialFacet.name : SpatialFacet → String
  | srid => "srid"
  | variableSrid => "variable srid"

inductive Defect where
  | emptyName (kind : NodeKind) (scope : String)
  | duplicateName (kind : NodeKind) (scope name : String)
  | danglingReference (reference : BrokenReference)
  | invalidFacet (owner : NodeKind) (name : String) (facet : SpatialFacet) (target : String)
  | nonIntegralEnum (name : String) (underlying : PrimitiveKind)
deriving DecidableEq

def Defect.message : Defect → String
  | emptyName kind scope => s!"{kind.name} in '{scope}' has an empty name"
  | duplicateName kind scope name => s!"duplicate {kind.name} name '{name}' in '{scope}'"
  | danglingReference reference => reference.message
  | invalidFacet owner name facet target =>
    s!"{owner.name} '{name}': facet {facet.name} does not apply to {target}"
  | nonIntegralEnum name underlying =>
    s!"enum type '{name}' cannot use non-integral underlying type {underlying.name}"

end EntityModel
