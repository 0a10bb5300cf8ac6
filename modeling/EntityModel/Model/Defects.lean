import EntityModel.Model
import EntityModel.Model.Defect

/-!
# EntityModel.Model.Defects

All defects of a model, in the order in which they are checked: the names of the model, of its
namespaces and of its containers first, then each namespace with everything declared in it, then
each container. A model without defects is well formed.

* `scopeDefects`: the names of one declaring scope are non-empty and distinct.
* `Model.typeReferenceDefects`: a type reference resolves, and spatial facets refine a spatial type.
* `Model.namespaceDefects`, `Model.containerDefects`, `Model.defects`.
-/

namespace EntityModel

/-! ## Names and references -/

def nameDefects (scope : String) (item : NamedItem) : List Defect :=
  if item.name.isEmpty then [.emptyName item.kind scope] else []

/-- The defects of the names of one scope, given the names that came before. An empty name is no
duplicate of another empty name. -/
def scopeDefectsAfter (scope : String) : List String → List NamedItem → List Defect
  | _, [] => []
  | seen, item :: rest =>
    (if item.name.isEmpty then [.emptyName item.kind scope]
      else if seen.contains item.name then [.duplicateName item.kind scope item.name]
      else []) ++ scopeDefectsAfter scope (item.name :: seen) rest

/-- The defects of the names of one scope, in declaration order. -/
def scopeDefects (scope : String) (items : List NamedItem) : List Defect :=
  scopeDefectsAfter scope [] items

/-- A reference is a defect unless it resolves. -/
def referenceDefects (owner : NodeKind) (name : String) (field : ReferenceField)
    (target : String) (resolved : Bool) : List Defect :=
  if resolved then [] else [.danglingReference ⟨owner, name, field, target⟩]

/-- The spatial facets that are given for a type that is not spatial. -/
def facetDefects (owner : NodeKind) (name : String) (type : ReferencedType)
    (facets : Facets) : List Defect :=
  if type.isSpatial then []
  else
    (if facets.srid.isSome then [.invalidFacet owner name .srid type.target] else []) ++
      (if facets.isVariableSrid.isSome then [.invalidFacet owner name .variableSrid type.target]
        else [])

namespace Model

def typeReferenceDefects (m : Model) (owner : NodeKind) (name : String)
    (reference : TypeReference) : List Defect :=
  referenceDefects owner name .type reference.referenced.target
      (m.resolves reference.referenced) ++
    match reference.facets with
    | none => []
    | some facets => facetDefects owner name reference.referenced facets

def propertyDefects (m : Model) (property : Property) : List Defect :=
  m.typeReferenceDefects .property property.name property.type

def returnTypeDefects (m : Model) (owner : NodeKind) (name : String)
    (returnType : Option TypeReference) : List Defect :=
  match returnType with
  | none => []
  | some reference => m.typeReferenceDefects owner name reference

/-- The parameters of one function, in the scope of the node that names the function. -/
def parameterDefects (m : Model) (scope : String) (parameters : List FunctionParameter) :
    List Defect :=
  scopeDefects scope (parameters.map namedItem) ++
    parameters.flatMap fun parameter =>
      m.typeReferenceDefects .functionParameter parameter.name parameter.type

/-! ## Namespaces -/

def complexTypeDefects (m : Model) (item : ComplexType) : List Defect :=
  scopeDefects item.name (item.properties.map namedItem) ++
    item.properties.flatMap m.propertyDefects

def baseTypeDefects (m : Model) (item : EntityType) : List Defect :=
  match item.baseType with
  | none => []
  | some base =>
    referenceDefects .entityType item.name .baseType base (m.findEntityType? base).isSome

def entityTypeDefects (m : Model) (ns : Namespace) (item : EntityType) : List Defect :=
  scopeDefects item.name item.memberItems ++
    (item.key.flatMap fun key =>
      referenceDefects .entityType item.name .keyProperty key (item.findProperty? key).isSome) ++
    m.baseTypeDefects item ++
    (item.navigationProperties.flatMap fun property =>
      referenceDefects .navigationProperty property.name .association property.association
        (ns.findAssociationType? property.association).isSome) ++
    item.properties.flatMap m.propertyDefects

def enumTypeDefects (item : EnumType) : List Defect :=
  (if item.underlyingType.isIntegral then [] else [.nonIntegralEnum item.name item.underlyingType])
    ++ scopeDefects item.name (item.members.map namedItem)

def associationEndDefects (ns : Namespace) (item : AssociationEnd) : List Defect :=
  referenceDefects .associationEnd item.name .entityType item.entityType
    (ns.findEntityType? item.entityType).isSome

/-- The dependent end's entity type must be there even if no property depends on it. -/
def constraintDefects (ns : Namespace) (association : AssociationType)
    (rule : AssociationConstraint) : List Defect :=
  let dependent := association.endOf rule.dependentEnd
  match ns.findEntityType? dependent.entityType with
  | none => associationEndDefects ns dependent
  | some entity =>
    rule.dependentProperties.flatMap fun property =>
      referenceDefects .associationConstraint association.name .dependentProperty property
        (entity.findProperty? property).isSome

def associationTypeDefects (ns : Namespace) (item : AssociationType) : List Defect :=
  scopeDefects item.name [namedItem item.source, namedItem item.target] ++
    associationEndDefects ns item.source ++ associationEndDefects ns item.target ++
    match item.referentialConstraint with
    | none => []
    | some rule => constraintDefects ns item rule

def functionGroupDefects (m : Model) (item : FunctionGroup) : List Defect :=
  item.overloads.flatMap fun overload =>
    m.returnTypeDefects .functionOverload item.name overload.returnType ++
      m.parameterDefects item.name overload.parameters

def namespaceDefects (m : Model) (ns : Namespace) : List Defect :=
  nameDefects m.name (namedItem ns) ++
    scopeDefects ns.name ns.items ++
    ns.complexTypes.flatMap m.complexTypeDefects ++
    ns.entityTypes.flatMap (m.entityTypeDefects ns) ++
    ns.enumTypes.flatMap enumTypeDefects ++
    ns.associationTypes.flatMap (associationTypeDefects ns) ++
    ns.functionGroups.flatMap m.functionGroupDefects

/-! ## Containers -/

def entitySetDefects (m : Model) (item : EntitySet) : List Defect :=
  referenceDefects .entitySet item.name .elementType item.elementType
    (m.findEntityType? item.elementType).isSome

def associationSetDefects (m : Model) (container : EntityContainer) (item : AssociationSet) :
    List Defect :=
  referenceDefects .associationSet item.name .sourceSet item.source
      (container.findEntitySet? item.source).isSome ++
    referenceDefects .associationSet item.name .targetSet item.target
      (container.findEntitySet? item.target).isSome ++
    match item.associationType with
    | none => []
    | some association =>
      referenceDefects .associationSet item.name .associationType association
        (m.findAssociationType? association).isSome

def functionImportDefects (m : Model) (item : FunctionImport) : List Defect :=
  m.returnTypeDefects .functionImport item.name item.returnType ++
    m.parameterDefects item.name item.parameters

def containerDefects (m : Model) (container : EntityContainer) : List Defect :=
  nameDefects m.name (namedItem container) ++
    scopeDefects container.name container.items ++
    container.entitySets.flatMap m.entitySetDefects ++
    container.associationSets.flatMap (m.associationSetDefects container) ++
    container.functionImports.flatMap m.functionImportDefects

/-! ## The model -/

/-- The names at the root of the model. The model itself stands in no scope. -/
def rootDefects (m : Model) : List Defect :=
  nameDefects "" (namedItem m) ++
    scopeDefects m.name (m.namespaces.map namedItem) ++
    scopeDefects m.name (m.containers.map namedItem)

def defects (m : Model) : List Defect :=
  m.rootDefects ++ m.namespaces.flatMap m.namespaceDefects ++
    m.containers.flatMap m.containerDefects

end Model

end EntityModel
