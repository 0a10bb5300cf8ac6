import EntityModel.Model.Assembly
import EntityModel.Proofs.Lookup

/-!
# EntityModel.Proofs.WellFormed

Well-formed models, said rule by rule instead of by a list of checks.

* `Model.Consistent`: every name is given and distinct in its scope, every reference that no
  traversal follows resolves, spatial facets refine spatial types, enums rest on integral types.
* `Model.Traversable`: the references that a traversal follows resolve: keys, dependent properties,
  and the two ends of association sets.
* `Model.WellFormed`: both.
-/

namespace EntityModel

/-- The names of one declaring scope are given, and no two items share one. -/
structure ProperScope (items : List NamedItem) : Prop where
  named : ∀ item ∈ items, item.name ≠ ""
  distinct : (items.map (·.name)).Nodup

theorem ProperScope.sublist {items fewer : List NamedItem} (h : ProperScope items)
    (hsub : fewer.Sublist items) : ProperScope fewer where
  named := fun item hi => h.named item (hsub.subset hi)
  distinct := (hsub.map (·.name)).nodup h.distinct

theorem ProperScope.nodup_map {α : Type} [NamedNode α] {nodes : List α}
    (h : ProperScope (nodes.map namedItem)) : (nodes.map NamedNode.name).Nodup := by
  have hnames := h.distinct
  rw [List.map_map] at hnames
  exact hnames

/-! ## Types -/

/-- The model declares the type that is referred to. -/
def Model.Provides (m : Model) : ReferencedType → Prop
  | .primitive _ => True
  | .complex name => m.Declares Namespace.complexTypes name
  | .enum name => m.Declares Namespace.enumTypes name
  | .entity name => m.Declares Namespace.entityTypes name

structure TypeReference.Consistent (m : Model) (reference : TypeReference) : Prop where
  provided : m.Provides reference.referenced
  spatial : ∀ facets ∈ reference.facets, facets.srid ≠ none ∨ facets.isVariableSrid ≠ none →
    reference.referenced.isSpatial = true

/-- A function is well typed: what it returns, if anything, and its parameters, which have a scope
of their own. -/
structure ProperSignature (m : Model) (returnType : Option TypeReference)
    (parameters : List FunctionParameter) : Prop where
  returned : ∀ reference ∈ returnType, reference.Consistent m
  scope : ProperScope (parameters.map namedItem)
  types : ∀ parameter ∈ parameters, parameter.type.Consistent m

/-! ## Namespaces -/

structure ComplexType.Consistent (m : Model) (item : ComplexType) : Prop where
  scope : ProperScope (item.properties.map namedItem)
  types : ∀ property ∈ item.properties, property.type.Consistent m

structure EntityType.Consistent (m : Model) (ns : Namespace) (item : EntityType) : Prop where
  scope : ProperScope item.memberItems
  base : ∀ base ∈ item.baseType, m.Declares Namespace.entityTypes base
  navigation : ∀ property ∈ item.navigationProperties,
    Called property.association ns.associationTypes
  types : ∀ property ∈ item.properties, property.type.Consistent m

structure EnumType.Consistent (item : EnumType) : Prop where
  integral : item.underlyingType.isIntegral = true
  scope : ProperScope (item.members.map namedItem)

structure AssociationType.Consistent (ns : Namespace) (item : AssociationType) : Prop where
  scope : ProperScope [namedItem item.source, namedItem item.target]
  source : Called item.source.entityType ns.entityTypes
  target : Called item.target.entityType ns.entityTypes

/-- Both ends of a consistent association have their entity types. -/
theorem AssociationType.Consistent.exists_entityType {ns : Namespace} {item : AssociationType}
    (h : item.Consistent ns) (role : EndRole) :
    ∃ entity, ns.findEntityType? (item.endOf role).entityType = some entity := by
  apply Option.isSome_iff_exists.mp
  apply findNamed?_isSome_iff.mpr
  cases role with
  | source => exact h.source
  | target => exact h.target

structure Namespace.Consistent (m : Model) (ns : Namespace) : Prop where
  scope : ProperScope ns.items
  complexTypes : ∀ item ∈ ns.complexTypes, item.Consistent m
  entityTypes : ∀ item ∈ ns.entityTypes, item.Consistent m ns
  enumTypes : ∀ item ∈ ns.enumTypes, item.Consistent
  associationTypes : ∀ item ∈ ns.associationTypes, item.Consistent ns
  functionGroups : ∀ item ∈ ns.functionGroups, ∀ overload ∈ item.overloads,
    ProperSignature m overload.returnType overload.parameters

/-- Keys name declared properties of their entity type, dependent properties those of the entity
type of the dependent end. -/
structure Namespace.Traversable (ns : Namespace) : Prop where
  keys : ∀ item ∈ ns.entityTypes, ∀ key ∈ item.key, Called key item.properties
  dependents : ∀ item ∈ ns.associationTypes, ∀ rule ∈ item.referentialConstraint,
    ∀ property ∈ rule.dependentProperties,
      ∃ entity ∈ ns.findEntityType? (item.endOf rule.dependentEnd).entityType,
        Called property entity.properties

/-! ## Containers -/

structure EntityContainer.Consistent (m : Model) (container : EntityContainer) : Prop where
  scope : ProperScope container.items
  entitySets : ∀ item ∈ container.entitySets, m.Declares Namespace.entityTypes item.elementType
  associationSets : ∀ item ∈ container.associationSets, ∀ association ∈ item.associationType,
    m.Declares Namespace.associationTypes association
  functionImports : ∀ item ∈ container.functionImports,
    ProperSignature m item.returnType item.parameters

/-- Association sets run between entity sets of their own container. -/
structure EntityContainer.Traversable (container : EntityContainer) : Prop where
  sources : ∀ item ∈ container.associationSets, Called item.source container.entitySets
  targets : ∀ item ∈ container.associationSets, Called item.target container.entitySets

/-! ## Models -/

structure Model.Consistent (m : Model) : Prop where
  named : m.name ≠ ""
  namespaceScope : ProperScope (m.namespaces.map namedItem)
  containerScope : ProperScope (m.containers.map namedItem)
  namespaces : ∀ ns ∈ m.namespaces, ns.Consistent m
  containers : ∀ container ∈ m.containers, container.Consistent m

structure Model.Traversable (m : Model) : Prop where
  namespaces : ∀ ns ∈ m.namespaces, ns.Traversable
  containers : ∀ container ∈ m.containers, container.Traversable

structure Model.WellFormed (m : Model) : Prop where
  consistent : m.Consistent
  traversable : m.Traversable

theorem Model.Consistent.properNames {m : Model} (h : m.Consistent) : m.ProperNames where
  distinct := h.namespaceScope.nodup_map
  namespaceNamed := fun ns hns =>
    h.namespaceScope.named (namedItem ns) (List.mem_map.mpr ⟨ns, hns, rfl⟩)
  itemNamed := fun ns hns => (h.namespaces ns hns).scope.named

end EntityModel
