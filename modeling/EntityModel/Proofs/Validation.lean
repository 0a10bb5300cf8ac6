import EntityModel.Proofs.FollowedReferences

/-!
# EntityModel.Proofs.Validation

The list of defects against the rules of a well-formed model.

* `..._eq_nil_iff`: a list of defects is empty exactly if the rule that it checks holds. Look-ups
  by qualified name are compared with declarations, so these need `Model.ProperNames`.
* `..._of_consistent`: where a rule also covers references that a traversal follows, only these are
  left as defects of a consistent node.
* `Model.defects_of_consistent`: in a consistent model the defects are the broken references that a
  traversal follows, in the order of the traversal.
-/

namespace EntityModel

/-! ## Names and references -/

theorem nameDefects_eq_nil_iff {scope : String} {item : NamedItem} :
    nameDefects scope item = [] ↔ item.name ≠ "" := by
  by_cases h : item.name = ""
  · simp [nameDefects, h]
  · simp [nameDefects, h]

/-- The invariant of the scan: the names still to come are given, distinct, and not among those
seen before. -/
theorem scopeDefectsAfter_eq_nil_iff {scope : String} {seen : List String}
    {items : List NamedItem} :
    scopeDefectsAfter scope seen items = [] ↔
      (∀ item ∈ items, item.name ≠ "" ∧ item.name ∉ seen) ∧ (items.map (·.name)).Nodup := by
  induction items generalizing seen with
  | nil => simp [scopeDefectsAfter]
  | cons item rest ih =>
    rw [scopeDefectsAfter, List.append_eq_nil_iff, ih, List.forall_mem_cons, List.map_cons,
      List.nodup_cons]
    by_cases he : item.name = ""
    · simp [he]
    · by_cases hs : item.name ∈ seen
      · simp [he, hs]
      · simp only [String.isEmpty_iff, he, List.contains_iff_mem, hs, if_false, true_and,
          List.mem_cons, not_or, ne_eq, not_false_eq_true, List.mem_map, not_exists, not_and]
        constructor
        · rintro ⟨hrest, hnodup⟩
          exact ⟨fun x hx => ⟨(hrest x hx).1, (hrest x hx).2.2⟩,
            fun x hx => (hrest x hx).2.1, hnodup⟩
        · rintro ⟨hrest, hfresh, hnodup⟩
          exact ⟨fun x hx => ⟨(hrest x hx).1, hfresh x hx, (hrest x hx).2⟩, hnodup⟩

theorem scopeDefects_eq_nil_iff {scope : String} {items : List NamedItem} :
    scopeDefects scope items = [] ↔ ProperScope items := by
  rw [scopeDefects, scopeDefectsAfter_eq_nil_iff]
  constructor
  · rintro ⟨hnamed, hdistinct⟩
    exact ⟨fun item hm => (hnamed item hm).1, hdistinct⟩
  · rintro ⟨hnamed, hdistinct⟩
    exact ⟨fun item hm => ⟨hnamed item hm, List.not_mem_nil⟩, hdistinct⟩

theorem referenceDefects_eq_nil_iff {owner : NodeKind} {name : String} {field : ReferenceField}
    {target : String} {found : Bool} :
    referenceDefects owner name field target found = [] ↔ found = true := by
  cases found <;> simp [referenceDefects]

theorem referenceDefects_eq_map (owner : NodeKind) (name : String) (field : ReferenceField)
    (target : String) (found : Bool) :
    referenceDefects owner name field target found =
      (unlessFound found ⟨owner, name, field, target⟩).map .danglingReference := by
  cases found <;> rfl

theorem facetDefects_eq_nil_iff {owner : NodeKind} {name : String} {type : ReferencedType}
    {facets : Facets} :
    facetDefects owner name type facets = [] ↔
      (facets.srid ≠ none ∨ facets.isVariableSrid ≠ none → type.isSpatial = true) := by
  unfold facetDefects
  cases type.isSpatial with
  | true => simp
  | false => cases facets.srid <;> cases facets.isVariableSrid <;> simp

namespace Model

variable {m : Model}

/-! ## Types -/

section Types

variable (hm : m.ProperNames)
include hm

theorem findEntityType?_isSome_iff {qualified : String} :
    (m.findEntityType? qualified).isSome = true ↔ m.Declares Namespace.entityTypes qualified :=
  resolve?_isSome_iff hm fun ns _ h => ns.sublist_entityTypes.subset (List.mem_map_of_mem h)

theorem findAssociationType?_isSome_iff {qualified : String} :
    (m.findAssociationType? qualified).isSome = true ↔
      m.Declares Namespace.associationTypes qualified :=
  resolve?_isSome_iff hm fun ns _ h => ns.sublist_associationTypes.subset (List.mem_map_of_mem h)

theorem findComplexType?_isSome_iff {qualified : String} :
    (m.findComplexType? qualified).isSome = true ↔ m.Declares Namespace.complexTypes qualified :=
  resolve?_isSome_iff hm fun ns _ h => ns.sublist_complexTypes.subset (List.mem_map_of_mem h)

theorem findEnumType?_isSome_iff {qualified : String} :
    (m.findEnumType? qualified).isSome = true ↔ m.Declares Namespace.enumTypes qualified :=
  resolve?_isSome_iff hm fun ns _ h => ns.sublist_enumTypes.subset (List.mem_map_of_mem h)

theorem resolves_iff {type : ReferencedType} : m.resolves type = true ↔ m.Provides type := by
  cases type with
  | primitive kind => simp [resolves, Provides]
  | complex name => exact findComplexType?_isSome_iff hm
  | enum name => exact findEnumType?_isSome_iff hm
  | entity name => exact findEntityType?_isSome_iff hm

theorem typeReferenceDefects_eq_nil_iff {owner : NodeKind} {name : String}
    {reference : TypeReference} :
    m.typeReferenceDefects owner name reference = [] ↔ reference.Consistent m := by
  obtain ⟨referenced, annotations, nullable, facets⟩ := reference
  rw [typeReferenceDefects, List.append_eq_nil_iff, referenceDefects_eq_nil_iff, resolves_iff hm]
  cases facets with
  | none => exact ⟨fun h => ⟨h.1, by simp⟩, fun h => ⟨h.provided, rfl⟩⟩
  | some facets =>
    dsimp only
    rw [facetDefects_eq_nil_iff]
    exact ⟨fun h => ⟨h.1, by simpa using h.2⟩, fun h => ⟨h.provided, by simpa using h.spatial⟩⟩

theorem returnTypeDefects_eq_nil_iff {owner : NodeKind} {name : String}
    {returnType : Option TypeReference} :
    m.returnTypeDefects owner name returnType = [] ↔
      ∀ reference ∈ returnType, reference.Consistent m := by
  cases returnType with
  | none => simp [returnTypeDefects]
  | some reference =>
    simp only [returnTypeDefects, typeReferenceDefects_eq_nil_iff hm, Option.mem_some_iff,
      forall_eq']

theorem parameterDefects_eq_nil_iff {scope : String} {parameters : List FunctionParameter} :
    m.parameterDefects scope parameters = [] ↔
      ProperScope (parameters.map namedItem) ∧
        ∀ parameter ∈ parameters, parameter.type.Consistent m := by
  rw [parameterDefects, List.append_eq_nil_iff, scopeDefects_eq_nil_iff, List.flatMap_eq_nil_iff]
  simp only [typeReferenceDefects_eq_nil_iff hm]

theorem signatureDefects_eq_nil_iff {owner : NodeKind} {name scope : String}
    {returnType : Option TypeReference} {parameters : List FunctionParameter} :
    m.returnTypeDefects owner name returnType ++ m.parameterDefects scope parameters = [] ↔
      ProperSignature m returnType parameters := by
  rw [List.append_eq_nil_iff, returnTypeDefects_eq_nil_iff hm, parameterDefects_eq_nil_iff hm]
  exact ⟨fun h => ⟨h.1, h.2.1, h.2.2⟩, fun h => ⟨h.returned, h.scope, h.types⟩⟩

theorem propertiesDefects_eq_nil_iff {properties : List Property} :
    properties.flatMap m.propertyDefects = [] ↔
      ∀ property ∈ properties, property.type.Consistent m := by
  simp only [List.flatMap_eq_nil_iff, propertyDefects, typeReferenceDefects_eq_nil_iff hm]

/-! ## Nodes without followed references -/

theorem complexTypeDefects_eq_nil_iff {item : ComplexType} :
    m.complexTypeDefects item = [] ↔ item.Consistent m := by
  rw [complexTypeDefects, List.append_eq_nil_iff, scopeDefects_eq_nil_iff,
    propertiesDefects_eq_nil_iff hm]
  exact ⟨fun h => ⟨h.1, h.2⟩, fun h => ⟨h.scope, h.types⟩⟩

theorem baseTypeDefects_eq_nil_iff {item : EntityType} :
    m.baseTypeDefects item = [] ↔
      ∀ base ∈ item.baseType, m.Declares Namespace.entityTypes base := by
  unfold baseTypeDefects
  cases item.baseType with
  | none => simp
  | some base =>
    simp only [referenceDefects_eq_nil_iff, findEntityType?_isSome_iff hm, Option.mem_some_iff,
      forall_eq']

theorem functionGroupDefects_eq_nil_iff {item : FunctionGroup} :
    m.functionGroupDefects item = [] ↔
      ∀ overload ∈ item.overloads, ProperSignature m overload.returnType overload.parameters := by
  rw [functionGroupDefects, List.flatMap_eq_nil_iff]
  simp only [signatureDefects_eq_nil_iff hm]

theorem functionImportDefects_eq_nil_iff {item : FunctionImport} :
    m.functionImportDefects item = [] ↔ ProperSignature m item.returnType item.parameters :=
  signatureDefects_eq_nil_iff hm

theorem entitySetDefects_eq_nil_iff {item : EntitySet} :
    m.entitySetDefects item = [] ↔ m.Declares Namespace.entityTypes item.elementType := by
  rw [entitySetDefects, referenceDefects_eq_nil_iff, findEntityType?_isSome_iff hm]

end Types

theorem enumTypeDefects_eq_nil_iff {item : EnumType} :
    enumTypeDefects item = [] ↔ item.Consistent := by
  rw [enumTypeDefects, List.append_eq_nil_iff, scopeDefects_eq_nil_iff]
  constructor
  · rintro ⟨hi, hs⟩
    refine ⟨?_, hs⟩
    by_contra hne
    rw [if_neg hne] at hi
    cases hi
  · rintro ⟨hi, hs⟩
    exact ⟨if_pos hi, hs⟩

theorem navigationDefects_eq_nil_iff {ns : Namespace} {properties : List NavigationProperty} :
    (properties.flatMap fun property =>
      referenceDefects .navigationProperty property.name .association property.association
        (ns.findAssociationType? property.association).isSome) = [] ↔
      ∀ property ∈ properties, Called property.association ns.associationTypes := by
  simp only [List.flatMap_eq_nil_iff, referenceDefects_eq_nil_iff]
  exact forall₂_congr fun _ _ => findNamed?_isSome_iff

theorem associationEndDefects_eq_nil_iff {ns : Namespace} {item : AssociationEnd} :
    associationEndDefects ns item = [] ↔ Called item.entityType ns.entityTypes := by
  rw [associationEndDefects, referenceDefects_eq_nil_iff]
  exact findNamed?_isSome_iff

/-! ## Nodes with followed references -/

theorem keyDefects_eq (item : EntityType) :
    (item.key.flatMap fun key =>
      referenceDefects .entityType item.name .keyProperty key (item.findProperty? key).isSome) =
      item.brokenKeys.map .danglingReference := by
  simp only [EntityType.brokenKeys, List.map_flatMap, referenceDefects_eq_map]

/-- Apart from its keys, an entity type is checked for consistency and for nothing else. -/
theorem entityTypeDefects_of_consistent (hm : m.ProperNames) {ns : Namespace} {item : EntityType}
    (h : item.Consistent m ns) :
    m.entityTypeDefects ns item = item.brokenKeys.map .danglingReference := by
  rw [entityTypeDefects, scopeDefects_eq_nil_iff.mpr h.scope, keyDefects_eq,
    (baseTypeDefects_eq_nil_iff hm).mpr h.base, navigationDefects_eq_nil_iff.mpr h.navigation,
    (propertiesDefects_eq_nil_iff hm).mpr h.types]
  simp

/-- Only the dependent properties can be missing. -/
theorem constraintDefects_of_consistent {ns : Namespace} {item : AssociationType}
    (h : item.Consistent ns) (rule : AssociationConstraint) :
    constraintDefects ns item rule =
      (item.brokenDependents ns rule).map .danglingReference := by
  obtain ⟨entity, he⟩ := h.exists_entityType rule.dependentEnd
  simp only [constraintDefects, AssociationType.brokenDependents, he]
  cases hp : rule.dependentProperties with
  | nil => simp
  | cons first rest =>
    simp only [List.isEmpty_cons, Bool.false_eq_true, if_false,
      AssociationType.brokenProperties, hp, List.map_flatMap, referenceDefects_eq_map]

theorem associationTypeDefects_of_consistent {ns : Namespace} {item : AssociationType}
    (h : item.Consistent ns) :
    associationTypeDefects ns item = (item.brokenReferences ns).map .danglingReference := by
  rw [associationTypeDefects, scopeDefects_eq_nil_iff.mpr h.scope,
    associationEndDefects_eq_nil_iff.mpr h.source, associationEndDefects_eq_nil_iff.mpr h.target]
  unfold AssociationType.brokenReferences
  cases item.referentialConstraint with
  | none => rfl
  | some rule => exact constraintDefects_of_consistent h rule

theorem associationSetDefects_of_consistent (hm : m.ProperNames) {container : EntityContainer}
    {item : AssociationSet}
    (h : ∀ association ∈ item.associationType, m.Declares Namespace.associationTypes association) :
    m.associationSetDefects container item =
      (item.brokenEnds container).map .danglingReference := by
  have hends : ∀ field target,
      referenceDefects .associationSet item.name field target
        (container.findEntitySet? target).isSome =
        (item.brokenEnd container field target).map .danglingReference :=
    fun field target => referenceDefects_eq_map ..
  rw [associationSetDefects, hends, hends, AssociationSet.brokenEnds, List.map_append]
  cases ha : item.associationType with
  | none => simp
  | some association =>
    have hfound := (findAssociationType?_isSome_iff hm).mpr (h association ha)
    simp [referenceDefects, hfound]

/-! ## Scopes -/

theorem namespaceDefects_of_consistent (hm : m.ProperNames) {ns : Namespace}
    (hns : ns ∈ m.namespaces) (h : ns.Consistent m) :
    m.namespaceDefects ns = ns.brokenReferences.map .danglingReference := by
  have hname : nameDefects m.name (namedItem ns) = [] :=
    nameDefects_eq_nil_iff.mpr (hm.namespaceNamed ns hns)
  have hcomplex : ns.complexTypes.flatMap m.complexTypeDefects = [] :=
    List.flatMap_eq_nil_iff.mpr fun item hi =>
      (complexTypeDefects_eq_nil_iff hm).mpr (h.complexTypes item hi)
  have hentity : ns.entityTypes.flatMap (m.entityTypeDefects ns) =
      ns.entityTypes.flatMap fun item => item.brokenKeys.map .danglingReference :=
    List.flatMap_congr fun item hi => entityTypeDefects_of_consistent hm (h.entityTypes item hi)
  have henum : ns.enumTypes.flatMap enumTypeDefects = [] :=
    List.flatMap_eq_nil_iff.mpr fun item hi => enumTypeDefects_eq_nil_iff.mpr (h.enumTypes item hi)
  have hassociation : ns.associationTypes.flatMap (associationTypeDefects ns) =
      ns.associationTypes.flatMap fun item => (item.brokenReferences ns).map .danglingReference :=
    List.flatMap_congr fun item hi =>
      associationTypeDefects_of_consistent (h.associationTypes item hi)
  have hgroup : ns.functionGroups.flatMap m.functionGroupDefects = [] :=
    List.flatMap_eq_nil_iff.mpr fun item hi =>
      (functionGroupDefects_eq_nil_iff hm).mpr (h.functionGroups item hi)
  rw [namespaceDefects, hname, scopeDefects_eq_nil_iff.mpr h.scope, hcomplex, hentity, henum,
    hassociation, hgroup, Namespace.brokenReferences, List.map_append, List.map_flatMap,
    List.map_flatMap]
  simp

theorem containerDefects_of_consistent (hm : m.ProperNames) {container : EntityContainer}
    (hname : container.name ≠ "") (h : container.Consistent m) :
    m.containerDefects container = container.brokenReferences.map .danglingReference := by
  have hnamed : nameDefects m.name (namedItem container) = [] := nameDefects_eq_nil_iff.mpr hname
  have hentity : container.entitySets.flatMap m.entitySetDefects = [] :=
    List.flatMap_eq_nil_iff.mpr fun item hi =>
      (entitySetDefects_eq_nil_iff hm).mpr (h.entitySets item hi)
  have hassociation : container.associationSets.flatMap (m.associationSetDefects container) =
      container.associationSets.flatMap fun item =>
        (item.brokenEnds container).map .danglingReference :=
    List.flatMap_congr fun item hi =>
      associationSetDefects_of_consistent hm (h.associationSets item hi)
  have hfunction : container.functionImports.flatMap m.functionImportDefects = [] :=
    List.flatMap_eq_nil_iff.mpr fun item hi =>
      (functionImportDefects_eq_nil_iff hm).mpr (h.functionImports item hi)
  rw [containerDefects, hnamed, scopeDefects_eq_nil_iff.mpr h.scope, hentity, hassociation,
    hfunction, EntityContainer.brokenReferences, List.map_flatMap]
  simp

theorem rootDefects_eq_nil_iff :
    m.rootDefects = [] ↔
      m.name ≠ "" ∧ ProperScope (m.namespaces.map namedItem) ∧
        ProperScope (m.containers.map namedItem) := by
  rw [rootDefects, List.append_eq_nil_iff, List.append_eq_nil_iff, nameDefects_eq_nil_iff,
    scopeDefects_eq_nil_iff, scopeDefects_eq_nil_iff, and_assoc]
  exact Iff.rfl

/-- The defects of a consistent model are the references that a traversal would not find. -/
theorem defects_of_consistent (h : m.Consistent) :
    m.defects = m.brokenReferences.map .danglingReference := by
  have hm := h.properNames
  have hroot : m.rootDefects = [] :=
    rootDefects_eq_nil_iff.mpr ⟨h.named, h.namespaceScope, h.containerScope⟩
  have hnamespaces : m.namespaces.flatMap m.namespaceDefects =
      m.namespaces.flatMap fun ns => ns.brokenReferences.map .danglingReference :=
    List.flatMap_congr fun ns hns =>
      namespaceDefects_of_consistent hm hns (h.namespaces ns hns)
  have hcontainers : m.containers.flatMap m.containerDefects =
      m.containers.flatMap fun container => container.brokenReferences.map .danglingReference :=
    List.flatMap_congr fun container hc =>
      containerDefects_of_consistent hm
        (h.containerScope.named _ (List.mem_map.mpr ⟨container, hc, rfl⟩))
        (h.containers container hc)
  rw [defects, hroot, hnamespaces, hcontainers, brokenReferences, List.map_append,
    List.map_flatMap, List.map_flatMap, List.nil_append]

end Model

end EntityModel
