import EntityModel.Proofs.TrimmedRuns

/-!
# EntityModel.Proofs.TrimmedDefects

Checks on a trimmed model.

* `Model.resolves_trim`: the same references resolve.
* `Model.defects_trim`: as long as function nodes are kept, a trimmed model has the same defects.
* `Model.defects_trim_sublist`: without them it has no others.
* `Model.build_trim`, `Model.build_trim_of_ok`: so it builds alike.
-/

namespace EntityModel

variable {t : Trim}

/-! ## Names and look-up -/

theorem scopeDefectsAfter_trim (scope : String) (seen : List String) (items : List NamedItem) :
    scopeDefectsAfter scope seen (items.map (NamedItem.trim t)) =
      scopeDefectsAfter scope seen items := by
  induction items generalizing seen with
  | nil => rfl
  | cons item rest ih =>
    rw [List.map_cons, scopeDefectsAfter, scopeDefectsAfter, ih]
    rfl

theorem scopeDefects_trim (scope : String) (items : List NamedItem) :
    scopeDefects scope (items.map (NamedItem.trim t)) = scopeDefects scope items :=
  scopeDefectsAfter_trim scope [] items

theorem scopeDefectsAfter_sublist_append (scope : String) (seen : List String)
    (items more : List NamedItem) :
    (scopeDefectsAfter scope seen items).Sublist
      (scopeDefectsAfter scope seen (items ++ more)) := by
  induction items generalizing seen with
  | nil => exact List.nil_sublist _
  | cons item rest ih => exact (List.Sublist.refl _).append (ih _)

/-- A scope with fewer items at its end has no other defects. -/
theorem scopeDefects_sublist_append (scope : String) (items more : List NamedItem) :
    (scopeDefects scope (items ++ [])).Sublist (scopeDefects scope (items ++ more)) := by
  rw [List.append_nil]
  exact scopeDefectsAfter_sublist_append scope [] items more

/-- Nodes trimmed one by one have the same names in the same places. -/
theorem map_namedItem_trim {α : Type} [NamedNode α] {f : α → α}
    (hf : ∀ node, namedItem (f node) = (namedItem node).trim t) (nodes : List α) :
    (nodes.map f).map namedItem = (nodes.map namedItem).map (NamedItem.trim t) := by
  rw [List.map_map, List.map_map]
  exact List.map_congr_left fun node _ => hf node

namespace Model

theorem findNamespace?_trim (m : Model) (name : String) :
    (m.trim t).findNamespace? name = (m.findNamespace? name).map (Namespace.trim t) :=
  findNamed?_map (f := Namespace.trim t) (fun _ => rfl) name m.namespaces

theorem isSome_resolve?_trim {α : Type} (m : Model) {find : Namespace → String → Option α}
    (h : ∀ ns name, (find (ns.trim t) name).isSome = (find ns name).isSome) (qualified : String) :
    ((m.trim t).resolve? find qualified).isSome = (m.resolve? find qualified).isSome := by
  unfold resolve?
  cases QualifiedName.parse? qualified with
  | none => rfl
  | some q =>
    dsimp only
    rw [findNamespace?_trim]
    cases m.findNamespace? q.ns with
    | none => rfl
    | some ns => exact h ns q.name

theorem isSome_findEntityType?_trim (m : Model) (qualified : String) :
    ((m.trim t).findEntityType? qualified).isSome = (m.findEntityType? qualified).isSome :=
  m.isSome_resolve?_trim
    (fun ns name => by rw [Namespace.findEntityType?_trim, Option.isSome_map]) qualified

theorem isSome_findAssociationType?_trim (m : Model) (qualified : String) :
    ((m.trim t).findAssociationType? qualified).isSome =
      (m.findAssociationType? qualified).isSome :=
  m.isSome_resolve?_trim
    (fun ns name => by rw [Namespace.findAssociationType?_trim, Option.isSome_map]) qualified

theorem isSome_findComplexType?_trim (m : Model) (qualified : String) :
    ((m.trim t).findComplexType? qualified).isSome = (m.findComplexType? qualified).isSome :=
  m.isSome_resolve?_trim
    (fun ns name => by rw [Namespace.findComplexType?_trim, Option.isSome_map]) qualified

theorem isSome_findEnumType?_trim (m : Model) (qualified : String) :
    ((m.trim t).findEnumType? qualified).isSome = (m.findEnumType? qualified).isSome :=
  m.isSome_resolve?_trim
    (fun ns name => by rw [Namespace.findEnumType?_trim, Option.isSome_map]) qualified

theorem resolves_trim (m : Model) (referenced : ReferencedType) :
    (m.trim t).resolves referenced = m.resolves referenced := by
  cases referenced with
  | primitive kind => rfl
  | complex name => exact m.isSome_findComplexType?_trim name
  | enum name => exact m.isSome_findEnumType?_trim name
  | entity name => exact m.isSome_findEntityType?_trim name

end Model

/-! ## Checks on one item -/

/-- Whether the spatial facets are given is no payload. -/
theorem facetDefects_trim (owner : NodeKind) (name : String) (type : ReferencedType)
    (facets : Facets) :
    facetDefects owner name type (facets.trim t) = facetDefects owner name type facets := by
  have hsrid : (facets.trim t).srid.isSome = facets.srid.isSome := by
    unfold Facets.trim Trim.value
    split <;> simp
  have hvariable : (facets.trim t).isVariableSrid.isSome = facets.isVariableSrid.isSome := by
    unfold Facets.trim Trim.value
    split <;> simp
  rw [facetDefects, facetDefects, hsrid, hvariable]

namespace Model

variable (m : Model)

theorem typeReferenceDefects_trim (owner : NodeKind) (name : String) (reference : TypeReference) :
    (m.trim t).typeReferenceDefects owner name (reference.trim t) =
      m.typeReferenceDefects owner name reference := by
  have hreferenced : (reference.trim t).referenced = reference.referenced := rfl
  have hfacets : (reference.trim t).facets = reference.facets.map (Facets.trim t) := rfl
  rw [typeReferenceDefects, typeReferenceDefects, hreferenced, hfacets, resolves_trim]
  cases reference.facets with
  | none => rfl
  | some facets => exact congrArg _ (facetDefects_trim owner name reference.referenced facets)

theorem returnTypeDefects_trim (owner : NodeKind) (name : String)
    (returnType : Option TypeReference) :
    (m.trim t).returnTypeDefects owner name (returnType.map (TypeReference.trim t)) =
      m.returnTypeDefects owner name returnType := by
  cases returnType with
  | none => rfl
  | some reference => exact m.typeReferenceDefects_trim owner name reference

theorem parameterDefects_trim (scope : String) (parameters : List FunctionParameter) :
    (m.trim t).parameterDefects scope (parameters.map (FunctionParameter.trim t)) =
      m.parameterDefects scope parameters := by
  rw [parameterDefects, parameterDefects, map_namedItem_trim (fun _ => rfl), scopeDefects_trim,
    List.flatMap_map]
  congr 1
  exact List.flatMap_congr fun parameter _ =>
    m.typeReferenceDefects_trim .functionParameter parameter.name parameter.type

theorem propertiesDefects_trim (properties : List Property) :
    (properties.map (Property.trim t)).flatMap (m.trim t).propertyDefects =
      properties.flatMap m.propertyDefects := by
  rw [List.flatMap_map]
  exact List.flatMap_congr fun property _ =>
    m.typeReferenceDefects_trim .property property.name property.type

theorem complexTypeDefects_trim (item : ComplexType) :
    (m.trim t).complexTypeDefects (item.trim t) = m.complexTypeDefects item := by
  have hproperties : (item.trim t).properties = item.properties.map (Property.trim t) := rfl
  rw [complexTypeDefects, complexTypeDefects, hproperties, map_namedItem_trim (fun _ => rfl),
    scopeDefects_trim, propertiesDefects_trim]
  rfl

theorem baseTypeDefects_trim (item : EntityType) :
    (m.trim t).baseTypeDefects (item.trim t) = m.baseTypeDefects item := by
  have hbase : (item.trim t).baseType = item.baseType := rfl
  rw [baseTypeDefects, baseTypeDefects, hbase]
  cases item.baseType with
  | none => rfl
  | some base =>
    dsimp only
    rw [isSome_findEntityType?_trim]
    rfl

theorem keyDefects_trim (item : EntityType) (key : String) :
    referenceDefects .entityType (item.trim t).name .keyProperty key
        ((item.trim t).findProperty? key).isSome =
      referenceDefects .entityType item.name .keyProperty key (item.findProperty? key).isSome := by
  rw [EntityType.findProperty?_trim, Option.isSome_map]
  rfl

theorem entityTypeDefects_trim (ns : Namespace) (item : EntityType) :
    (m.trim t).entityTypeDefects (ns.trim t) (item.trim t) = m.entityTypeDefects ns item := by
  have hmembers : (item.trim t).memberItems = item.memberItems.map (NamedItem.trim t) := by
    rw [EntityType.memberItems, EntityType.memberItems, List.map_append]
    exact congrArg₂ _ (map_namedItem_trim (fun _ => rfl) _) (map_namedItem_trim (fun _ => rfl) _)
  have hnavigation (property : NavigationProperty) :
      referenceDefects .navigationProperty property.name .association property.association
          ((ns.trim t).findAssociationType? property.association).isSome =
        referenceDefects .navigationProperty property.name .association property.association
          (ns.findAssociationType? property.association).isSome := by
    rw [Namespace.findAssociationType?_trim, Option.isSome_map]
  have hproperties : (item.trim t).properties = item.properties.map (Property.trim t) := rfl
  have hkey : (item.trim t).key = item.key := rfl
  have hlinks : (item.trim t).navigationProperties =
      item.navigationProperties.map (NavigationProperty.trim t) := rfl
  rw [entityTypeDefects, entityTypeDefects, hmembers, scopeDefects_trim, baseTypeDefects_trim,
    hproperties, propertiesDefects_trim, hkey, hlinks, List.flatMap_map]
  congr 2
  · congr 2
    exact List.flatMap_congr fun key _ => keyDefects_trim item key
  · exact List.flatMap_congr fun property _ => hnavigation property

theorem enumTypeDefects_trim (item : EnumType) :
    enumTypeDefects (item.trim t) = enumTypeDefects item := by
  have hmembers : (item.trim t).members = item.members.map (EnumTypeMember.trim t) := rfl
  rw [enumTypeDefects, enumTypeDefects, hmembers, map_namedItem_trim (fun _ => rfl),
    scopeDefects_trim]
  rfl

theorem associationEndDefects_trim (ns : Namespace) (item : AssociationEnd) :
    associationEndDefects (ns.trim t) (item.trim t) = associationEndDefects ns item := by
  rw [associationEndDefects, associationEndDefects, Namespace.findEntityType?_trim,
    Option.isSome_map]
  rfl

theorem constraintDefects_trim (ns : Namespace) (association : AssociationType)
    (rule : AssociationConstraint) :
    constraintDefects (ns.trim t) (association.trim t) (rule.trim t) =
      constraintDefects ns association rule := by
  have hrole : (rule.trim t).dependentEnd = rule.dependentEnd := rfl
  have hproperties : (rule.trim t).dependentProperties = rule.dependentProperties := rfl
  have htype (item : AssociationEnd) : (item.trim t).entityType = item.entityType := rfl
  simp only [constraintDefects, hrole, hproperties, AssociationType.endOf_trim, htype,
    Namespace.findEntityType?_trim]
  cases ns.findEntityType? (association.endOf rule.dependentEnd).entityType with
  | none => exact associationEndDefects_trim ns _
  | some entity =>
    refine List.flatMap_congr fun property _ => ?_
    rw [EntityType.findProperty?_trim, Option.isSome_map]
    rfl

theorem associationTypeDefects_trim (ns : Namespace) (item : AssociationType) :
    associationTypeDefects (ns.trim t) (item.trim t) = associationTypeDefects ns item := by
  have hsource : (item.trim t).source = item.source.trim t := rfl
  have htarget : (item.trim t).target = item.target.trim t := rfl
  have hends : [namedItem (item.source.trim t), namedItem (item.target.trim t)] =
      [namedItem item.source, namedItem item.target].map (NamedItem.trim t) := rfl
  have hrule : (item.trim t).referentialConstraint =
      item.referentialConstraint.map (AssociationConstraint.trim t) := rfl
  rw [associationTypeDefects, associationTypeDefects, hsource, htarget, hends, scopeDefects_trim,
    associationEndDefects_trim, associationEndDefects_trim, hrule]
  cases item.referentialConstraint with
  | none => rfl
  | some rule => exact congrArg _ (constraintDefects_trim ns item rule)

theorem functionGroupDefects_trim (item : FunctionGroup) :
    (m.trim t).functionGroupDefects (item.trim t) = m.functionGroupDefects item := by
  have hoverloads : (item.trim t).overloads = item.overloads.map (FunctionOverload.trim t) := rfl
  rw [functionGroupDefects, functionGroupDefects, hoverloads, List.flatMap_map]
  refine List.flatMap_congr fun overload _ => ?_
  exact congrArg₂ _ (m.returnTypeDefects_trim .functionOverload item.name overload.returnType)
    (m.parameterDefects_trim item.name overload.parameters)

theorem entitySetDefects_trim (item : EntitySet) :
    (m.trim t).entitySetDefects (item.trim t) = m.entitySetDefects item := by
  rw [entitySetDefects, entitySetDefects, isSome_findEntityType?_trim]
  rfl

theorem associationSetDefects_trim (container : EntityContainer) (item : AssociationSet) :
    (m.trim t).associationSetDefects (container.trim t) (item.trim t) =
      m.associationSetDefects container item := by
  have hsource : (item.trim t).source = item.source := rfl
  have htarget : (item.trim t).target = item.target := rfl
  have htype : (item.trim t).associationType = item.associationType := rfl
  rw [associationSetDefects, associationSetDefects, EntityContainer.findEntitySet?_trim,
    EntityContainer.findEntitySet?_trim, Option.isSome_map, Option.isSome_map, hsource, htarget,
    htype]
  cases item.associationType with
  | none => rfl
  | some association =>
    dsimp only
    rw [isSome_findAssociationType?_trim]
    rfl

theorem functionImportDefects_trim (item : FunctionImport) :
    (m.trim t).functionImportDefects (item.trim t) = m.functionImportDefects item :=
  congrArg₂ (· ++ ·) (m.returnTypeDefects_trim .functionImport item.name item.returnType)
    (m.parameterDefects_trim item.name item.parameters)

end Model

/-! ## Function nodes -/

theorem Trim.functionNodes_map {α β : Type} (f : α → β) (nodes : List α) :
    t.functionNodes (nodes.map f) = (t.functionNodes nodes).map f := by
  unfold functionNodes
  split <;> rfl

theorem Trim.functionNodes_of_kept (ht : t.functions = true) {α : Type} (nodes : List α) :
    t.functionNodes nodes = nodes :=
  if_pos ht

theorem Trim.functionNodes_of_dropped (ht : t.functions = false) {α : Type} (nodes : List α) :
    t.functionNodes nodes = [] := by
  simp [functionNodes, ht]

theorem flatMap_trim {α β : Type} {f : α → α} {g g' : α → List β} (h : ∀ item, g (f item) = g' item)
    (items : List α) : (items.map f).flatMap g = items.flatMap g' := by
  rw [List.flatMap_map]
  exact List.flatMap_congr fun item _ => h item

namespace Model

variable (m : Model)

/-- Trimmed, a namespace has the defects that it has without the function groups left out. -/
theorem namespaceDefects_trim (ns : Namespace) :
    (m.trim t).namespaceDefects (ns.trim t) =
      m.namespaceDefects { ns with functionGroups := t.functionNodes ns.functionGroups } := by
  have hgroups : (ns.trim t).functionGroups =
      (t.functionNodes ns.functionGroups).map (FunctionGroup.trim t) :=
    t.functionNodes_map (FunctionGroup.trim t) ns.functionGroups
  have hitems : (ns.trim t).items =
      ({ ns with functionGroups := t.functionNodes ns.functionGroups } : Namespace).items.map
        (NamedItem.trim t) := by
    rw [Namespace.items, Namespace.items, hgroups]
    simp only [List.map_append]
    rw [← map_namedItem_trim (f := ComplexType.trim t) fun _ => rfl,
      ← map_namedItem_trim (f := EntityType.trim t) fun _ => rfl,
      ← map_namedItem_trim (f := EnumType.trim t) fun _ => rfl,
      ← map_namedItem_trim (f := AssociationType.trim t) fun _ => rfl,
      ← map_namedItem_trim (f := FunctionGroup.trim t) fun _ => rfl]
    rfl
  rw [namespaceDefects, namespaceDefects, hitems, scopeDefects_trim, hgroups,
    flatMap_trim m.functionGroupDefects_trim]
  have hcomplex : (ns.trim t).complexTypes.flatMap (m.trim t).complexTypeDefects =
      ns.complexTypes.flatMap m.complexTypeDefects := flatMap_trim m.complexTypeDefects_trim _
  have hentity : (ns.trim t).entityTypes.flatMap ((m.trim t).entityTypeDefects (ns.trim t)) =
      ns.entityTypes.flatMap (m.entityTypeDefects ns) :=
    flatMap_trim (m.entityTypeDefects_trim ns) _
  have henum : (ns.trim t).enumTypes.flatMap enumTypeDefects =
      ns.enumTypes.flatMap enumTypeDefects := flatMap_trim enumTypeDefects_trim _
  have hassociation : (ns.trim t).associationTypes.flatMap (associationTypeDefects (ns.trim t)) =
      ns.associationTypes.flatMap (associationTypeDefects ns) :=
    flatMap_trim (associationTypeDefects_trim ns) _
  rw [hcomplex, hentity, henum, hassociation]
  rfl

theorem containerDefects_trim (container : EntityContainer) :
    (m.trim t).containerDefects (container.trim t) =
      m.containerDefects
        { container with functionImports := t.functionNodes container.functionImports } := by
  have himports : (container.trim t).functionImports =
      (t.functionNodes container.functionImports).map (FunctionImport.trim t) :=
    t.functionNodes_map (FunctionImport.trim t) container.functionImports
  have hitems : (container.trim t).items =
      ({ container with functionImports := t.functionNodes container.functionImports } :
        EntityContainer).items.map (NamedItem.trim t) := by
    rw [EntityContainer.items, EntityContainer.items, himports]
    simp only [List.map_append]
    rw [← map_namedItem_trim (f := EntitySet.trim t) fun _ => rfl,
      ← map_namedItem_trim (f := AssociationSet.trim t) fun _ => rfl,
      ← map_namedItem_trim (f := FunctionImport.trim t) fun _ => rfl]
    rfl
  have hsets : (container.trim t).entitySets.flatMap (m.trim t).entitySetDefects =
      container.entitySets.flatMap m.entitySetDefects := flatMap_trim m.entitySetDefects_trim _
  have hassociations : (container.trim t).associationSets.flatMap
        ((m.trim t).associationSetDefects (container.trim t)) =
      container.associationSets.flatMap (m.associationSetDefects container) :=
    flatMap_trim (m.associationSetDefects_trim container) _
  rw [containerDefects, containerDefects, hitems, scopeDefects_trim, hsets, hassociations, himports,
    flatMap_trim m.functionImportDefects_trim]
  rfl

/-! ## The model -/

theorem rootDefects_trim : (m.trim t).rootDefects = m.rootDefects := by
  have hnamespaces : (m.trim t).namespaces.map namedItem =
      (m.namespaces.map namedItem).map (NamedItem.trim t) :=
    map_namedItem_trim (f := Namespace.trim t) (fun _ => rfl) m.namespaces
  have hcontainers : (m.trim t).containers.map namedItem =
      (m.containers.map namedItem).map (NamedItem.trim t) :=
    map_namedItem_trim (f := EntityContainer.trim t) (fun _ => rfl) m.containers
  rw [rootDefects, rootDefects, hnamespaces, hcontainers, scopeDefects_trim, scopeDefects_trim]
  rfl

theorem defects_trim (ht : t.functions = true) : (m.trim t).defects = m.defects := by
  have hnamespace (ns : Namespace) :
      (m.trim t).namespaceDefects (ns.trim t) = m.namespaceDefects ns := by
    rw [namespaceDefects_trim, Trim.functionNodes_of_kept ht]
  have hcontainer (container : EntityContainer) :
      (m.trim t).containerDefects (container.trim t) = m.containerDefects container := by
    rw [containerDefects_trim, Trim.functionNodes_of_kept ht]
  rw [defects, defects, rootDefects_trim]
  exact congrArg₂ (· ++ ·) (congrArg _ (flatMap_trim hnamespace m.namespaces))
    (flatMap_trim hcontainer m.containers)

theorem namespaceDefects_trim_sublist (ns : Namespace) :
    ((m.trim t).namespaceDefects (ns.trim t)).Sublist (m.namespaceDefects ns) := by
  rw [namespaceDefects_trim]
  cases ht : t.functions with
  | true => rw [Trim.functionNodes_of_kept ht]
  | false =>
    have hscope : (scopeDefects ns.name
        ({ ns with functionGroups := [] } : Namespace).items).Sublist
          (scopeDefects ns.name ns.items) :=
      scopeDefects_sublist_append ns.name _ (ns.functionGroups.map namedItem)
    rw [Trim.functionNodes_of_dropped ht, namespaceDefects, namespaceDefects]
    exact (((((hscope.append_left _).append_right _).append_right _).append_right _).append_right
      _).append (List.nil_sublist _)

theorem containerDefects_trim_sublist (container : EntityContainer) :
    ((m.trim t).containerDefects (container.trim t)).Sublist (m.containerDefects container) := by
  rw [containerDefects_trim]
  cases ht : t.functions with
  | true => rw [Trim.functionNodes_of_kept ht]
  | false =>
    have hscope : (scopeDefects container.name
        ({ container with functionImports := [] } : EntityContainer).items).Sublist
          (scopeDefects container.name container.items) :=
      scopeDefects_sublist_append container.name _ (container.functionImports.map namedItem)
    rw [Trim.functionNodes_of_dropped ht, containerDefects, containerDefects]
    exact (((hscope.append_left _).append_right _).append_right _).append (List.nil_sublist _)

theorem defects_trim_sublist : (m.trim t).defects.Sublist m.defects := by
  have hnamespaces : ((m.trim t).namespaces.flatMap (m.trim t).namespaceDefects).Sublist
      (m.namespaces.flatMap m.namespaceDefects) := by
    rw [trim, List.flatMap_map]
    exact List.Sublist.flatMap_right _ fun ns _ => m.namespaceDefects_trim_sublist ns
  have hcontainers : ((m.trim t).containers.flatMap (m.trim t).containerDefects).Sublist
      (m.containers.flatMap m.containerDefects) := by
    rw [trim, List.flatMap_map]
    exact List.Sublist.flatMap_right _ fun container _ => m.containerDefects_trim_sublist container
  rw [defects, defects, rootDefects_trim]
  exact (hnamespaces.append_left _).append hcontainers

/-! ## Building -/

/-- As long as function nodes are kept, trimmed declarations build exactly if the declarations do,
and report the same defect if they do not. -/
theorem build_trim (ht : t.functions = true) (name : String) (declarations : List Declaration) :
    build name (declarations.filterMap (Declaration.trim? t)) =
      (build name declarations).map (Model.trim t) := by
  rw [build_eq, build_eq, assemble_trim, checked, checked, defects_trim _ ht]
  cases (assemble name declarations).defects <;> rfl

/-- Without function nodes they build if the declarations do. -/
theorem build_trim_of_ok {name : String} {declarations : List Declaration} {m : Model}
    (h : build name declarations = .ok m) :
    build name (declarations.filterMap (Declaration.trim? t)) = .ok (m.trim t) := by
  obtain rfl := assemble_of_build h
  have hsublist := (assemble name declarations).defects_trim_sublist (t := t)
  rw [defects_eq_nil_iff.mpr (wellFormed_of_build h), List.sublist_nil] at hsublist
  rw [build_eq, assemble_trim]
  exact checked_eq_ok_iff.mpr ⟨rfl, defects_eq_nil_iff.mp hsublist⟩

end Model

end EntityModel
