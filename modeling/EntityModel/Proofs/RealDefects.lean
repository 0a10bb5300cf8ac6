import EntityModel.Proofs.BuildCorrect

/-!
# EntityModel.Proofs.RealDefects

What a failed build reports is wrong with the model.

* `Model.Scope`: the declaring scopes of a model, each with its name and its items in order.
  `Model.HasType`: the type references, each with the kind and the name of the node it is put down
  to. A node without a name of its own goes by the name of the node that declares it.
* `Model.Dangles`: the references that name nothing of the required kind where their field looks.
* `Model.Exhibits`: the model has a defect, said without the checks.
* `Model.Justifies`: the first of a list of defects is exhibited. A check may rely on those before it:
  qualified names are looked up only once the namespaces are told apart.
* `Model.build_error_exhibited`: the defect with which a build fails is exhibited.
-/

namespace EntityModel

/-! ## What a model is made of -/

/-- A declaring scope of the model: its name and the items declared in it, in order. -/
inductive Model.Scope (m : Model) : String → List NamedItem → Prop
  | model : m.Scope "" [namedItem m]
  | namespaces : m.Scope m.name (m.namespaces.map namedItem)
  | containers : m.Scope m.name (m.containers.map namedItem)
  | ns {ns : Namespace} (hns : ns ∈ m.namespaces) : m.Scope ns.name ns.items
  | complexType {ns : Namespace} {item : ComplexType} (hns : ns ∈ m.namespaces)
      (h : item ∈ ns.complexTypes) : m.Scope item.name (item.properties.map namedItem)
  | entityType {ns : Namespace} {item : EntityType} (hns : ns ∈ m.namespaces)
      (h : item ∈ ns.entityTypes) : m.Scope item.name item.memberItems
  | enumType {ns : Namespace} {item : EnumType} (hns : ns ∈ m.namespaces)
      (h : item ∈ ns.enumTypes) : m.Scope item.name (item.members.map namedItem)
  | associationType {ns : Namespace} {item : AssociationType} (hns : ns ∈ m.namespaces)
      (h : item ∈ ns.associationTypes) :
      m.Scope item.name [namedItem item.source, namedItem item.target]
  | functionOverload {ns : Namespace} {item : FunctionGroup} {overload : FunctionOverload}
      (hns : ns ∈ m.namespaces) (h : item ∈ ns.functionGroups) (ho : overload ∈ item.overloads) :
      m.Scope item.name (overload.parameters.map namedItem)
  | container {container : EntityContainer} (hc : container ∈ m.containers) :
      m.Scope container.name container.items
  | functionImport {container : EntityContainer} {item : FunctionImport}
      (hc : container ∈ m.containers) (h : item ∈ container.functionImports) :
      m.Scope item.name (item.parameters.map namedItem)

/-- A function with this result and these parameters is put down to a kind of node and a name. -/
inductive Model.HasSignature (m : Model) :
    NodeKind → String → Option TypeReference → List FunctionParameter → Prop
  | functionOverload {ns : Namespace} {item : FunctionGroup} {overload : FunctionOverload}
      (hns : ns ∈ m.namespaces) (h : item ∈ ns.functionGroups) (ho : overload ∈ item.overloads) :
      m.HasSignature .functionOverload item.name overload.returnType overload.parameters
  | functionImport {container : EntityContainer} {item : FunctionImport}
      (hc : container ∈ m.containers) (h : item ∈ container.functionImports) :
      m.HasSignature .functionImport item.name item.returnType item.parameters

/-- The model has a type reference that is put down to a kind of node and a name. -/
inductive Model.HasType (m : Model) : NodeKind → String → TypeReference → Prop
  | complexProperty {ns : Namespace} {item : ComplexType} {property : Property}
      (hns : ns ∈ m.namespaces) (h : item ∈ ns.complexTypes) (hp : property ∈ item.properties) :
      m.HasType .property property.name property.type
  | entityProperty {ns : Namespace} {item : EntityType} {property : Property}
      (hns : ns ∈ m.namespaces) (h : item ∈ ns.entityTypes) (hp : property ∈ item.properties) :
      m.HasType .property property.name property.type
  | result {owner : NodeKind} {name : String} {reference : TypeReference}
      {parameters : List FunctionParameter}
      (h : m.HasSignature owner name (some reference) parameters) : m.HasType owner name reference
  | parameter {owner : NodeKind} {name : String} {returnType : Option TypeReference}
      {parameters : List FunctionParameter} {parameter : FunctionParameter}
      (h : m.HasSignature owner name returnType parameters) (hp : parameter ∈ parameters) :
      m.HasType .functionParameter parameter.name parameter.type

/-! ## What is wrong with it -/

/-- The type that is referred to is there: a declared type under its qualified name. -/
def Model.LocatesType (m : Model) : ReferencedType → Prop
  | .primitive _ => True
  | .complex name => m.Locates Namespace.complexTypes name
  | .enum name => m.Locates Namespace.enumTypes name
  | .entity name => m.Locates Namespace.entityTypes name

/-- A node has the target in the field, and the target names nothing of the required kind where the
field looks: keys among the properties of their own entity type, dependent properties among those of
the entity type of the dependent end, associations and entity types of ends in their own namespace,
sets in their own container, everything else under its qualified name. -/
inductive Model.Dangles (m : Model) : BrokenReference → Prop
  | keyProperty {ns : Namespace} {item : EntityType} {key : String} (hns : ns ∈ m.namespaces)
      (h : item ∈ ns.entityTypes) (hkey : key ∈ item.key) (hnone : ¬ Called key item.properties) :
      m.Dangles ⟨.entityType, item.name, .keyProperty, key⟩
  | baseType {ns : Namespace} {item : EntityType} {base : String} (hns : ns ∈ m.namespaces)
      (h : item ∈ ns.entityTypes) (hbase : item.baseType = some base)
      (hnone : ¬ m.Locates Namespace.entityTypes base) :
      m.Dangles ⟨.entityType, item.name, .baseType, base⟩
  | association {ns : Namespace} {item : EntityType} {property : NavigationProperty}
      (hns : ns ∈ m.namespaces) (h : item ∈ ns.entityTypes)
      (hp : property ∈ item.navigationProperties)
      (hnone : ¬ Called property.association ns.associationTypes) :
      m.Dangles ⟨.navigationProperty, property.name, .association, property.association⟩
  | entityType {ns : Namespace} {item : AssociationType} (role : EndRole)
      (hns : ns ∈ m.namespaces) (h : item ∈ ns.associationTypes)
      (hnone : ¬ Called (item.endOf role).entityType ns.entityTypes) :
      m.Dangles
        ⟨.associationEnd, (item.endOf role).name, .entityType, (item.endOf role).entityType⟩
  | dependentProperty {ns : Namespace} {item : AssociationType} {rule : AssociationConstraint}
      {property : String} (hns : ns ∈ m.namespaces) (h : item ∈ ns.associationTypes)
      (hrule : item.referentialConstraint = some rule) (hp : property ∈ rule.dependentProperties)
      (hnone : ¬ ∃ entity ∈ ns.entityTypes,
        entity.name = (item.endOf rule.dependentEnd).entityType ∧
          Called property entity.properties) :
      m.Dangles ⟨.associationConstraint, item.name, .dependentProperty, property⟩
  | elementType {container : EntityContainer} {item : EntitySet} (hc : container ∈ m.containers)
      (h : item ∈ container.entitySets)
      (hnone : ¬ m.Locates Namespace.entityTypes item.elementType) :
      m.Dangles ⟨.entitySet, item.name, .elementType, item.elementType⟩
  | sourceSet {container : EntityContainer} {item : AssociationSet} (hc : container ∈ m.containers)
      (h : item ∈ container.associationSets) (hnone : ¬ Called item.source container.entitySets) :
      m.Dangles ⟨.associationSet, item.name, .sourceSet, item.source⟩
  | targetSet {container : EntityContainer} {item : AssociationSet} (hc : container ∈ m.containers)
      (h : item ∈ container.associationSets) (hnone : ¬ Called item.target container.entitySets) :
      m.Dangles ⟨.associationSet, item.name, .targetSet, item.target⟩
  | associationType {container : EntityContainer} {item : AssociationSet} {association : String}
      (hc : container ∈ m.containers) (h : item ∈ container.associationSets)
      (hassociation : item.associationType = some association)
      (hnone : ¬ m.Locates Namespace.associationTypes association) :
      m.Dangles ⟨.associationSet, item.name, .associationType, association⟩
  | type {owner : NodeKind} {name : String} {reference : TypeReference}
      (h : m.HasType owner name reference) (hnone : ¬ m.LocatesType reference.referenced) :
      m.Dangles ⟨owner, name, .type, reference.referenced.target⟩

/-- The spatial facet is given. -/
def Facets.Gives (facets : Facets) : SpatialFacet → Prop
  | .srid => facets.srid ≠ none
  | .variableSrid => facets.isVariableSrid ≠ none

/-- The model has the defect. -/
inductive Model.Exhibits (m : Model) : Defect → Prop
  | emptyName {scope : String} {items : List NamedItem} {item : NamedItem}
      (hs : m.Scope scope items) (h : item ∈ items) (hempty : item.name = "") :
      m.Exhibits (.emptyName item.kind scope)
  | duplicateName {scope : String} {before after : List NamedItem} {earlier later : NamedItem}
      (hs : m.Scope scope (before ++ later :: after)) (h : earlier ∈ before)
      (hname : earlier.name = later.name) :
      m.Exhibits (.duplicateName later.kind scope later.name)
  | danglingReference {reference : BrokenReference} (h : m.Dangles reference) :
      m.Exhibits (.danglingReference reference)
  | invalidFacet {owner : NodeKind} {name : String} {reference : TypeReference} {facets : Facets}
      {facet : SpatialFacet} (h : m.HasType owner name reference)
      (hfacets : reference.facets = some facets) (hgiven : facets.Gives facet)
      (hspatial : reference.referenced.isSpatial = false) :
      m.Exhibits (.invalidFacet owner name facet reference.referenced.target)
  | nonIntegralEnum {ns : Namespace} {item : EnumType} (hns : ns ∈ m.namespaces)
      (h : item ∈ ns.enumTypes) (hintegral : item.underlyingType.isIntegral = false) :
      m.Exhibits (.nonIntegralEnum item.name item.underlyingType)

/-! ## Checks one after the other -/

/-- The first of the defects, if there is one, is exhibited by the model. -/
def Model.Justifies (m : Model) (defects : List Defect) : Prop :=
  ∀ defect ∈ defects.head?, m.Exhibits defect

namespace Model

variable {m : Model}

namespace Justifies

theorem nil : m.Justifies [] := by
  intro _ h
  cases h

theorem of_forall {defects : List Defect} (h : ∀ defect ∈ defects, m.Exhibits defect) :
    m.Justifies defects :=
  fun defect hd => h defect (List.mem_of_head? hd)

theorem onlyIf {c : Prop} [Decidable c] {defect : Defect} (h : c → m.Exhibits defect) :
    m.Justifies (if c then [defect] else []) := by
  split
  · rename_i hc
    intro _ hd
    cases hd
    exact h hc
  · exact nil

theorem exceptIf {c : Prop} [Decidable c] {defect : Defect} (h : ¬ c → m.Exhibits defect) :
    m.Justifies (if c then [] else [defect]) := by
  rw [← ite_not]
  exact onlyIf h

/-- What comes second counts only if nothing came first. -/
theorem append {first second : List Defect} (h : m.Justifies first)
    (h' : first = [] → m.Justifies second) : m.Justifies (first ++ second) := by
  cases first with
  | nil => exact h' rfl
  | cons defect rest => exact h

theorem flatMap {α : Type} {items : List α} {f : α → List Defect}
    (h : ∀ item ∈ items, m.Justifies (f item)) : m.Justifies (items.flatMap f) := by
  induction items with
  | nil => exact nil
  | cons item rest ih =>
    rw [List.flatMap_cons]
    exact (h item List.mem_cons_self).append
      fun _ => ih fun x hx => h x (List.mem_cons_of_mem _ hx)

end Justifies

/-! ## Names -/

theorem justifies_nameDefects {scope : String} {items : List NamedItem} (hs : m.Scope scope items)
    {item : NamedItem} (h : item ∈ items) : m.Justifies (nameDefects scope item) :=
  Justifies.onlyIf fun hempty => .emptyName hs h (String.isEmpty_iff.mp hempty)

/-- The invariant of the scan: the names seen are those of the items before. -/
theorem exhibits_scopeDefectsAfter {scope : String} (before : List NamedItem)
    {items : List NamedItem} {seen : List String} (hs : m.Scope scope (before ++ items))
    (hseen : ∀ name ∈ seen, ∃ earlier ∈ before, earlier.name = name) :
    ∀ defect ∈ scopeDefectsAfter scope seen items, m.Exhibits defect := by
  induction items generalizing before seen with
  | nil =>
    intro _ h
    cases h
  | cons item rest ih =>
    rw [scopeDefectsAfter, List.forall_mem_append]
    constructor
    · split
      · rename_i hempty
        rw [List.forall_mem_singleton]
        exact .emptyName hs (List.mem_append_right _ List.mem_cons_self)
          (String.isEmpty_iff.mp hempty)
      · split
        · rename_i hmem
          obtain ⟨earlier, he, hname⟩ := hseen item.name (List.contains_iff_mem.mp hmem)
          rw [List.forall_mem_singleton]
          exact .duplicateName hs he hname
        · simp
    · refine ih (before ++ [item]) ?_ ?_
      · rw [List.append_assoc]
        exact hs
      · intro name hname
        rcases List.mem_cons.mp hname with rfl | hname
        · exact ⟨item, List.mem_append_right _ List.mem_cons_self, rfl⟩
        · obtain ⟨earlier, he, rfl⟩ := hseen name hname
          exact ⟨earlier, List.mem_append_left _ he, rfl⟩

theorem justifies_scopeDefects {scope : String} {items : List NamedItem}
    (hs : m.Scope scope items) : m.Justifies (scopeDefects scope items) :=
  .of_forall (exhibits_scopeDefectsAfter [] hs fun _ h => absurd h List.not_mem_nil)

theorem justifies_rootDefects : m.Justifies m.rootDefects := by
  unfold rootDefects
  exact (justifies_nameDefects .model List.mem_cons_self).append
    (fun _ => justifies_scopeDefects .namespaces)
    |>.append fun _ => justifies_scopeDefects .containers

/-! ## References -/

theorem justifies_referenceDefects {owner : NodeKind} {name : String} {field : ReferenceField}
    {target : String} {found : Bool} {resolved : Prop} (hfound : found = true ↔ resolved)
    (h : ¬ resolved → m.Dangles ⟨owner, name, field, target⟩) :
    m.Justifies (referenceDefects owner name field target found) :=
  Justifies.exceptIf fun hnot => .danglingReference (h (mt hfound.mpr hnot))

theorem justifies_facetDefects {owner : NodeKind} {name : String} {reference : TypeReference}
    (h : m.HasType owner name reference) {facets : Facets}
    (hfacets : reference.facets = some facets) :
    m.Justifies (facetDefects owner name reference.referenced facets) := by
  unfold facetDefects
  split
  · exact .nil
  · rename_i hnot
    have hspatial : reference.referenced.isSpatial = false := Bool.eq_false_iff.mpr hnot
    refine (Justifies.onlyIf fun hgiven => ?_).append fun _ => Justifies.onlyIf fun hgiven => ?_
    · exact .invalidFacet h hfacets (Option.isSome_iff_ne_none.mp hgiven) hspatial
    · exact .invalidFacet h hfacets (Option.isSome_iff_ne_none.mp hgiven) hspatial

section Located

-- All look-ups come after the names of the namespaces have been checked.
variable (hd : (m.namespaces.map (·.name)).Nodup)
include hd

theorem findEntityType?_isSome_iff_locates {qualified : String} :
    (m.findEntityType? qualified).isSome = true ↔ m.Locates Namespace.entityTypes qualified :=
  resolve?_isSome_iff_locates hd

theorem resolves_iff_locatesType {type : ReferencedType} :
    m.resolves type = true ↔ m.LocatesType type := by
  cases type with
  | primitive kind => simp [resolves, LocatesType]
  | complex | enum | entity => exact resolve?_isSome_iff_locates hd

theorem justifies_typeReferenceDefects {owner : NodeKind} {name : String}
    {reference : TypeReference} (h : m.HasType owner name reference) :
    m.Justifies (m.typeReferenceDefects owner name reference) := by
  unfold typeReferenceDefects
  refine (justifies_referenceDefects (resolves_iff_locatesType hd) (.type h)).append fun _ => ?_
  split
  · exact .nil
  · rename_i hfacets
    exact justifies_facetDefects h hfacets

theorem justifies_signatureDefects {owner : NodeKind} {name : String}
    {returnType : Option TypeReference} {parameters : List FunctionParameter}
    (h : m.HasSignature owner name returnType parameters)
    (hs : m.Scope name (parameters.map namedItem)) :
    m.Justifies (m.returnTypeDefects owner name returnType ++ m.parameterDefects name parameters) := by
  refine Justifies.append ?_ fun _ => ?_
  · cases returnType with
    | none => exact .nil
    | some reference => exact justifies_typeReferenceDefects hd (.result h)
  · unfold parameterDefects
    exact (justifies_scopeDefects hs).append fun _ => Justifies.flatMap fun parameter hp =>
      justifies_typeReferenceDefects hd (.parameter h hp)

/-! ## Namespaces -/

section Namespaces

variable {ns : Namespace} (hns : ns ∈ m.namespaces)
include hns

theorem justifies_complexTypeDefects {item : ComplexType} (h : item ∈ ns.complexTypes) :
    m.Justifies (m.complexTypeDefects item) := by
  unfold complexTypeDefects
  exact (justifies_scopeDefects (.complexType hns h)).append fun _ =>
    Justifies.flatMap fun _ hp => justifies_typeReferenceDefects hd (.complexProperty hns h hp)

theorem justifies_entityTypeDefects {item : EntityType} (h : item ∈ ns.entityTypes) :
    m.Justifies (m.entityTypeDefects ns item) := by
  unfold entityTypeDefects
  refine ((((justifies_scopeDefects (.entityType hns h)).append fun _ => ?keys).append
    fun _ => ?base).append fun _ => ?navigation).append fun _ => ?types
  case keys =>
    exact Justifies.flatMap fun _ hkey =>
      justifies_referenceDefects findNamed?_isSome_iff (.keyProperty hns h hkey)
  case base =>
    unfold baseTypeDefects
    split
    · exact .nil
    · rename_i hbase
      exact justifies_referenceDefects (findEntityType?_isSome_iff_locates hd)
        (.baseType hns h hbase)
  case navigation =>
    exact Justifies.flatMap fun _ hp =>
      justifies_referenceDefects findNamed?_isSome_iff (.association hns h hp)
  case types =>
    exact Justifies.flatMap fun _ hp =>
      justifies_typeReferenceDefects hd (.entityProperty hns h hp)

omit hd in
theorem justifies_enumTypeDefects {item : EnumType} (h : item ∈ ns.enumTypes) :
    m.Justifies (enumTypeDefects item) := by
  unfold enumTypeDefects
  exact (Justifies.exceptIf fun hnot => .nonIntegralEnum hns h (Bool.eq_false_iff.mpr hnot)).append
    fun _ => justifies_scopeDefects (.enumType hns h)

omit hd in
theorem justifies_associationEndDefects {item : AssociationType} (h : item ∈ ns.associationTypes)
    (role : EndRole) : m.Justifies (associationEndDefects ns (item.endOf role)) :=
  justifies_referenceDefects findNamed?_isSome_iff (.entityType role hns h)

omit hd hns in
theorem properScope_entityTypes (hscope : ProperScope ns.items) :
    ProperScope (ns.entityTypes.map namedItem) :=
  hscope.sublist ns.sublist_entityTypes

omit hd in
/-- The names of the namespace have been checked, so that the entity type found at the dependent end
is the only one of its name. -/
theorem justifies_constraintDefects (hscope : ProperScope ns.items) {item : AssociationType}
    (h : item ∈ ns.associationTypes) {rule : AssociationConstraint}
    (hrule : item.referentialConstraint = some rule) :
    m.Justifies (constraintDefects ns item rule) := by
  unfold constraintDefects
  dsimp only
  split
  · exact justifies_associationEndDefects hns h rule.dependentEnd
  · rename_i entity hentity
    refine Justifies.flatMap fun property hp =>
      justifies_referenceDefects findNamed?_isSome_iff fun hnot =>
        .dependentProperty hns h hrule hp ?_
    rintro ⟨other, hother, hname, hcalled⟩
    have hother : findNamed? other.name ns.entityTypes = some other :=
      findNamed?_of_mem (properScope_entityTypes hscope).nodup_map hother
    rw [hname] at hother
    cases hother.symm.trans hentity
    exact hnot hcalled

omit hd in
theorem justifies_associationTypeDefects (hscope : ProperScope ns.items) {item : AssociationType}
    (h : item ∈ ns.associationTypes) : m.Justifies (associationTypeDefects ns item) := by
  unfold associationTypeDefects
  refine (((justifies_scopeDefects (.associationType hns h)).append
    fun _ => justifies_associationEndDefects hns h .source).append
    fun _ => justifies_associationEndDefects hns h .target).append fun _ => ?_
  split
  · exact .nil
  · rename_i hrule
    exact justifies_constraintDefects hns hscope h hrule

theorem justifies_functionGroupDefects {item : FunctionGroup} (h : item ∈ ns.functionGroups) :
    m.Justifies (m.functionGroupDefects item) :=
  Justifies.flatMap fun _ ho =>
    justifies_signatureDefects hd (.functionOverload hns h ho) (.functionOverload hns h ho)

theorem justifies_namespaceDefects : m.Justifies (m.namespaceDefects ns) := by
  unfold namespaceDefects
  refine (justifies_nameDefects .namespaces (List.mem_map_of_mem hns)).append
    (fun _ => justifies_scopeDefects (.ns hns))
    |>.append (fun _ => Justifies.flatMap fun _ h => justifies_complexTypeDefects hd hns h)
    |>.append (fun _ => Justifies.flatMap fun _ h => justifies_entityTypeDefects hd hns h)
    |>.append (fun _ => Justifies.flatMap fun _ h => justifies_enumTypeDefects hns h)
    |>.append (fun hfirst => ?_)
    |>.append fun _ => Justifies.flatMap fun _ h => justifies_functionGroupDefects hd hns h
  simp only [List.append_eq_nil_iff] at hfirst
  obtain ⟨⟨⟨⟨-, hscope⟩, -⟩, -⟩, -⟩ := hfirst
  exact Justifies.flatMap fun _ h =>
    justifies_associationTypeDefects hns (scopeDefects_eq_nil_iff.mp hscope) h

end Namespaces

/-! ## Containers -/

section Containers

variable {container : EntityContainer} (hc : container ∈ m.containers)
include hc

theorem justifies_entitySetDefects {item : EntitySet} (h : item ∈ container.entitySets) :
    m.Justifies (m.entitySetDefects item) :=
  justifies_referenceDefects (findEntityType?_isSome_iff_locates hd) (.elementType hc h)

theorem justifies_associationSetDefects {item : AssociationSet}
    (h : item ∈ container.associationSets) :
    m.Justifies (m.associationSetDefects container item) := by
  unfold associationSetDefects
  refine ((justifies_referenceDefects findNamed?_isSome_iff (.sourceSet hc h)).append
    fun _ => justifies_referenceDefects findNamed?_isSome_iff (.targetSet hc h)).append
    fun _ => ?_
  split
  · exact .nil
  · rename_i hassociation
    exact justifies_referenceDefects (resolve?_isSome_iff_locates hd)
      (.associationType hc h hassociation)

theorem justifies_functionImportDefects {item : FunctionImport}
    (h : item ∈ container.functionImports) : m.Justifies (m.functionImportDefects item) :=
  justifies_signatureDefects hd (.functionImport hc h) (.functionImport hc h)

theorem justifies_containerDefects : m.Justifies (m.containerDefects container) := by
  unfold containerDefects
  exact (justifies_nameDefects .containers (List.mem_map_of_mem hc)).append
    (fun _ => justifies_scopeDefects (.container hc))
    |>.append (fun _ => Justifies.flatMap fun _ h => justifies_entitySetDefects hd hc h)
    |>.append (fun _ => Justifies.flatMap fun _ h => justifies_associationSetDefects hd hc h)
    |>.append fun _ => Justifies.flatMap fun _ h => justifies_functionImportDefects hd hc h

end Containers

end Located

/-! ## A failed build -/

theorem justifies_defects : m.Justifies m.defects := by
  unfold defects
  rw [List.append_assoc]
  refine justifies_rootDefects.append fun hroot => ?_
  have hd : (m.namespaces.map (·.name)).Nodup := (rootDefects_eq_nil_iff.mp hroot).2.1.nodup_map
  exact (Justifies.flatMap fun _ hns => justifies_namespaceDefects hd hns).append
    fun _ => Justifies.flatMap fun _ hc => justifies_containerDefects hd hc

/-- The defect with which a build fails is one of the graph that the declarations describe. -/
theorem build_error_exhibited {name : String} {declarations : List Declaration} {defect : Defect}
    (h : build name declarations = .error defect) :
    (assemble name declarations).Exhibits defect := by
  rw [build_eq, checked_eq_error_iff] at h
  exact justifies_defects defect h

/-- A shop without clients is told the source of its association set. -/
theorem build_error_exhibited_shop :
    build "Shop" (shop "Clients") =
        .error (.danglingReference ⟨.associationSet, "OrdersPlaced", .sourceSet, "Clients"⟩) ∧
      (assemble "Shop" (shop "Clients")).Exhibits
        (.danglingReference ⟨.associationSet, "OrdersPlaced", .sourceSet, "Clients"⟩) := by
  have hbuild : build "Shop" (shop "Clients") =
      .error (.danglingReference ⟨.associationSet, "OrdersPlaced", .sourceSet, "Clients"⟩) := rfl
  exact ⟨hbuild, build_error_exhibited hbuild⟩

end Model

end EntityModel
