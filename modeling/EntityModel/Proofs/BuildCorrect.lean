import EntityModel.Proofs.Validation

/-!
# EntityModel.Proofs.BuildCorrect

Building a model succeeds exactly on well-formed graphs.

* `Defect.isFollowed`: the defects that are about references which a traversal follows. No check but
  those on keys, dependent properties and the ends of association sets reports one.
* `Model.consistent_iff`: a model is consistent exactly if all its defects are of this kind.
* `Model.defects_eq_nil_iff`, `Model.build_eq_ok_iff`: no defects, and a successful build.

Both predicates are decided by running the checks.
-/

namespace EntityModel

/-- The fields whose references a traversal follows. -/
def ReferenceField.isFollowed : ReferenceField → Bool
  | .keyProperty | .dependentProperty | .sourceSet | .targetSet => true
  | _ => false

/-- A reference that a traversal follows does not resolve. -/
def Defect.isFollowed : Defect → Bool
  | .danglingReference reference => reference.field.isFollowed
  | _ => false

/-! ## Checks on other things -/

/-- No defect of the list is about a reference that a traversal follows. -/
def Unfollowed (defects : List Defect) : Prop :=
  ∀ defect ∈ defects, defect.isFollowed = false

@[simp] theorem unfollowed_nil : Unfollowed [] := by
  intro defect h
  cases h

@[simp] theorem unfollowed_singleton {defect : Defect} :
    Unfollowed [defect] ↔ defect.isFollowed = false := by
  simp [Unfollowed]

@[simp] theorem unfollowed_append {first second : List Defect} :
    Unfollowed (first ++ second) ↔ Unfollowed first ∧ Unfollowed second :=
  List.forall_mem_append

theorem unfollowed_flatMap {α : Type} {items : List α} {f : α → List Defect}
    (h : ∀ item, Unfollowed (f item)) : Unfollowed (items.flatMap f) := by
  intro defect hd
  obtain ⟨item, _, hf⟩ := List.mem_flatMap.mp hd
  exact h item defect hf

theorem Unfollowed.eq_nil {defects : List Defect} (hu : Unfollowed defects)
    (h : ∀ defect ∈ defects, defect.isFollowed = true) : defects = [] := by
  apply List.eq_nil_iff_forall_not_mem.mpr
  intro defect hd
  have htrue := h defect hd
  rw [hu defect hd] at htrue
  cases htrue

theorem unfollowed_nameDefects {scope : String} {item : NamedItem} :
    Unfollowed (nameDefects scope item) := by
  unfold nameDefects
  split
  · simp [Defect.isFollowed]
  · simp

theorem unfollowed_scopeDefectsAfter {scope : String} {seen : List String}
    {items : List NamedItem} : Unfollowed (scopeDefectsAfter scope seen items) := by
  induction items generalizing seen with
  | nil => simp [scopeDefectsAfter]
  | cons item rest ih =>
    rw [scopeDefectsAfter, unfollowed_append]
    refine ⟨?_, ih⟩
    split
    · simp [Defect.isFollowed]
    · split
      · simp [Defect.isFollowed]
      · simp

theorem unfollowed_scopeDefects {scope : String} {items : List NamedItem} :
    Unfollowed (scopeDefects scope items) :=
  unfollowed_scopeDefectsAfter

theorem unfollowed_referenceDefects {owner : NodeKind} {name : String} {field : ReferenceField}
    {target : String} {found : Bool} (h : field.isFollowed = false) :
    Unfollowed (referenceDefects owner name field target found) := by
  cases found with
  | true => simp [referenceDefects]
  | false => simp [referenceDefects, Defect.isFollowed, h]

theorem unfollowed_facetDefects {owner : NodeKind} {name : String} {type : ReferencedType}
    {facets : Facets} : Unfollowed (facetDefects owner name type facets) := by
  unfold facetDefects
  cases type.isSpatial with
  | true => simp
  | false =>
    rw [if_neg Bool.false_ne_true, unfollowed_append]
    constructor
    · split <;> simp [Defect.isFollowed]
    · split <;> simp [Defect.isFollowed]

namespace Model

variable {m : Model}

theorem unfollowed_typeReferenceDefects {owner : NodeKind} {name : String}
    {reference : TypeReference} : Unfollowed (m.typeReferenceDefects owner name reference) := by
  rw [typeReferenceDefects, unfollowed_append]
  refine ⟨unfollowed_referenceDefects rfl, ?_⟩
  split
  · exact unfollowed_nil
  · exact unfollowed_facetDefects

theorem unfollowed_propertiesDefects {properties : List Property} :
    Unfollowed (properties.flatMap m.propertyDefects) :=
  unfollowed_flatMap fun _ => unfollowed_typeReferenceDefects

theorem unfollowed_signatureDefects {owner : NodeKind} {name scope : String}
    {returnType : Option TypeReference} {parameters : List FunctionParameter} :
    Unfollowed
      (m.returnTypeDefects owner name returnType ++ m.parameterDefects scope parameters) := by
  rw [parameterDefects, unfollowed_append, unfollowed_append]
  refine ⟨?_, unfollowed_scopeDefects, unfollowed_flatMap fun _ =>
    unfollowed_typeReferenceDefects⟩
  cases returnType with
  | none => exact unfollowed_nil
  | some reference => exact unfollowed_typeReferenceDefects

theorem unfollowed_complexTypeDefects {item : ComplexType} :
    Unfollowed (m.complexTypeDefects item) := by
  rw [complexTypeDefects, unfollowed_append]
  exact ⟨unfollowed_scopeDefects, unfollowed_propertiesDefects⟩

theorem unfollowed_baseTypeDefects {item : EntityType} :
    Unfollowed (m.baseTypeDefects item) := by
  unfold baseTypeDefects
  cases item.baseType with
  | none => exact unfollowed_nil
  | some base => exact unfollowed_referenceDefects rfl

theorem unfollowed_enumTypeDefects {item : EnumType} : Unfollowed (enumTypeDefects item) := by
  rw [enumTypeDefects, unfollowed_append]
  refine ⟨?_, unfollowed_scopeDefects⟩
  split
  · exact unfollowed_nil
  · simp [Defect.isFollowed]

theorem unfollowed_functionGroupDefects {item : FunctionGroup} :
    Unfollowed (m.functionGroupDefects item) :=
  unfollowed_flatMap fun _ => unfollowed_signatureDefects

theorem unfollowed_rootDefects : Unfollowed m.rootDefects := by
  rw [rootDefects, unfollowed_append, unfollowed_append]
  exact ⟨⟨unfollowed_nameDefects, unfollowed_scopeDefects⟩, unfollowed_scopeDefects⟩

/-! ## From the checks to the rules -/

section Rules

variable (hm : m.ProperNames)
include hm

theorem entityType_consistent_of_followed {ns : Namespace} {item : EntityType}
    (h : ∀ defect ∈ m.entityTypeDefects ns item, defect.isFollowed = true) :
    item.Consistent m ns := by
  simp only [entityTypeDefects, List.forall_mem_append] at h
  obtain ⟨⟨⟨⟨hscope, -⟩, hbase⟩, hnavigation⟩, htypes⟩ := h
  have hu : Unfollowed (item.navigationProperties.flatMap fun property =>
      referenceDefects .navigationProperty property.name .association property.association
        (ns.findAssociationType? property.association).isSome) :=
    unfollowed_flatMap fun _ => unfollowed_referenceDefects rfl
  exact
    { scope := scopeDefects_eq_nil_iff.mp (unfollowed_scopeDefects.eq_nil hscope)
      base := (baseTypeDefects_eq_nil_iff hm).mp (unfollowed_baseTypeDefects.eq_nil hbase)
      navigation := navigationDefects_eq_nil_iff.mp (hu.eq_nil hnavigation)
      types := (propertiesDefects_eq_nil_iff hm).mp (unfollowed_propertiesDefects.eq_nil htypes) }

omit hm in
theorem associationType_consistent_of_followed {ns : Namespace} {item : AssociationType}
    (h : ∀ defect ∈ associationTypeDefects ns item, defect.isFollowed = true) :
    item.Consistent ns := by
  simp only [associationTypeDefects, List.forall_mem_append] at h
  obtain ⟨⟨⟨hscope, hsource⟩, htarget⟩, -⟩ := h
  have hu : ∀ e, Unfollowed (associationEndDefects ns e) :=
    fun _ => unfollowed_referenceDefects rfl
  exact
    { scope := scopeDefects_eq_nil_iff.mp (unfollowed_scopeDefects.eq_nil hscope)
      source := associationEndDefects_eq_nil_iff.mp ((hu _).eq_nil hsource)
      target := associationEndDefects_eq_nil_iff.mp ((hu _).eq_nil htarget) }

theorem associationSet_declares_of_followed {container : EntityContainer} {item : AssociationSet}
    (h : ∀ defect ∈ m.associationSetDefects container item, defect.isFollowed = true) :
    ∀ association ∈ item.associationType, m.Declares Namespace.associationTypes association := by
  intro association ha
  simp only [associationSetDefects, List.forall_mem_append] at h
  obtain ⟨-, hassociation⟩ := h
  rw [Option.mem_def.mp ha] at hassociation
  have hnil := Unfollowed.eq_nil (unfollowed_referenceDefects rfl) hassociation
  exact (findAssociationType?_isSome_iff hm).mp (referenceDefects_eq_nil_iff.mp hnil)

theorem namespace_consistent_of_followed {ns : Namespace}
    (h : ∀ defect ∈ m.namespaceDefects ns, defect.isFollowed = true) : ns.Consistent m := by
  simp only [namespaceDefects, List.forall_mem_append, List.forall_mem_flatMap] at h
  obtain ⟨⟨⟨⟨⟨⟨-, hscope⟩, hcomplex⟩, hentity⟩, henum⟩, hassociation⟩, hgroup⟩ := h
  exact
    { scope := scopeDefects_eq_nil_iff.mp (unfollowed_scopeDefects.eq_nil hscope)
      complexTypes := fun item hi => (complexTypeDefects_eq_nil_iff hm).mp
        (unfollowed_complexTypeDefects.eq_nil (hcomplex item hi))
      entityTypes := fun item hi => entityType_consistent_of_followed hm (hentity item hi)
      enumTypes := fun item hi => enumTypeDefects_eq_nil_iff.mp
        (unfollowed_enumTypeDefects.eq_nil (henum item hi))
      associationTypes := fun item hi =>
        associationType_consistent_of_followed (hassociation item hi)
      functionGroups := fun item hi => (functionGroupDefects_eq_nil_iff hm).mp
        (unfollowed_functionGroupDefects.eq_nil (hgroup item hi)) }

theorem container_consistent_of_followed {container : EntityContainer}
    (h : ∀ defect ∈ m.containerDefects container, defect.isFollowed = true) :
    container.Consistent m := by
  simp only [containerDefects, List.forall_mem_append, List.forall_mem_flatMap] at h
  obtain ⟨⟨⟨⟨-, hscope⟩, hentity⟩, hassociation⟩, hfunction⟩ := h
  have hset : ∀ item, Unfollowed (m.entitySetDefects item) :=
    fun _ => unfollowed_referenceDefects rfl
  have himport : ∀ item, Unfollowed (m.functionImportDefects item) :=
    fun _ => unfollowed_signatureDefects
  exact
    { scope := scopeDefects_eq_nil_iff.mp (unfollowed_scopeDefects.eq_nil hscope)
      entitySets := fun item hi =>
        (entitySetDefects_eq_nil_iff hm).mp ((hset item).eq_nil (hentity item hi))
      associationSets := fun item hi =>
        associationSet_declares_of_followed hm (hassociation item hi)
      functionImports := fun item hi =>
        (functionImportDefects_eq_nil_iff hm).mp ((himport item).eq_nil (hfunction item hi)) }

end Rules

/-- The scopes come first: the other rules compare look-ups with declarations, which takes distinct
names. -/
theorem consistent_of_followed (h : ∀ defect ∈ m.defects, defect.isFollowed = true) :
    m.Consistent := by
  simp only [defects, List.forall_mem_append, List.forall_mem_flatMap] at h
  obtain ⟨⟨hroot, hnamespaces⟩, hcontainers⟩ := h
  obtain ⟨hnamed, hns, hco⟩ := rootDefects_eq_nil_iff.mp (unfollowed_rootDefects.eq_nil hroot)
  have hm : m.ProperNames := by
    refine ⟨?_, ?_, ?_⟩
    · have hd := hns.distinct
      rw [List.map_map] at hd
      exact hd
    · intro ns hmem
      exact hns.named (namedItem ns) (List.mem_map_of_mem hmem)
    · intro ns hmem
      have hscope := hnamespaces ns hmem
      simp only [namespaceDefects, List.forall_mem_append] at hscope
      obtain ⟨⟨⟨⟨⟨⟨-, hscope⟩, -⟩, -⟩, -⟩, -⟩, -⟩ := hscope
      exact (scopeDefects_eq_nil_iff.mp (unfollowed_scopeDefects.eq_nil hscope)).named
  exact
    { named := hnamed
      namespaceScope := hns
      containerScope := hco
      namespaces := fun ns hmem => namespace_consistent_of_followed hm (hnamespaces ns hmem)
      containers := fun c hmem => container_consistent_of_followed hm (hcontainers c hmem) }

/-! ## Whole models -/

theorem brokenDependents_isFollowed {ns : Namespace} {item : AssociationType}
    (h : item.Consistent ns) (rule : AssociationConstraint) :
    ∀ reference ∈ item.brokenDependents ns rule, reference.field.isFollowed = true := by
  obtain ⟨entity, he⟩ := h.exists_entityType rule.dependentEnd
  intro reference hr
  rw [AssociationType.brokenDependents] at hr
  split at hr
  · cases hr
  · dsimp only at hr
    rw [he] at hr
    obtain ⟨property, _, hp⟩ := List.mem_flatMap.mp hr
    rw [eq_of_mem_unlessFound hp]
    rfl

theorem brokenReferences_isFollowed (h : m.Consistent) :
    ∀ reference ∈ m.brokenReferences, reference.field.isFollowed = true := by
  intro reference hr
  rcases List.mem_append.mp hr with hr | hr
  · obtain ⟨ns, hns, hr⟩ := List.mem_flatMap.mp hr
    rcases List.mem_append.mp hr with hr | hr
    · obtain ⟨item, _, hr⟩ := List.mem_flatMap.mp hr
      obtain ⟨key, _, hk⟩ := List.mem_flatMap.mp hr
      rw [eq_of_mem_unlessFound hk]
      rfl
    · obtain ⟨item, hi, hr⟩ := List.mem_flatMap.mp hr
      unfold AssociationType.brokenReferences at hr
      split at hr
      · cases hr
      · exact brokenDependents_isFollowed ((h.namespaces ns hns).associationTypes item hi) _ _ hr
  · obtain ⟨container, _, hr⟩ := List.mem_flatMap.mp hr
    obtain ⟨item, _, hr⟩ := List.mem_flatMap.mp hr
    rcases List.mem_append.mp hr with hr | hr
    · rw [eq_of_mem_unlessFound hr]
      rfl
    · rw [eq_of_mem_unlessFound hr]
      rfl

/-- A model is consistent exactly if every check passes that is not on a reference which a
traversal follows. -/
theorem consistent_iff : m.Consistent ↔ ∀ defect ∈ m.defects, defect.isFollowed = true := by
  constructor
  · intro h defect hd
    rw [defects_of_consistent h] at hd
    obtain ⟨reference, hr, rfl⟩ := List.mem_map.mp hd
    exact brokenReferences_isFollowed h reference hr
  · exact consistent_of_followed

theorem defects_eq_nil_iff : m.defects = [] ↔ m.WellFormed := by
  constructor
  · intro h
    have hc : m.Consistent := consistent_of_followed (by simp [h])
    rw [defects_of_consistent hc, List.map_eq_nil_iff, brokenReferences_eq_nil_iff] at h
    exact ⟨hc, h⟩
  · rintro ⟨hc, ht⟩
    rw [defects_of_consistent hc, brokenReferences_eq_nil_iff.mpr ht, List.map_nil]

instance : Decidable m.Consistent := decidable_of_iff _ consistent_iff.symm

instance : Decidable m.WellFormed := decidable_of_iff _ defects_eq_nil_iff

theorem checked_eq_ok_iff {built : Model} :
    m.checked = .ok built ↔ m = built ∧ m.WellFormed := by
  rw [← defects_eq_nil_iff]
  unfold checked
  cases m.defects with
  | nil => simp
  | cons defect rest => simp

theorem checked_eq_error_iff {defect : Defect} :
    m.checked = .error defect ↔ m.defects.head? = some defect := by
  unfold checked
  cases m.defects with
  | nil => simp
  | cons first rest => simp

section Build

variable {name : String} {declarations : List Declaration} {built : Model}

theorem assemble_of_build (h : build name declarations = .ok built) :
    assemble name declarations = built := by
  rw [build_eq] at h
  exact (checked_eq_ok_iff.mp h).1

theorem wellFormed_of_build (h : build name declarations = .ok built) : built.WellFormed := by
  rw [build_eq] at h
  obtain ⟨rfl, hwell⟩ := checked_eq_ok_iff.mp h
  exact hwell

theorem build_of_wellFormed (h : (assemble name declarations).WellFormed) :
    build name declarations = .ok (assemble name declarations) := by
  rw [build_eq]
  exact checked_eq_ok_iff.mpr ⟨rfl, h⟩

/-- A build succeeds exactly if the graph that the declarations describe is well formed, and then
hands out that graph. -/
theorem build_eq_ok_iff :
    build name declarations = .ok built ↔
      assemble name declarations = built ∧ (assemble name declarations).WellFormed := by
  rw [build_eq]
  exact checked_eq_ok_iff

end Build

end Model

/-! ## A shop -/

def Model.sales : Namespace where
  name := "Sales"
  entityTypes := [
    { name := "Customer"
      key := ["Id"]
      properties := [{ name := "Id", type := { referenced := .primitive .int32 } }] },
    { name := "Order"
      key := ["Id"]
      properties := [
        { name := "Id", type := { referenced := .primitive .int32 } },
        { name := "CustomerId", type := { referenced := .primitive .int32 } }] }]
  associationTypes := [
    { name := "Placed"
      source := { name := "Customer", entityType := "Customer", multiplicity := .one }
      target := { name := "Orders", entityType := "Order", multiplicity := .many }
      referentialConstraint :=
        some { dependentEnd := .target, dependentProperties := ["CustomerId"] } }]

/-- Orders depend on customers, who are sought in the entity set of the given name. -/
def Model.shop (customers : String) : List Declaration := [
  .ns sales,
  .container
    { name := "Store"
      entitySets := [
        { name := "Customers", elementType := "Sales.Customer" },
        { name := "Orders", elementType := "Sales.Order" }]
      associationSets := [
        { name := "OrdersPlaced"
          source := customers
          target := "Orders"
          associationType := some "Sales.Placed" }] }]

example : (Model.assemble "Shop" (Model.shop "Customers")).WellFormed := by decide

end EntityModel
