import EntityModel.Proofs.Trimming

/-!
# EntityModel.Proofs.TrimmedRuns

Runs through a trimmed graph.

* `Call.steps_trim`: the descent below a trimmed call is the descent below the call, without the
  steps that lead to what was left out.
* `Call.entries_trim`: so are the dispatches.
-/

namespace EntityModel

/-! ## Calls and steps -/

section Calls

variable (t : Trim)

def Call.trim : Call → Call
  | .dataModelItem kind => .dataModelItem kind
  | .metadataItem item => .metadataItem (item.trim t)
  | .namedItem item => .namedItem (item.trim t)
  | .namespaceItem item => .namespaceItem (item.trim t)
  | .annotations item store => .annotations (item.trim t) (store.trim t)
  | .annotationEntry item entry => .annotationEntry (item.trim t) entry
  | .model item => .model (item.trim t)
  | .namespaces owner items => .namespaces (owner.trim t) (items.map (Namespace.trim t))
  | .entityContainers owner items =>
    .entityContainers (owner.trim t) (items.map (EntityContainer.trim t))
  | .ns item => .ns (item.trim t)
  | .complexTypes owner items => .complexTypes (owner.trim t) (items.map (ComplexType.trim t))
  | .complexType item => .complexType (item.trim t)
  | .complexTypeProperties owner items =>
    .complexTypeProperties (owner.trim t) (items.map (Property.trim t))
  | .entityTypes owner items => .entityTypes (owner.trim t) (items.map (EntityType.trim t))
  | .entityType item => .entityType (item.trim t)
  | .declaredKeyProperties owner key => .declaredKeyProperties (owner.trim t) key
  | .declaredProperties owner items =>
    .declaredProperties (owner.trim t) (items.map (Property.trim t))
  | .declaredNavigationProperties owner items =>
    .declaredNavigationProperties (owner.trim t) (items.map (NavigationProperty.trim t))
  | .enumTypes owner items => .enumTypes (owner.trim t) (items.map (EnumType.trim t))
  | .enumType item => .enumType (item.trim t)
  | .enumMembers owner items => .enumMembers (owner.trim t) (items.map (EnumTypeMember.trim t))
  | .enumMember item => .enumMember (item.trim t)
  | .associationTypes owner items =>
    .associationTypes (owner.trim t) (items.map (AssociationType.trim t))
  | .associationType owner item => .associationType (owner.trim t) (item.trim t)
  | .associationEnd item => .associationEnd (item.trim t)
  | .associationConstraint owner association item =>
    .associationConstraint (owner.trim t) (association.trim t) (item.trim t)
  | .entityContainer item => .entityContainer (item.trim t)
  | .entitySets owner items => .entitySets (owner.trim t) (items.map (EntitySet.trim t))
  | .entitySet item => .entitySet (item.trim t)
  | .associationSets owner items =>
    .associationSets (owner.trim t) (items.map (AssociationSet.trim t))
  | .associationSet owner item => .associationSet (owner.trim t) (item.trim t)
  | .associationSetEnd item => .associationSetEnd (item.trim t)
  | .property item => .property (item.trim t)
  | .navigationProperty item => .navigationProperty (item.trim t)
  | .typeReference item => .typeReference (item.trim t)
  | .primitiveTypeFacets item => .primitiveTypeFacets (item.trim t)
  | .functionGroups owner items =>
    .functionGroups (owner.trim t) (items.map (FunctionGroup.trim t))
  | .functionGroup item => .functionGroup (item.trim t)
  | .functionOverloads owner items =>
    .functionOverloads (owner.trim t) (items.map (FunctionOverload.trim t))
  | .functionOverload item => .functionOverload (item.trim t)
  | .functionOverloadParameters owner items =>
    .functionOverloadParameters (owner.trim t) (items.map (FunctionParameter.trim t))
  | .functionImports owner items =>
    .functionImports (owner.trim t) (items.map (FunctionImport.trim t))
  | .functionImport item => .functionImport (item.trim t)
  | .functionImportParameters owner items =>
    .functionImportParameters (owner.trim t) (items.map (FunctionParameter.trim t))
  | .functionParameter item => .functionParameter (item.trim t)

theorem Call.entry_trim (c : Call) : (c.trim t).entry = c.entry := by
  cases c <;> rfl

/-- The points at which annotations are dispatched. -/
def Point.isAnnotation : Point → Bool
  | .annotations | .annotationEntry => true
  | _ => false

/-- There are dispatches at the point in the trimmed graph. -/
def Trim.keeps (point : Point) : Bool :=
  !point.isAnnotation || t.annotations

/-- What is left of a step, if anything is. -/
def Step.trim? : Step → Option Step
  | .enter kind name? => some (.enter kind name?)
  | .call target => if t.keeps target.point then some (.call (target.trim t)) else none
  | .functions target =>
    if t.functions && t.keeps target.point then some (.functions (target.trim t)) else none
  | .broken reference => some (.broken reference)

end Calls

section Steps

open Step Descent

variable {t : Trim}

namespace Step

theorem trim?_call {target : Call} (h : target.point.isAnnotation = false) :
    (call target).trim? t = some (call (target.trim t)) := by
  simp [trim?, Trim.keeps, h]

theorem trim?_of_kept (ha : t.annotations = true) (target : Call) :
    (call target).trim? t = some (call (target.trim t)) := by
  simp [trim?, Trim.keeps, ha]

theorem trim?_of_dropped (ha : t.annotations = false) {target : Call}
    (h : target.point.isAnnotation = true) : (call target).trim? t = none := by
  simp [trim?, Trim.keeps, ha, h]

theorem filterMap_trim?_unnamed (item : MetadataItem) :
    (unnamed item).filterMap (trim? t) = unnamed (item.trim t) := rfl

theorem filterMap_trim?_named (item : NamedItem) :
    (named item).filterMap (trim? t) = named (item.trim t) := rfl

theorem filterMap_trim?_namespaced (item : NamedItem) :
    (namespaced item).filterMap (trim? t) = namespaced (item.trim t) := rfl

theorem filterMap_trim?_map {α : Type} {items : List α} {g trimmed : α → Step}
    (h : ∀ item, (g item).trim? t = some (trimmed item)) :
    (items.map g).filterMap (trim? t) = items.map trimmed := by
  rw [List.filterMap_map, ← List.filterMap_eq_map]
  congr 1
  funext item
  exact h item

theorem filterMap_trim?_collection {α : Type} {items : List α} {g : α → Call}
    (h : ∀ item, (g item).point.isAnnotation = false) :
    (items.map fun item => call (g item)).filterMap (trim? t) =
      items.map fun item => call ((g item).trim t) :=
  filterMap_trim?_map fun item => trim?_call (h item)

theorem filterMap_trim?_unlessEmpty {α : Type} {items : List α} (f : α → α) {step trimmed : Step}
    (h : step.trim? t = some trimmed) :
    (unlessEmpty items step).filterMap (trim? t) = unlessEmpty (items.map f) trimmed := by
  cases items with
  | nil => rfl
  | cons first rest => exact List.filterMap_cons_some h

theorem filterMap_trim?_unlessEmpty_of_dropped {α : Type} {items : List α} {step : Step}
    (h : step.trim? t = none) : (unlessEmpty items step).filterMap (trim? t) = [] := by
  cases items with
  | nil => rfl
  | cons first rest => exact List.filterMap_cons_none h

/-- If functions are left out, there is nothing left to offer. -/
theorem filterMap_trim?_unlessEmpty_functions {α : Type} {items : List α} (f : α → α)
    {target trimmed : Call} (h : target.point.isAnnotation = false)
    (ht : t.functions = true → target.trim t = trimmed) :
    (unlessEmpty items (functions target)).filterMap (trim? t) =
      unlessEmpty (t.functionNodes (items.map f)) (functions trimmed) := by
  cases items with
  | nil => cases hf : t.functions <;> simp [unlessEmpty, Trim.functionNodes, hf]
  | cons first rest =>
    cases hf : t.functions with
    | false => simp [unlessEmpty, Trim.functionNodes, trim?, hf]
    | true => simp [unlessEmpty, Trim.functionNodes, trim?, Trim.keeps, hf, h, ht hf]

theorem filterMap_trim?_returnType (reference? : Option TypeReference) :
    (returnType reference?).filterMap (trim? t) =
      returnType (reference?.map (TypeReference.trim t)) := by
  cases reference? <;> rfl

theorem trim?_keyProperty (owner : EntityType) (name : String) :
    (keyProperty owner name).trim? t = some (keyProperty (owner.trim t) name) := by
  rw [keyProperty, keyProperty, EntityType.findProperty?_trim]
  cases owner.findProperty? name <;> rfl

theorem trim?_dependentProperty (association : AssociationType) (entity : EntityType)
    (name : String) :
    (dependentProperty association entity name).trim? t =
      some (dependentProperty (association.trim t) (entity.trim t) name) := by
  rw [dependentProperty, dependentProperty, EntityType.findProperty?_trim]
  cases entity.findProperty? name <;> rfl

theorem trim?_setEnd (owner : EntityContainer) (item : AssociationSet) (field : ReferenceField)
    (target : String) :
    (setEnd owner item field target).trim? t =
      some (setEnd (owner.trim t) (item.trim t) field target) := by
  rw [setEnd, setEnd, EntityContainer.findEntitySet?_trim]
  cases owner.findEntitySet? target <;> rfl

theorem filterMap_trim?_dependentProperties (owner : Namespace) (association : AssociationType)
    (item : AssociationConstraint) :
    (dependentProperties owner association item).filterMap (trim? t) =
      dependentProperties (owner.trim t) (association.trim t) (item.trim t) := by
  have hproperties : (item.trim t).dependentProperties = item.dependentProperties := rfl
  have hend : ((association.trim t).endOf item.dependentEnd).entityType =
      (association.endOf item.dependentEnd).entityType := by
    rw [AssociationType.endOf_trim]
    rfl
  have hname : ((association.trim t).endOf item.dependentEnd).name =
      (association.endOf item.dependentEnd).name := by
    rw [AssociationType.endOf_trim]
    rfl
  have hrole : (item.trim t).dependentEnd = item.dependentEnd := rfl
  unfold dependentProperties
  simp only [hproperties, hrole, hend, hname, Namespace.findEntityType?_trim]
  cases item.dependentProperties.isEmpty with
  | true => rfl
  | false =>
    cases owner.findEntityType? (association.endOf item.dependentEnd).entityType with
    | none => rfl
    | some entity =>
      exact filterMap_trim?_map fun name => trim?_dependentProperty association entity name

end Step

open Call in
theorem Call.steps_trim (c : Call) : (c.trim t).steps = c.steps.filterMap (Step.trim? t) := by
  cases c with
  | dataModelItem | annotationEntry | namedItem | namespaceItem | primitiveTypeFacets
  | enumMember | associationEnd | entitySet | associationSetEnd | navigationProperty
  | property | functionParameter => rfl
  | metadataItem item =>
    cases ha : t.annotations with
    | true =>
      have hitem : item.trim t = item := by
        rw [MetadataItem.trim, Annotations.trim_of_kept ha]
      have hcall : (call (annotations item item.annotations)).trim? t =
          some (call (annotations item item.annotations)) := by
        rw [trim?_of_kept ha, trim, hitem, Annotations.trim_of_kept ha]
      rw [trim, hitem, steps, List.filterMap_cons_some (trim?_call rfl),
        filterMap_trim?_unlessEmpty id hcall, List.map_id]
      rfl
    | false =>
      have hentries : (item.trim t).annotations.entries = [] :=
        congrArg Annotations.entries (Annotations.trim_of_dropped ha item.annotations)
      rw [trim, steps, steps, hentries, List.filterMap_cons_some (trim?_call rfl),
        filterMap_trim?_unlessEmpty_of_dropped (trim?_of_dropped ha rfl)]
      rfl
  | annotations item store =>
    cases ha : t.annotations with
    | true =>
      rw [trim, Annotations.trim_of_kept ha]
      exact (filterMap_trim?_map fun entry => trim?_of_kept ha (annotationEntry item entry)).symm
    | false =>
      rw [trim, Annotations.trim_of_dropped ha]
      refine (List.filterMap_eq_nil_iff.mpr ?_).symm
      intro step hs
      obtain ⟨entry, -, rfl⟩ := List.mem_map.mp hs
      exact trim?_of_dropped ha rfl
  | namespaces | entityContainers | complexTypes | complexTypeProperties
  | entityTypes | declaredProperties | declaredNavigationProperties | enumTypes | enumMembers
  | associationTypes | entitySets | associationSets | functionGroups | functionOverloads
  | functionOverloadParameters | functionImports | functionImportParameters =>
    rw [steps, filterMap_trim?_collection fun _ => rfl]
    exact List.map_map
  | declaredKeyProperties owner key =>
    exact (filterMap_trim?_map fun name => trim?_keyProperty owner name).symm
  | model item =>
    rw [steps, List.filterMap_append, List.filterMap_append, filterMap_trim?_named,
      filterMap_trim?_unlessEmpty (Namespace.trim t) (trim?_call rfl),
      filterMap_trim?_unlessEmpty (EntityContainer.trim t) (trim?_call rfl)]
    rfl
  | ns item =>
    have hgroups : t.functions = true →
        (functionGroups item item.functionGroups).trim t =
          functionGroups (item.trim t) (item.trim t).functionGroups := by
      intro hf
      simp [trim, Namespace.trim, Trim.functionNodes, hf]
    simp only [steps, List.filterMap_append]
    rw [filterMap_trim?_named, filterMap_trim?_unlessEmpty (ComplexType.trim t) (trim?_call rfl),
      filterMap_trim?_unlessEmpty (EntityType.trim t) (trim?_call rfl),
      filterMap_trim?_unlessEmpty (EnumType.trim t) (trim?_call rfl),
      filterMap_trim?_unlessEmpty (AssociationType.trim t) (trim?_call rfl),
      filterMap_trim?_unlessEmpty_functions (FunctionGroup.trim t) rfl hgroups]
    rfl
  | entityContainer item =>
    have himports : t.functions = true →
        (functionImports item item.functionImports).trim t =
          functionImports (item.trim t) (item.trim t).functionImports := by
      intro hf
      simp [trim, EntityContainer.trim, Trim.functionNodes, hf]
    simp only [steps, List.filterMap_append]
    rw [filterMap_trim?_named, filterMap_trim?_unlessEmpty (EntitySet.trim t) (trim?_call rfl),
      filterMap_trim?_unlessEmpty (AssociationSet.trim t) (trim?_call rfl),
      filterMap_trim?_unlessEmpty_functions (FunctionImport.trim t) rfl himports]
    rfl
  | complexType item =>
    rw [steps, List.filterMap_append, filterMap_trim?_namespaced,
      filterMap_trim?_unlessEmpty (Property.trim t) (trim?_call rfl)]
    rfl
  | enumType item =>
    rw [steps, List.filterMap_append, filterMap_trim?_namespaced,
      filterMap_trim?_unlessEmpty (EnumTypeMember.trim t) (trim?_call rfl)]
    rfl
  | functionGroup item =>
    rw [steps, List.filterMap_append, filterMap_trim?_namespaced,
      filterMap_trim?_unlessEmpty (FunctionOverload.trim t) (trim?_call rfl)]
    rfl
  | entityType item =>
    simp only [steps, List.filterMap_append]
    rw [filterMap_trim?_namespaced, filterMap_trim?_unlessEmpty id (trim?_call rfl),
      filterMap_trim?_unlessEmpty (Property.trim t) (trim?_call rfl),
      filterMap_trim?_unlessEmpty (NavigationProperty.trim t) (trim?_call rfl), List.map_id]
    rfl
  | associationType owner item =>
    obtain ⟨name, source, target, annotations, rule⟩ := item
    simp only [steps, List.filterMap_append]
    cases rule <;> rfl
  | associationConstraint owner association item =>
    simp only [steps, List.filterMap_append]
    have hend : (call (associationEnd (association.endOf item.dependentEnd))).trim? t =
        some (call (associationEnd ((association.trim t).endOf item.dependentEnd))) := by
      rw [AssociationType.endOf_trim]
      rfl
    rw [filterMap_trim?_unnamed, filterMap_trim?_dependentProperties,
      List.filterMap_cons_some hend]
    rfl
  | associationSet owner item =>
    rw [steps, List.filterMap_append, filterMap_trim?_named, List.filterMap_cons_some
      (trim?_setEnd owner item .sourceSet item.source), List.filterMap_cons_some
      (trim?_setEnd owner item .targetSet item.target)]
    rfl
  | typeReference item =>
    obtain ⟨referenced, annotations, nullable, facets⟩ := item
    simp only [steps, List.filterMap_append]
    cases facets <;> rfl
  | functionOverload item =>
    rw [steps, List.filterMap_append, List.filterMap_append, filterMap_trim?_unnamed,
      filterMap_trim?_returnType,
      filterMap_trim?_unlessEmpty (FunctionParameter.trim t) (trim?_call rfl)]
    rfl
  | functionImport item =>
    rw [steps, List.filterMap_append, List.filterMap_append, filterMap_trim?_named,
      filterMap_trim?_returnType,
      filterMap_trim?_unlessEmpty (FunctionParameter.trim t) (trim?_call rfl)]
    rfl

end Steps

/-! ## Dispatches -/

section Runs

variable {t : Trim} {on : Bool}

theorem Call.isAnnotation_of_mem_steps {c : Call} (h : c.point.isAnnotation = true) {step : Step}
    (hs : step ∈ c.steps) {target : Call} (ht : step.target? = some target) :
    target.point.isAnnotation = true := by
  cases c with
  | annotations item store =>
    obtain ⟨entry, -, rfl⟩ := List.mem_map.mp hs
    cases ht
    rfl
  | annotationEntry item entry => cases hs
  | _ => cases h

/-- Below annotations there are only annotations. -/
theorem Call.isAnnotation_of_mem_opened {c : Call} (h : c.point.isAnnotation = true) :
    ∀ d ∈ c.opened { functions := on }, d.point.isAnnotation = true :=
  forall_mem_opened (fun _ => rfl) (fun _ h _ hs _ ht => isAnnotation_of_mem_steps h hs ht) h

variable (t) in
def Trim.kept (entries : List Dispatch) : List Dispatch :=
  entries.filter fun entry => t.keeps entry.point

theorem Trim.kept_entries_of_dropped {c : Call} (h : t.keeps c.point = false) :
    t.kept (c.entries on) = [] := by
  have hc : c.point.isAnnotation = true ∧ t.annotations = false := by
    simpa [keeps] using h
  rw [kept, List.filter_eq_nil_iff]
  intro entry he
  obtain ⟨d, hd, rfl⟩ := List.mem_map.mp he
  have hpoint : d.point.isAnnotation = true := Call.isAnnotation_of_mem_opened hc.1 d hd
  simp [keeps, Call.entry, hpoint, hc.2]

theorem Step.entries_trim? {step : Step}
    (ih : ∀ target, step.target? = some target → t.keeps target.point = true →
      (target.trim t).entries on = t.kept (target.entries (on && t.functions))) :
    (step.trim? t).toList.flatMap (Step.entries on) =
      t.kept (step.entries (on && t.functions)) := by
  have htarget (target : Call) (ht : step.target? = some target) :
      t.kept (target.entries (on && t.functions)) =
        if t.keeps target.point then (target.trim t).entries on else [] := by
    split
    · exact (ih target ht (by assumption)).symm
    · exact Trim.kept_entries_of_dropped (Bool.eq_false_iff.mpr (by assumption))
  cases step with
  | enter kind name? => rfl
  | broken reference => rfl
  | call target =>
    rw [entries_call, htarget target rfl, trim?]
    split
    · exact List.append_nil _
    · rfl
  | functions target =>
    rw [entries_functions, trim?]
    cases hf : t.functions with
    | false => simp [Trim.kept]
    | true =>
      cases on with
      | false =>
        rw [Bool.true_and]
        split <;> rfl
      | true =>
        rw [hf, Bool.true_and] at htarget
        rw [Bool.true_and, Bool.true_and, if_pos rfl, htarget target rfl]
        split
        · exact List.append_nil _
        · rfl

/-- In the trimmed graph the dispatches are those that the trim keeps, with functions taken where it
keeps them. -/
theorem Call.entries_trim {c : Call} (h : t.keeps c.point = true) :
    (c.trim t).entries on = t.kept (c.entries (on && t.functions)) := by
  induction c using Call.stepInduction with
  | h c ih =>
    have hentry : t.keeps c.entry.point = true := h
    have hsteps : ∀ step ∈ c.steps, (step.trim? t).toList.flatMap (Step.entries on) =
        t.kept (step.entries (on && t.functions)) :=
      fun step hs => Step.entries_trim? fun target ht hk => ih step hs target ht hk
    rw [entries_eq, entries_eq, entry_trim, steps_trim, List.filterMap_eq_flatMap_toList,
      List.flatMap_assoc, List.flatMap_congr hsteps, Trim.kept, List.filter_cons, if_pos hentry,
      List.filter_flatMap]
    rfl

end Runs

end EntityModel
