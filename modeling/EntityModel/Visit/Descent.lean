import EntityModel.BrokenReference
import EntityModel.Visit.Call

/-!
# EntityModel.Visit.Descent

The default descent, one level at a time. `Call.steps` lists what the descent does below a call: a
node first passes through its tiers, then each collection that is not empty is dispatched in
declaration order. References are looked up by name on the owning node and dispatched again, or
reported as broken. Function collections are offered to the visitor, which may decline.

`Call.rank_lt_of_mem_steps` says that every dispatch below a call has a smaller rank, so that the
descent ends.
-/

namespace EntityModel

/-- One step of a descent: a node is entered, a call is dispatched, a call is dispatched if the
visitor takes functions, or a reference turns out to be broken. -/
inductive Step where
  | enter (kind : NodeKind) (name? : Option String)
  | call (target : Call)
  | functions (target : Call)
  | broken (reference : BrokenReference)

namespace Step

/-- The call that a step may dispatch. -/
def target? : Step → Option Call
  | enter _ _ => none
  | call target => some target
  | functions target => some target
  | broken _ => none

/-- A collection is passed on only if it holds something. -/
def unlessEmpty {α : Type} (items : List α) (step : Step) : List Step :=
  if items.isEmpty then [] else [step]

theorem forall_mem_unlessEmpty {α : Type} {P : Step → Prop} {items : List α} {step : Step}
    (h : P step) : ∀ s ∈ unlessEmpty items step, P s := by
  intro s hs
  unfold unlessEmpty at hs
  split at hs
  · cases hs
  · rw [List.mem_singleton.mp hs]; exact h

/-- A node with annotations but no name enters at the metadata tier. -/
def unnamed (item : MetadataItem) : List Step :=
  [enter item.kind none, call (.metadataItem item)]

/-- A named node enters at the named tier. -/
def named (item : NamedItem) : List Step :=
  [enter item.kind (some item.name), call (.namedItem item)]

/-- An item declared directly under a namespace enters at the namespace item tier. -/
def namespaced (item : NamedItem) : List Step :=
  [enter item.kind (some item.name), call (.namespaceItem item)]

/-- An optional type reference is visited if it is there. -/
def returnType (reference? : Option TypeReference) : List Step :=
  match reference? with
  | none => []
  | some reference => [call (.typeReference reference)]

theorem forall_mem_returnType {P : Step → Prop} (reference? : Option TypeReference)
    (h : ∀ reference, P (call (.typeReference reference))) : ∀ s ∈ returnType reference?, P s := by
  unfold returnType
  split
  · simp
  · simp only [List.mem_singleton, forall_eq]; exact h _

end Step

namespace Descent

open Step

def keyProperty (owner : EntityType) (name : String) : Step :=
  match owner.findProperty? name with
  | some property => call (.property property)
  | none => broken ⟨.entityType, owner.name, .keyProperty, name⟩

def dependentProperty (association : AssociationType) (entity : EntityType) (name : String) :
    Step :=
  match entity.findProperty? name with
  | some property => call (.property property)
  | none => broken ⟨.associationConstraint, association.name, .dependentProperty, name⟩

/-- Below the dependent end, its entity type is looked up only if a property depends on it. -/
def dependentProperties (owner : Namespace) (association : AssociationType)
    (item : AssociationConstraint) : List Step :=
  if item.dependentProperties.isEmpty then []
  else
    let dependent := association.endOf item.dependentEnd
    match owner.findEntityType? dependent.entityType with
    | none => [broken ⟨.associationEnd, dependent.name, .entityType, dependent.entityType⟩]
    | some entity => item.dependentProperties.map (dependentProperty association entity)

def setEnd (owner : EntityContainer) (item : AssociationSet) (field : ReferenceField)
    (target : String) : Step :=
  match owner.findEntitySet? target with
  | some set => call (.associationSetEnd set)
  | none => broken ⟨.associationSet, item.name, field, target⟩

/-! A look-up leads to the node that is found, or to a broken reference. -/

theorem of_keyProperty {P : Step → Prop} (hfound : ∀ property, P (call (.property property)))
    (hmissing : ∀ reference, P (broken reference)) (owner : EntityType) (name : String) :
    P (keyProperty owner name) := by
  unfold keyProperty
  split
  · exact hfound _
  · exact hmissing _

theorem forall_mem_dependentProperties {P : Step → Prop}
    (hfound : ∀ property, P (call (.property property)))
    (hmissing : ∀ reference, P (broken reference)) (owner : Namespace)
    (association : AssociationType) (item : AssociationConstraint) :
    ∀ s ∈ dependentProperties owner association item, P s := by
  unfold dependentProperties
  split
  · simp
  · dsimp only
    split
    · simp only [List.mem_singleton, forall_eq]; exact hmissing _
    · simp only [List.mem_map, forall_exists_index, and_imp, forall_apply_eq_imp_iff₂]
      intro name _
      unfold dependentProperty
      split
      · exact hfound _
      · exact hmissing _

theorem of_setEnd {P : Step → Prop} (hfound : ∀ set, P (call (.associationSetEnd set)))
    (hmissing : ∀ reference, P (broken reference)) (owner : EntityContainer)
    (item : AssociationSet) (field : ReferenceField) (target : String) :
    P (setEnd owner item field target) := by
  unfold setEnd
  split
  · exact hfound _
  · exact hmissing _

end Descent

open Step Descent in
/-- The default descent below a call. -/
def Call.steps : Call → List Step
  | .dataModelItem _ => []
  | .metadataItem item =>
    call (.dataModelItem item.kind) ::
      unlessEmpty item.annotations.entries (call (.annotations item item.annotations))
  | .namedItem item => [call (.metadataItem item.toMetadataItem)]
  | .namespaceItem item => [call (.namedItem item)]
  | .annotations item store => store.entries.map fun entry => call (.annotationEntry item entry)
  | .annotationEntry _ _ => []
  | .model item =>
    named (EntityModel.namedItem item) ++
      unlessEmpty item.namespaces (call (.namespaces item item.namespaces)) ++
      unlessEmpty item.containers (call (.entityContainers item item.containers))
  | .namespaces _ items => items.map fun item => call (.ns item)
  | .entityContainers _ items => items.map fun item => call (.entityContainer item)
  | .ns item =>
    named (EntityModel.namedItem item) ++
      unlessEmpty item.complexTypes (call (.complexTypes item item.complexTypes)) ++
      unlessEmpty item.entityTypes (call (.entityTypes item item.entityTypes)) ++
      unlessEmpty item.enumTypes (call (.enumTypes item item.enumTypes)) ++
      unlessEmpty item.associationTypes (call (.associationTypes item item.associationTypes)) ++
      unlessEmpty item.functionGroups (functions (.functionGroups item item.functionGroups))
  | .complexTypes _ items => items.map fun item => call (.complexType item)
  | .complexType item =>
    namespaced (EntityModel.namedItem item) ++
      unlessEmpty item.properties (call (.complexTypeProperties item item.properties))
  | .complexTypeProperties _ items => items.map fun item => call (.property item)
  | .entityTypes _ items => items.map fun item => call (.entityType item)
  | .entityType item =>
    namespaced (EntityModel.namedItem item) ++
      unlessEmpty item.key (call (.declaredKeyProperties item item.key)) ++
      unlessEmpty item.properties (call (.declaredProperties item item.properties)) ++
      unlessEmpty item.navigationProperties
        (call (.declaredNavigationProperties item item.navigationProperties))
  | .declaredKeyProperties owner key => key.map (keyProperty owner)
  | .declaredProperties _ items => items.map fun item => call (.property item)
  | .declaredNavigationProperties _ items =>
    items.map fun item => call (.navigationProperty item)
  | .enumTypes _ items => items.map fun item => call (.enumType item)
  | .enumType item =>
    namespaced (EntityModel.namedItem item) ++
      unlessEmpty item.members (call (.enumMembers item item.members))
  | .enumMembers _ items => items.map fun item => call (.enumMember item)
  | .enumMember item => named (EntityModel.namedItem item)
  | .associationTypes owner items => items.map fun item => call (.associationType owner item)
  | .associationType owner item =>
    namespaced (EntityModel.namedItem item) ++
      [call (.associationEnd item.source), call (.associationEnd item.target)] ++
      match item.referentialConstraint with
      | none => []
      | some rule => [call (.associationConstraint owner item rule)]
  | .associationEnd item => named (EntityModel.namedItem item)
  | .associationConstraint owner association item =>
    unnamed (EntityModel.metadataItem item) ++
      [call (.associationEnd (association.endOf item.dependentEnd))] ++
      dependentProperties owner association item
  | .entityContainer item =>
    named (EntityModel.namedItem item) ++
      unlessEmpty item.entitySets (call (.entitySets item item.entitySets)) ++
      unlessEmpty item.associationSets (call (.associationSets item item.associationSets)) ++
      unlessEmpty item.functionImports (functions (.functionImports item item.functionImports))
  | .entitySets _ items => items.map fun item => call (.entitySet item)
  | .entitySet item => named (EntityModel.namedItem item)
  | .associationSets owner items => items.map fun item => call (.associationSet owner item)
  | .associationSet owner item =>
    named (EntityModel.namedItem item) ++
      [setEnd owner item .sourceSet item.source, setEnd owner item .targetSet item.target]
  | .associationSetEnd item => named (EntityModel.namedItem item)
  | .property item =>
    named (EntityModel.namedItem item) ++ [call (.typeReference item.type)]
  | .navigationProperty item => named (EntityModel.namedItem item)
  | .typeReference item =>
    unnamed (EntityModel.metadataItem item) ++
      match item.facets with
      | none => []
      | some facets => [call (.primitiveTypeFacets facets)]
  | .primitiveTypeFacets _ =>
    [enter .primitiveTypeFacets none, call (.dataModelItem .primitiveTypeFacets)]
  | .functionGroups _ items => items.map fun item => call (.functionGroup item)
  | .functionGroup item =>
    namespaced (EntityModel.namedItem item) ++
      unlessEmpty item.overloads (call (.functionOverloads item item.overloads))
  | .functionOverloads _ items => items.map fun item => call (.functionOverload item)
  | .functionOverload item =>
    unnamed (EntityModel.metadataItem item) ++ returnType item.returnType ++
      unlessEmpty item.parameters (call (.functionOverloadParameters item item.parameters))
  | .functionOverloadParameters _ items => items.map fun item => call (.functionParameter item)
  | .functionImports _ items => items.map fun item => call (.functionImport item)
  | .functionImport item =>
    named (EntityModel.namedItem item) ++ returnType item.returnType ++
      unlessEmpty item.parameters (call (.functionImportParameters item item.parameters))
  | .functionImportParameters _ items => items.map fun item => call (.functionParameter item)
  | .functionParameter item =>
    named (EntityModel.namedItem item) ++ [call (.typeReference item.type)]

/-! ## The descent ends -/

/-- The step dispatches nothing of rank `n` or more. -/
def Step.Below (n : Nat) (step : Step) : Prop :=
  ∀ target, step.target? = some target → target.rank < n

namespace Step

theorem below_enter (n : Nat) (kind : NodeKind) (name? : Option String) :
    Below n (enter kind name?) := by
  intro target h; cases h

theorem below_broken (n : Nat) (reference : BrokenReference) : Below n (broken reference) := by
  intro target h; cases h

theorem below_call {n : Nat} {target : Call} (h : decide (target.rank < n) = true) :
    Below n (call target) := by
  intro _ e; cases e; exact of_decide_eq_true h

theorem below_functions {n : Nat} {target : Call}
    (h : decide (target.rank < n) = true) : Below n (functions target) := by
  intro _ e; cases e; exact of_decide_eq_true h

theorem below_unnamed {n : Nat} (item : MetadataItem)
    (h : decide (2 < n) = true) : ∀ s ∈ unnamed item, Below n s := by
  simp only [unnamed, List.mem_cons, List.not_mem_nil, or_false, forall_eq_or_imp, forall_eq]
  exact ⟨below_enter _ _ _, below_call h⟩

theorem below_named {n : Nat} (item : NamedItem)
    (h : decide (3 < n) = true) : ∀ s ∈ named item, Below n s := by
  simp only [named, List.mem_cons, List.not_mem_nil, or_false, forall_eq_or_imp, forall_eq]
  exact ⟨below_enter _ _ _, below_call h⟩

theorem below_namespaced {n : Nat} (item : NamedItem)
    (h : decide (4 < n) = true) : ∀ s ∈ namespaced item, Below n s := by
  simp only [namespaced, List.mem_cons, List.not_mem_nil, or_false, forall_eq_or_imp, forall_eq]
  exact ⟨below_enter _ _ _, below_call h⟩

end Step

open Step Descent in
/-- Every step of a descent stays below the rank of its call. -/
theorem Call.below_of_mem_steps (c : Call) : ∀ s ∈ c.steps, Below c.rank s := by
  have collection {α : Type} {n : Nat} (items : List α) (f : α → Call)
      (h : ∀ item, decide ((f item).rank < n) = true) :
      ∀ s ∈ items.map (fun item => call (f item)), Below n s := by
    intro s hs
    obtain ⟨item, _, rfl⟩ := List.mem_map.mp hs
    exact below_call (h item)
  have single {n : Nat} {step : Step} (h : Below n step) : ∀ s ∈ [step], Below n s := by
    intro s hs
    rw [List.mem_singleton.mp hs]; exact h
  have pair {n : Nat} {first second : Step} (h : Below n first) (h' : Below n second) :
      ∀ s ∈ [first, second], Below n s := by
    simp only [List.forall_mem_cons]
    exact ⟨h, h', by simp⟩
  cases c with
  | dataModelItem | annotationEntry => intro s hs; cases hs
  | metadataItem item =>
    simp only [steps, List.forall_mem_cons]
    exact ⟨below_call rfl, forall_mem_unlessEmpty (below_call rfl)⟩
  | namedItem | namespaceItem => exact single (below_call rfl)
  | annotations | namespaces | entityContainers | complexTypes | complexTypeProperties
  | entityTypes | declaredProperties | declaredNavigationProperties | enumTypes | enumMembers
  | associationTypes | entitySets | associationSets | functionGroups | functionOverloads
  | functionOverloadParameters | functionImports | functionImportParameters =>
    exact collection _ _ fun _ => rfl
  | declaredKeyProperties owner key =>
    intro s hs
    obtain ⟨name, _, rfl⟩ := List.mem_map.mp hs
    exact of_keyProperty (fun _ => below_call rfl) (below_broken _) owner name
  | model item =>
    simp only [steps, List.forall_mem_append]
    exact ⟨⟨below_named _ rfl,
      forall_mem_unlessEmpty (below_call rfl)⟩,
      forall_mem_unlessEmpty (below_call rfl)⟩
  | ns item =>
    simp only [steps, List.forall_mem_append]
    exact ⟨⟨⟨⟨⟨below_named _ rfl,
      forall_mem_unlessEmpty (below_call rfl)⟩,
      forall_mem_unlessEmpty (below_call rfl)⟩,
      forall_mem_unlessEmpty (below_call rfl)⟩,
      forall_mem_unlessEmpty (below_call rfl)⟩,
      forall_mem_unlessEmpty (below_functions rfl)⟩
  | entityContainer item =>
    simp only [steps, List.forall_mem_append]
    exact ⟨⟨⟨below_named _ rfl,
      forall_mem_unlessEmpty (below_call rfl)⟩,
      forall_mem_unlessEmpty (below_call rfl)⟩,
      forall_mem_unlessEmpty (below_functions rfl)⟩
  | complexType item | enumType item | functionGroup item =>
    simp only [steps, List.forall_mem_append]
    exact ⟨below_namespaced _ rfl,
      forall_mem_unlessEmpty (below_call rfl)⟩
  | entityType item =>
    simp only [steps, List.forall_mem_append]
    exact ⟨⟨⟨below_namespaced _ rfl,
      forall_mem_unlessEmpty (below_call rfl)⟩,
      forall_mem_unlessEmpty (below_call rfl)⟩,
      forall_mem_unlessEmpty (below_call rfl)⟩
  | enumMember item | associationEnd item | entitySet item | associationSetEnd item
  | navigationProperty item => exact below_named _ rfl
  | associationType owner item =>
    simp only [steps, List.forall_mem_append]
    refine ⟨⟨below_namespaced _ rfl, pair (below_call rfl) (below_call rfl)⟩, ?_⟩
    split
    · simp
    · exact single (below_call rfl)
  | associationConstraint owner association item =>
    simp only [steps, List.forall_mem_append]
    exact ⟨⟨below_unnamed _ rfl,
      single (below_call rfl)⟩,
      forall_mem_dependentProperties (fun _ => below_call rfl) (below_broken _) owner association
        item⟩
  | associationSet owner item =>
    simp only [steps, List.forall_mem_append]
    have hend : ∀ field target,
        Below (associationSet owner item).rank (setEnd owner item field target) :=
      of_setEnd (fun _ => below_call rfl) (below_broken _) owner item
    exact ⟨below_named _ rfl, pair (hend _ _) (hend _ _)⟩
  | property item | functionParameter item =>
    simp only [steps, List.forall_mem_append]
    exact ⟨below_named _ rfl, single (below_call rfl)⟩
  | typeReference item =>
    simp only [steps, List.forall_mem_append]
    refine ⟨below_unnamed _ rfl, ?_⟩
    split
    · simp
    · exact single (below_call rfl)
  | primitiveTypeFacets item =>
    exact pair (below_enter _ _ _) (below_call rfl)
  | functionOverload item =>
    simp only [steps, List.forall_mem_append]
    exact ⟨⟨below_unnamed _ rfl, forall_mem_returnType _ fun _ => below_call rfl⟩,
      forall_mem_unlessEmpty (below_call rfl)⟩
  | functionImport item =>
    simp only [steps, List.forall_mem_append]
    exact ⟨⟨below_named _ rfl, forall_mem_returnType _ fun _ => below_call rfl⟩,
      forall_mem_unlessEmpty (below_call rfl)⟩

/-- What a step dispatches has a smaller rank than the call whose step it is. -/
theorem Call.rank_lt_of_mem_steps {c : Call} {step : Step} {target : Call}
    (h : step ∈ c.steps) (ht : step.target? = some target) : target.rank < c.rank :=
  c.below_of_mem_steps step h target ht

end EntityModel
