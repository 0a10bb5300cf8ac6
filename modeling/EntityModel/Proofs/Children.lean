import EntityModel.Proofs.Events

/-!
# EntityModel.Proofs.Children

What a call leads to directly.

* `Call.children`: what is dispatched below a call whatever the visitor says about functions.
* `Call.functionChild?`: the function groups of a namespace and the function imports of a container,
  if there are any. Nothing else is offered to the visitor.
* `Call.exists_steps_eq`: the offer is the last step of the descent.
-/

namespace EntityModel

/-- The collection of functions that is offered to the visitor below a call, if there is one. -/
def Call.functionChild? : Call → Option Call
  | .ns item =>
    if item.functionGroups.isEmpty then none
    else some (.functionGroups item item.functionGroups)
  | .entityContainer item =>
    if item.functionImports.isEmpty then none
    else some (.functionImports item item.functionImports)
  | _ => none

/-- What a step dispatches whatever the visitor says about functions. -/
def Step.child? : Step → Option Call
  | .call target => some target
  | _ => none

/-- What is dispatched below a call whatever the visitor says about functions, in order. -/
def Call.children (c : Call) : List Call :=
  c.steps.filterMap Step.child?

/-- The step does not ask the visitor for functions. -/
def Step.Unasked (step : Step) : Prop :=
  ∀ target, step ≠ .functions target

namespace Step

theorem unasked_enter (kind : NodeKind) (name? : Option String) : Unasked (enter kind name?) :=
  fun _ => Step.noConfusion

theorem unasked_call (target : Call) : Unasked (call target) :=
  fun _ => Step.noConfusion

theorem unasked_broken (reference : BrokenReference) : Unasked (broken reference) :=
  fun _ => Step.noConfusion

theorem unasked_unnamed (item : MetadataItem) : ∀ step ∈ unnamed item, step.Unasked := by
  simp [unnamed, unasked_enter, unasked_call]

theorem unasked_named (item : NamedItem) : ∀ step ∈ named item, step.Unasked := by
  simp [named, unasked_enter, unasked_call]

theorem unasked_namespaced (item : NamedItem) : ∀ step ∈ namespaced item, step.Unasked := by
  simp [namespaced, unasked_enter, unasked_call]

theorem unasked_unlessEmpty {α : Type} (items : List α) (target : Call) :
    ∀ step ∈ unlessEmpty items (call target), step.Unasked :=
  forall_mem_unlessEmpty (unasked_call target)

theorem unlessEmpty_functions {α : Type} (items : List α) (target : Call) :
    unlessEmpty items (functions target) =
      (if items.isEmpty then none else some target).toList.map functions := by
  unfold unlessEmpty
  split <;> rfl

end Step

open Step Descent in
/-- Only namespaces and containers offer functions. -/
theorem Call.unasked_of_mem_steps {c : Call} (h : ∀ item, c ≠ .ns item)
    (h' : ∀ item, c ≠ .entityContainer item) : ∀ step ∈ c.steps, step.Unasked := by
  have hreturn (reference? : Option TypeReference) :
      ∀ step ∈ returnType reference?, step.Unasked :=
    forall_mem_returnType reference? fun _ => unasked_call _
  cases c with
  | ns item => exact absurd rfl (h item)
  | entityContainer item => exact absurd rfl (h' item)
  | metadataItem item =>
    rw [steps, List.forall_mem_cons]
    exact ⟨unasked_call _, unasked_unlessEmpty _ _⟩
  | model item =>
    simp only [steps, List.forall_mem_append]
    exact ⟨⟨unasked_named _, unasked_unlessEmpty _ _⟩, unasked_unlessEmpty _ _⟩
  | complexType item | enumType item | functionGroup item =>
    rw [steps, List.forall_mem_append]
    exact ⟨unasked_namespaced _, unasked_unlessEmpty _ _⟩
  | entityType item =>
    simp only [steps, List.forall_mem_append]
    exact ⟨⟨⟨unasked_namespaced _, unasked_unlessEmpty _ _⟩, unasked_unlessEmpty _ _⟩,
      unasked_unlessEmpty _ _⟩
  | declaredKeyProperties owner key =>
    intro step hs
    obtain ⟨name, _, rfl⟩ := List.mem_map.mp hs
    exact of_keyProperty (fun _ => unasked_call _) unasked_broken owner name
  | associationType owner item =>
    simp only [steps, List.forall_mem_append]
    refine ⟨⟨unasked_namespaced _, by simp [unasked_call]⟩, ?_⟩
    cases item.referentialConstraint <;> simp [unasked_call]
  | associationConstraint owner association item =>
    simp only [steps, List.forall_mem_append]
    exact ⟨⟨unasked_unnamed _, by simp [unasked_call]⟩,
      forall_mem_dependentProperties (fun _ => unasked_call _) unasked_broken owner association
        item⟩
  | associationSet owner item =>
    have hend : ∀ field target, (setEnd owner item field target).Unasked :=
      of_setEnd (fun _ => unasked_call _) unasked_broken owner item
    rw [steps, List.forall_mem_append]
    exact ⟨unasked_named _, by simp [hend]⟩
  | typeReference item =>
    rw [steps, List.forall_mem_append]
    refine ⟨unasked_unnamed _, ?_⟩
    cases item.facets <;> simp [unasked_call]
  | functionOverload item =>
    simp only [steps, List.forall_mem_append]
    exact ⟨⟨unasked_unnamed _, hreturn _⟩, unasked_unlessEmpty _ _⟩
  | functionImport item =>
    simp only [steps, List.forall_mem_append]
    exact ⟨⟨unasked_named _, hreturn _⟩, unasked_unlessEmpty _ _⟩
  | _ => simp [steps, named, unasked_enter, unasked_call]

open Step in
/-- The question for functions comes last. -/
theorem Call.exists_steps_eq (c : Call) :
    ∃ others, c.steps = others ++ c.functionChild?.toList.map .functions ∧
      ∀ step ∈ others, step.Unasked := by
  cases c with
  | ns item =>
    rw [steps, unlessEmpty_functions]
    refine ⟨_, rfl, ?_⟩
    simp only [List.forall_mem_append]
    exact ⟨⟨⟨⟨unasked_named _, unasked_unlessEmpty _ _⟩, unasked_unlessEmpty _ _⟩,
      unasked_unlessEmpty _ _⟩, unasked_unlessEmpty _ _⟩
  | entityContainer item =>
    rw [steps, unlessEmpty_functions]
    refine ⟨_, rfl, ?_⟩
    simp only [List.forall_mem_append]
    exact ⟨⟨unasked_named _, unasked_unlessEmpty _ _⟩, unasked_unlessEmpty _ _⟩
  | _ =>
    exact ⟨_, (List.append_nil _).symm,
      unasked_of_mem_steps (fun _ => Call.noConfusion) fun _ => Call.noConfusion⟩

theorem Call.children_of_steps_eq {c : Call} {others : List Step}
    (h : c.steps = others ++ c.functionChild?.toList.map .functions) :
    c.children = others.filterMap Step.child? := by
  have hoffer : (c.functionChild?.toList.map Step.functions).filterMap Step.child? = [] := by
    cases c.functionChild? <;> rfl
  rw [children, h, List.filterMap_append, hoffer, List.append_nil]

end EntityModel
