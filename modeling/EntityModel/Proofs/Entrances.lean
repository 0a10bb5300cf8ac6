import EntityModel.Proofs.Dispatches
import Mathlib.Data.List.Forall2

/-!
# EntityModel.Proofs.Entrances

How the steps of a descent are laid out.

* `Call.entrance`: the steps by which a node is reported and led through its tiers. Collections and
  tiers have none.
* `Point.onward`: where a descent leads from a point besides tiers, in order.
* `Call.laidOut_steps`: below a node or a collection the entrance comes first, and after it one
  group of steps for each point onward.
* `Call.exists_onward_steps`: so every step after the entrance leads onward, and the ranks of what
  these steps dispatch do not fall.
-/

namespace EntityModel

/-! ## Entrances -/

open Step in
/-- The steps by which a node is reported and led through its tiers. -/
def Call.entrance : Call → List Step
  | .model item => named (EntityModel.namedItem item)
  | .ns item => named (EntityModel.namedItem item)
  | .complexType item => namespaced (EntityModel.namedItem item)
  | .entityType item => namespaced (EntityModel.namedItem item)
  | .enumType item => namespaced (EntityModel.namedItem item)
  | .enumMember item => named (EntityModel.namedItem item)
  | .associationType _ item => namespaced (EntityModel.namedItem item)
  | .associationEnd item => named (EntityModel.namedItem item)
  | .associationConstraint _ _ item => unnamed (EntityModel.metadataItem item)
  | .entityContainer item => named (EntityModel.namedItem item)
  | .entitySet item => named (EntityModel.namedItem item)
  | .associationSet _ item => named (EntityModel.namedItem item)
  | .associationSetEnd item => named (EntityModel.namedItem item)
  | .property item => named (EntityModel.namedItem item)
  | .navigationProperty item => named (EntityModel.namedItem item)
  | .typeReference item => unnamed (EntityModel.metadataItem item)
  | .primitiveTypeFacets _ =>
    [enter .primitiveTypeFacets none, call (.dataModelItem .primitiveTypeFacets)]
  | .functionGroup item => namespaced (EntityModel.namedItem item)
  | .functionOverload item => unnamed (EntityModel.metadataItem item)
  | .functionImport item => named (EntityModel.namedItem item)
  | .functionParameter item => named (EntityModel.namedItem item)
  | _ => []

theorem Call.isTier_of_mem_entrance {c : Call} {step : Step} (h : step ∈ c.entrance) {target : Call}
    (ht : step.target? = some target) : target.point.isTier = true := by
  have htier {kind : NodeKind} {name? : Option String} {tier : Call}
      (hs : step ∈ [.enter kind name?, .call tier]) (hp : tier.point.isTier = true) :
      target.point.isTier = true := by
    simp only [List.mem_cons, List.not_mem_nil, or_false] at hs
    rcases hs with rfl | rfl <;> cases ht
    exact hp
  cases c with
  | dataModelItem | metadataItem | namedItem | namespaceItem | annotations | annotationEntry
  | namespaces | entityContainers | complexTypes | complexTypeProperties | entityTypes
  | declaredKeyProperties | declaredProperties | declaredNavigationProperties | enumTypes
  | enumMembers | associationTypes | entitySets | associationSets | functionGroups
  | functionOverloads | functionOverloadParameters | functionImports
  | functionImportParameters => cases h
  | _ => exact htier h rfl

/-! ## Steps after the entrance -/

/-- Where a descent leads from a point besides tiers, in order. -/
def Point.onward : Point → List Point
  | .model => [.namespaces, .entityContainers]
  | .namespaces => [.ns]
  | .entityContainers => [.entityContainer]
  | .ns => [.complexTypes, .entityTypes, .enumTypes, .associationTypes, .functionGroups]
  | .complexTypes => [.complexType]
  | .complexType => [.complexTypeProperties]
  | .complexTypeProperties => [.property]
  | .entityTypes => [.entityType]
  | .entityType => [.declaredKeyProperties, .declaredProperties, .declaredNavigationProperties]
  | .declaredKeyProperties => [.property]
  | .declaredProperties => [.property]
  | .declaredNavigationProperties => [.navigationProperty]
  | .enumTypes => [.enumType]
  | .enumType => [.enumMembers]
  | .enumMembers => [.enumMember]
  | .associationTypes => [.associationType]
  | .associationType => [.associationEnd, .associationConstraint]
  | .associationConstraint => [.associationEnd, .property]
  | .entityContainer => [.entitySets, .associationSets, .functionImports]
  | .entitySets => [.entitySet]
  | .associationSets => [.associationSet]
  | .associationSet => [.associationSetEnd]
  | .property => [.typeReference]
  | .typeReference => [.primitiveTypeFacets]
  | .functionGroups => [.functionGroup]
  | .functionGroup => [.functionOverloads]
  | .functionOverloads => [.functionOverload]
  | .functionOverload => [.typeReference, .functionOverloadParameters]
  | .functionOverloadParameters => [.functionParameter]
  | .functionImports => [.functionImport]
  | .functionImport => [.typeReference, .functionImportParameters]
  | .functionImportParameters => [.functionParameter]
  | .functionParameter => [.typeReference]
  | _ => []

theorem Point.isTier_of_mem_onward {point next : Point} (h : next ∈ point.onward) :
    next.isTier = false := by
  revert h next
  cases point <;> decide

/-- No later point onward ranks below an earlier one. -/
theorem Point.pairwise_onward (point : Point) :
    point.onward.Pairwise fun first second => first.rank ≤ second.rank := by
  cases point <;> decide

/-- The step enters no node, and if it dispatches anything, then at the point. -/
def Step.LeadsTo (point : Point) : Step → Prop
  | .enter _ _ => False
  | .call target => target.point = point
  | .functions target => target.point = point
  | .broken _ => True

/-- After the entrance there is one group of steps for each point. -/
def Step.LaidOut (entrance : List Step) (points : List Point) (steps : List Step) : Prop :=
  ∃ groups : List (List Step), steps = entrance ++ groups.flatten ∧
    List.Forall₂ (fun point group => ∀ step ∈ group, step.LeadsTo point) points groups

namespace Step

theorem LeadsTo.target {point : Point} {step : Step} (h : step.LeadsTo point) {target : Call}
    (ht : step.target? = some target) : target.point = point := by
  cases step with
  | enter | broken => cases ht
  | call _ | functions _ =>
    cases ht
    exact h

theorem leadsTo_call {point : Point} {target : Call} (h : target.point = point) :
    LeadsTo point (call target) := h

theorem leadsTo_functions {point : Point} {target : Call} (h : target.point = point) :
    LeadsTo point (functions target) := h

theorem leadsTo_collection {α : Type} {items : List α} {point : Point} {f : α → Call}
    (h : ∀ item, (f item).point = point) :
    ∀ step ∈ items.map (fun item => call (f item)), step.LeadsTo point := by
  intro step hs
  obtain ⟨item, _, rfl⟩ := List.mem_map.mp hs
  exact h item

variable {entrance steps : List Step} {points : List Point} {point : Point}

theorem laidOut_self (entrance : List Step) : LaidOut entrance [] entrance :=
  ⟨[], (List.append_nil _).symm, .nil⟩

theorem LaidOut.append (h : LaidOut entrance points steps) {more : List Step}
    (hmore : ∀ step ∈ more, step.LeadsTo point) :
    LaidOut entrance (points ++ [point]) (steps ++ more) := by
  obtain ⟨groups, rfl, hgroups⟩ := h
  refine ⟨groups ++ [more], ?_, List.rel_append hgroups (.cons hmore .nil)⟩
  rw [List.flatten_append, List.flatten_singleton, List.append_assoc]

theorem laidOut_nil (h : ∀ step ∈ steps, step.LeadsTo point) : LaidOut [] [point] steps :=
  (laidOut_self []).append h

end Step

open Step Descent in
/-- A node passes through its tiers before anything else is dispatched or looked up below it. -/
theorem Call.laidOut_steps {c : Call} (h : c.point.isTier = false) :
    LaidOut c.entrance c.point.onward c.steps := by
  cases c with
  | dataModelItem | metadataItem | namedItem | namespaceItem | annotations | annotationEntry =>
    cases h
  | namespaces | entityContainers | complexTypes | complexTypeProperties | entityTypes
  | declaredProperties | declaredNavigationProperties | enumTypes | enumMembers
  | associationTypes | entitySets | associationSets | functionGroups | functionOverloads
  | functionOverloadParameters | functionImports | functionImportParameters =>
    exact laidOut_nil (leadsTo_collection fun _ => rfl)
  | declaredKeyProperties owner key =>
    refine laidOut_nil ?_
    intro step hs
    obtain ⟨name, _, rfl⟩ := List.mem_map.mp hs
    exact of_keyProperty (fun _ => leadsTo_call rfl) (fun _ => trivial) owner name
  | model item =>
    exact (laidOut_self _)
      |>.append (forall_mem_unlessEmpty (leadsTo_call rfl))
      |>.append (forall_mem_unlessEmpty (leadsTo_call rfl))
  | ns item =>
    exact (laidOut_self _)
      |>.append (forall_mem_unlessEmpty (leadsTo_call rfl))
      |>.append (forall_mem_unlessEmpty (leadsTo_call rfl))
      |>.append (forall_mem_unlessEmpty (leadsTo_call rfl))
      |>.append (forall_mem_unlessEmpty (leadsTo_call rfl))
      |>.append (forall_mem_unlessEmpty (leadsTo_functions rfl))
  | entityContainer item =>
    exact (laidOut_self _)
      |>.append (forall_mem_unlessEmpty (leadsTo_call rfl))
      |>.append (forall_mem_unlessEmpty (leadsTo_call rfl))
      |>.append (forall_mem_unlessEmpty (leadsTo_functions rfl))
  | complexType item | enumType item | functionGroup item =>
    exact (laidOut_self _).append (forall_mem_unlessEmpty (leadsTo_call rfl))
  | entityType item =>
    exact (laidOut_self _)
      |>.append (forall_mem_unlessEmpty (leadsTo_call rfl))
      |>.append (forall_mem_unlessEmpty (leadsTo_call rfl))
      |>.append (forall_mem_unlessEmpty (leadsTo_call rfl))
  | enumMember item | associationEnd item | entitySet item | associationSetEnd item
  | navigationProperty item | primitiveTypeFacets item => exact laidOut_self _
  | associationType owner item =>
    have hends : ∀ step ∈ [call (.associationEnd item.source), call (.associationEnd item.target)],
        step.LeadsTo .associationEnd := by
      rw [List.forall_mem_cons, List.forall_mem_singleton]
      exact ⟨leadsTo_call rfl, leadsTo_call rfl⟩
    refine ((laidOut_self _).append hends).append ?_
    cases item.referentialConstraint with
    | none => exact List.forall_mem_nil _
    | some rule =>
      rw [List.forall_mem_singleton]
      exact leadsTo_call rfl
  | associationConstraint owner association item =>
    have hend : ∀ step ∈ [call (.associationEnd (association.endOf item.dependentEnd))],
        step.LeadsTo .associationEnd := by
      rw [List.forall_mem_singleton]
      exact leadsTo_call rfl
    exact ((laidOut_self _).append hend).append (forall_mem_dependentProperties
      (fun _ => leadsTo_call rfl) (fun _ => trivial) owner association item)
  | associationSet owner item =>
    have hend : ∀ field target, (setEnd owner item field target).LeadsTo .associationSetEnd :=
      of_setEnd (fun _ => leadsTo_call rfl) (fun _ => trivial) owner item
    have hends : ∀ step ∈ [setEnd owner item .sourceSet item.source,
        setEnd owner item .targetSet item.target], step.LeadsTo .associationSetEnd := by
      rw [List.forall_mem_cons, List.forall_mem_singleton]
      exact ⟨hend _ _, hend _ _⟩
    exact (laidOut_self _).append hends
  | property item | functionParameter item =>
    have htype : ∀ step ∈ [call (.typeReference item.type)], step.LeadsTo .typeReference := by
      rw [List.forall_mem_singleton]
      exact leadsTo_call rfl
    exact (laidOut_self _).append htype
  | typeReference item =>
    refine (laidOut_self _).append ?_
    cases item.facets with
    | none => exact List.forall_mem_nil _
    | some facets =>
      rw [List.forall_mem_singleton]
      exact leadsTo_call rfl
  | functionOverload item =>
    exact (laidOut_self _)
      |>.append (forall_mem_returnType _ fun _ => leadsTo_call rfl)
      |>.append (forall_mem_unlessEmpty (leadsTo_call rfl))
  | functionImport item =>
    exact (laidOut_self _)
      |>.append (forall_mem_returnType _ fun _ => leadsTo_call rfl)
      |>.append (forall_mem_unlessEmpty (leadsTo_call rfl))

/-! ## Order -/

/-- The step leads onward from the point, if it dispatches anything. -/
def Step.Onward (point : Point) (step : Step) : Prop :=
  ∃ next ∈ point.onward, step.LeadsTo next

/-- What a later step dispatches does not rank below what an earlier one does. -/
def Step.Ascending (steps : List Step) : Prop :=
  steps.Pairwise fun first second => ∀ target target',
    first.target? = some target → second.target? = some target' → target.rank ≤ target'.rank

namespace Step

theorem Onward.mem {point : Point} {step : Step} (h : step.Onward point) {target : Call}
    (ht : step.target? = some target) : target.point ∈ point.onward := by
  obtain ⟨next, hnext, hleads⟩ := h
  rw [hleads.target ht]
  exact hnext

theorem Onward.isTier {point : Point} {step : Step} (h : step.Onward point) {target : Call}
    (ht : step.target? = some target) : target.point.isTier = false :=
  Point.isTier_of_mem_onward (h.mem ht)

variable {points : List Point} {groups : List (List Step)}

theorem exists_leadsTo_of_mem_flatten
    (h : List.Forall₂ (fun point group => ∀ step ∈ group, LeadsTo point step) points groups) :
    ∀ step ∈ groups.flatten, ∃ point ∈ points, step.LeadsTo point := by
  induction h with
  | nil => exact fun step hs => absurd hs List.not_mem_nil
  | cons hgroup _ ih =>
    rw [List.flatten_cons, List.forall_mem_append]
    constructor
    · exact fun step hs => ⟨_, List.mem_cons_self, hgroup step hs⟩
    · intro step hs
      obtain ⟨point, hp, hleads⟩ := ih step hs
      exact ⟨point, List.mem_cons_of_mem _ hp, hleads⟩

theorem ascending_flatten
    (h : List.Forall₂ (fun point group => ∀ step ∈ group, LeadsTo point step) points groups)
    (hpoints : points.Pairwise fun first second => first.rank ≤ second.rank) :
    Ascending groups.flatten := by
  induction h with
  | nil => exact .nil
  | cons hgroup hgroups ih =>
    obtain ⟨hfirst, hrest⟩ := List.pairwise_cons.mp hpoints
    rw [List.flatten_cons, Ascending, List.pairwise_append]
    refine ⟨?_, ih hrest, ?_⟩
    · refine List.pairwise_of_forall_mem_list fun step hs step' hs' target target' ht ht' => ?_
      have hrank : target.rank = target'.rank := by
        rw [Call.rank, Call.rank, (hgroup step hs).target ht, (hgroup step' hs').target ht']
      exact Nat.le_of_eq hrank
    · intro step hs step' hs' target target' ht ht'
      obtain ⟨later, hlater, hleads⟩ := exists_leadsTo_of_mem_flatten hgroups step' hs'
      rw [Call.rank, Call.rank, (hgroup step hs).target ht, hleads.target ht']
      exact hfirst later hlater

end Step

/-- Below a node or a collection the entrance comes first. Every later step leads onward, and the
ranks of what they dispatch do not fall. -/
theorem Call.exists_onward_steps {c : Call} (h : c.point.isTier = false) :
    ∃ rest, c.steps = c.entrance ++ rest ∧ (∀ step ∈ rest, step.Onward c.point) ∧
      Step.Ascending rest := by
  obtain ⟨groups, hsteps, hgroups⟩ := c.laidOut_steps h
  exact ⟨groups.flatten, hsteps, Step.exists_leadsTo_of_mem_flatten hgroups,
    Step.ascending_flatten hgroups c.point.pairwise_onward⟩

end EntityModel
