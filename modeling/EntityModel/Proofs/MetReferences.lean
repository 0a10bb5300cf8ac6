import EntityModel.Proofs.BuildCorrect
import EntityModel.Proofs.Events

/-!
# EntityModel.Proofs.MetReferences

The broken references that a run meets.

* `Call.brokenReferences`: those below a call, along a route, read off the events.
* `Call.brokenReferences_eq_nil_of_plain`: most points lead to no look-up at all.
* `Call.brokenReferences_model`: a run through a whole model meets exactly the broken references of
  the model, in the same order, whether it takes functions or not.
* `Visitor.Follows.traverse_result`: a run that does nothing else that can fail ends with the first
  one.
-/

namespace EntityModel

def Event.broken? : Event → Option BrokenReference
  | .broken reference => some reference
  | _ => none

def Call.brokenReferences (route : Route) (c : Call) : List BrokenReference :=
  (c.events route).filterMap Event.broken?

def Step.brokenReferences (route : Route) (step : Step) : List BrokenReference :=
  (step.events route).filterMap Event.broken?

section Steps

variable {route : Route}

theorem Call.brokenReferences_eq_inner (c : Call) :
    c.brokenReferences route = (c.inner route).filterMap Event.broken? := by
  rw [brokenReferences, events_eq, List.filterMap_cons_none rfl, List.filterMap_append,
    List.filterMap_cons_none rfl, List.filterMap_nil, List.append_nil]

theorem Call.brokenReferences_eq (c : Call) :
    c.brokenReferences route =
      if route.skips c.point then [] else c.steps.flatMap (Step.brokenReferences route) := by
  rw [brokenReferences_eq_inner, inner]
  split
  · rfl
  · exact List.filterMap_flatMap

@[simp] theorem Step.brokenReferences_call (target : Call) :
    (Step.call target).brokenReferences route = target.brokenReferences route := rfl

theorem Step.brokenReferences_functions (target : Call) :
    (Step.functions target).brokenReferences route =
      if route.functions then target.brokenReferences route else [] := by
  rw [brokenReferences, events]
  split <;> rfl

/-- A wider route meets at least as many. -/
theorem Call.brokenReferences_eq_nil_of_within {wide : Route} (h : route.Within wide) {c : Call}
    (hw : c.brokenReferences wide = []) : c.brokenReferences route = [] := by
  have hsub : (c.brokenReferences route).Sublist (c.brokenReferences wide) :=
    (c.events_sublist h).filterMap Event.broken?
  rw [hw] at hsub
  exact List.sublist_nil.mp hsub

end Steps

/-! ## Points without look-ups below them -/

/-- Somewhere below the point a reference is looked up. -/
def Point.looksUp : Point → Bool
  | .model | .namespaces | .entityContainers | .ns
  | .entityTypes | .entityType | .declaredKeyProperties
  | .associationTypes | .associationType | .associationConstraint
  | .entityContainer | .associationSets | .associationSet => true
  | _ => false

/-- The step leads to no look-up. -/
def Step.IsPlain (step : Step) : Prop :=
  match step with
  | .enter _ _ => True
  | .call target | .functions target => target.point.looksUp = false
  | .broken _ => False

theorem Step.isPlain_collection {α : Type} {items : List α} {f : α → Call}
    (h : ∀ item, (f item).point.looksUp = false) :
    ∀ step ∈ items.map (fun item => Step.call (f item)), step.IsPlain := by
  intro step hs
  obtain ⟨item, _, rfl⟩ := List.mem_map.mp hs
  exact h item

theorem Step.isPlain_unnamed (item : MetadataItem) : ∀ s ∈ unnamed item, s.IsPlain := by
  simp [unnamed, IsPlain, Call.point, Point.looksUp]

theorem Step.isPlain_named (item : NamedItem) : ∀ s ∈ named item, s.IsPlain := by
  simp [named, IsPlain, Call.point, Point.looksUp]

theorem Step.isPlain_namespaced (item : NamedItem) : ∀ s ∈ namespaced item, s.IsPlain := by
  simp [namespaced, IsPlain, Call.point, Point.looksUp]

open Step in
theorem Call.isPlain_of_mem_steps {c : Call} (h : c.point.looksUp = false) :
    ∀ step ∈ c.steps, step.IsPlain := by
  cases c with
  | model | namespaces | entityContainers | ns | entityTypes | entityType | declaredKeyProperties
  | associationTypes | associationType | associationConstraint | entityContainer
  | associationSets | associationSet => cases h
  | dataModelItem | annotationEntry =>
    intro _ hs
    cases hs
  | metadataItem item =>
    rw [steps, List.forall_mem_cons]
    exact ⟨rfl, forall_mem_unlessEmpty rfl⟩
  | namedItem | namespaceItem => simp [steps, IsPlain, Call.point, Point.looksUp]
  | annotations | complexTypes | complexTypeProperties | declaredProperties
  | declaredNavigationProperties | enumTypes | enumMembers | entitySets | functionGroups
  | functionOverloads | functionOverloadParameters | functionImports | functionImportParameters =>
    exact isPlain_collection fun _ => rfl
  | complexType item | enumType item | functionGroup item =>
    rw [steps, List.forall_mem_append]
    exact ⟨isPlain_namespaced _, forall_mem_unlessEmpty rfl⟩
  | enumMember item | associationEnd item | entitySet item | associationSetEnd item
  | navigationProperty item => exact isPlain_named _
  | property item | functionParameter item =>
    rw [steps, List.forall_mem_append]
    exact ⟨isPlain_named _, by simp [IsPlain, Call.point, Point.looksUp]⟩
  | typeReference item =>
    rw [steps, List.forall_mem_append]
    refine ⟨isPlain_unnamed _, ?_⟩
    cases item.facets with
    | none => simp
    | some facets => simp [IsPlain, Call.point, Point.looksUp]
  | primitiveTypeFacets item => simp [steps, IsPlain, Call.point, Point.looksUp]
  | functionOverload item =>
    simp only [steps, List.forall_mem_append]
    exact ⟨⟨isPlain_unnamed _, forall_mem_returnType _ fun _ => rfl⟩, forall_mem_unlessEmpty rfl⟩
  | functionImport item =>
    simp only [steps, List.forall_mem_append]
    exact ⟨⟨isPlain_named _, forall_mem_returnType _ fun _ => rfl⟩, forall_mem_unlessEmpty rfl⟩

section Runs

variable {route : Route}

theorem Step.brokenReferences_of_plain {step : Step} (h : step.IsPlain)
    (ih : ∀ target, step.target? = some target → target.point.looksUp = false →
      target.brokenReferences route = []) : step.brokenReferences route = [] := by
  cases step with
  | enter kind name? => rfl
  | broken reference => cases h
  | call target => exact ih target rfl h
  | functions target => rw [brokenReferences_functions, ih target rfl h, ite_self]

theorem Call.brokenReferences_eq_nil_of_plain {c : Call} (h : c.point.looksUp = false) :
    c.brokenReferences route = [] := by
  induction c using Call.stepInduction with
  | h c ih =>
    rw [brokenReferences_eq]
    split
    · rfl
    · rw [List.flatMap_eq_nil_iff]
      intro step hstep
      exact Step.brokenReferences_of_plain (isPlain_of_mem_steps h step hstep) (ih step hstep)

theorem Step.flatMap_brokenReferences_of_plain {steps : List Step} (h : ∀ s ∈ steps, s.IsPlain) :
    steps.flatMap (brokenReferences route) = [] := by
  rw [List.flatMap_eq_nil_iff]
  intro step hstep
  exact brokenReferences_of_plain (h step hstep) fun _ _ => Call.brokenReferences_eq_nil_of_plain

theorem Step.flatMap_brokenReferences_collection {α : Type} (items : List α) (f : α → Call) :
    (items.map fun item => Step.call (f item)).flatMap (brokenReferences route) =
      items.flatMap fun item => (f item).brokenReferences route :=
  List.flatMap_map _ _ _

/-- An empty collection is not dispatched, but nothing would be met in it either. -/
theorem Step.flatMap_brokenReferences_unlessEmpty {α : Type} {items : List α} {target : Call}
    {f : α → List BrokenReference} (h : target.brokenReferences route = items.flatMap f) :
    (unlessEmpty items (.call target)).flatMap (brokenReferences route) = items.flatMap f := by
  cases items with
  | nil => rfl
  | cons first rest => simp [unlessEmpty, h]

theorem Step.flatMap_brokenReferences_plainItems {α : Type} {items : List α} {step : Step}
    (h : step.IsPlain) : (unlessEmpty items step).flatMap (brokenReferences route) = [] :=
  flatMap_brokenReferences_of_plain (forall_mem_unlessEmpty h)

/-! ## Look-ups -/

theorem Step.brokenReferences_keyProperty (owner : EntityType) (name : String) :
    (Descent.keyProperty owner name).brokenReferences route =
      unlessFound (owner.findProperty? name).isSome
        ⟨.entityType, owner.name, .keyProperty, name⟩ := by
  unfold Descent.keyProperty
  cases owner.findProperty? name with
  | none => rfl
  | some property => exact Call.brokenReferences_eq_nil_of_plain rfl

theorem Step.brokenReferences_dependentProperty (association : AssociationType)
    (entity : EntityType) (name : String) :
    (Descent.dependentProperty association entity name).brokenReferences route =
      unlessFound (entity.findProperty? name).isSome
        ⟨.associationConstraint, association.name, .dependentProperty, name⟩ := by
  unfold Descent.dependentProperty
  cases entity.findProperty? name with
  | none => rfl
  | some property => exact Call.brokenReferences_eq_nil_of_plain rfl

theorem Step.brokenReferences_setEnd (owner : EntityContainer) (item : AssociationSet)
    (field : ReferenceField) (target : String) :
    (Descent.setEnd owner item field target).brokenReferences route =
      item.brokenEnd owner field target := by
  unfold Descent.setEnd AssociationSet.brokenEnd
  cases owner.findEntitySet? target with
  | none => rfl
  | some set => exact Call.brokenReferences_eq_nil_of_plain rfl

theorem Step.flatMap_brokenReferences_dependentProperties (owner : Namespace)
    (association : AssociationType) (rule : AssociationConstraint) :
    (Descent.dependentProperties owner association rule).flatMap (brokenReferences route) =
      association.brokenDependents owner rule := by
  unfold Descent.dependentProperties AssociationType.brokenDependents
  split
  · rfl
  · dsimp only
    cases owner.findEntityType? (association.endOf rule.dependentEnd).entityType with
    | none => rfl
    | some entity =>
      dsimp only
      rw [List.flatMap_map, AssociationType.brokenProperties]
      simp only [brokenReferences_dependentProperty]

end Runs

/-! ## Runs through a model -/

section Whole

variable {route : Route} (hr : ∀ point, route.skips point = false)
include hr

namespace Call

theorem brokenReferences_of_whole (c : Call) :
    c.brokenReferences route = c.steps.flatMap (Step.brokenReferences route) := by
  rw [brokenReferences_eq, hr, if_neg Bool.false_ne_true]

theorem brokenReferences_keys (item : EntityType) :
    (declaredKeyProperties item item.key).brokenReferences route = item.brokenKeys := by
  rw [brokenReferences_of_whole hr, steps, List.flatMap_map, EntityType.brokenKeys]
  simp only [Step.brokenReferences_keyProperty]

theorem brokenReferences_entityType (item : EntityType) :
    (entityType item).brokenReferences route = item.brokenKeys := by
  rw [brokenReferences_of_whole hr, steps]
  simp only [List.flatMap_append]
  -- Which step is plain is known only once the rewriting has found it.
  rw [Step.flatMap_brokenReferences_of_plain (Step.isPlain_namespaced _),
    Step.flatMap_brokenReferences_unlessEmpty (brokenReferences_keys hr item),
    Step.flatMap_brokenReferences_plainItems (by rfl),
    Step.flatMap_brokenReferences_plainItems (by rfl), List.nil_append, List.append_nil,
    List.append_nil]
  rfl

theorem brokenReferences_associationConstraint (owner : Namespace) (item : AssociationType)
    (rule : AssociationConstraint) :
    (associationConstraint owner item rule).brokenReferences route =
      item.brokenDependents owner rule := by
  have hend : ∀ s ∈ [Step.call (associationEnd (item.endOf rule.dependentEnd))], s.IsPlain := by
    simp [Step.IsPlain, point, Point.looksUp]
  rw [brokenReferences_of_whole hr, steps, List.flatMap_append, List.flatMap_append,
    Step.flatMap_brokenReferences_of_plain (Step.isPlain_unnamed _),
    Step.flatMap_brokenReferences_of_plain hend,
    Step.flatMap_brokenReferences_dependentProperties]
  rfl

theorem brokenReferences_associationType (owner : Namespace) (item : AssociationType) :
    (associationType owner item).brokenReferences route = item.brokenReferences owner := by
  have hends : ∀ s ∈ [Step.call (associationEnd item.source),
      Step.call (associationEnd item.target)], s.IsPlain := by
    simp [Step.IsPlain, point, Point.looksUp]
  rw [brokenReferences_of_whole hr, steps, List.flatMap_append, List.flatMap_append,
    Step.flatMap_brokenReferences_of_plain (Step.isPlain_namespaced _),
    Step.flatMap_brokenReferences_of_plain hends, AssociationType.brokenReferences]
  cases item.referentialConstraint with
  | none => rfl
  | some rule => simp [brokenReferences_associationConstraint hr]

theorem brokenReferences_ns (item : Namespace) :
    (ns item).brokenReferences route = item.brokenReferences := by
  have hentity : (entityTypes item item.entityTypes).brokenReferences route =
      item.entityTypes.flatMap EntityType.brokenKeys := by
    rw [brokenReferences_of_whole hr, steps, Step.flatMap_brokenReferences_collection]
    simp only [brokenReferences_entityType hr]
  have hassociation : (associationTypes item item.associationTypes).brokenReferences route =
      item.associationTypes.flatMap (AssociationType.brokenReferences item) := by
    rw [brokenReferences_of_whole hr, steps, Step.flatMap_brokenReferences_collection]
    simp only [brokenReferences_associationType hr]
  rw [brokenReferences_of_whole hr, steps]
  simp only [List.flatMap_append]
  rw [Step.flatMap_brokenReferences_of_plain (Step.isPlain_named _),
    Step.flatMap_brokenReferences_plainItems (by rfl),
    Step.flatMap_brokenReferences_unlessEmpty hentity,
    Step.flatMap_brokenReferences_plainItems (by rfl),
    Step.flatMap_brokenReferences_unlessEmpty hassociation,
    Step.flatMap_brokenReferences_plainItems (by rfl), Namespace.brokenReferences]
  simp only [List.nil_append, List.append_nil]

theorem brokenReferences_associationSet (owner : EntityContainer) (item : AssociationSet) :
    (associationSet owner item).brokenReferences route = item.brokenEnds owner := by
  rw [brokenReferences_of_whole hr, steps, List.flatMap_append,
    Step.flatMap_brokenReferences_of_plain (Step.isPlain_named _)]
  simp [Step.brokenReferences_setEnd, AssociationSet.brokenEnds]

theorem brokenReferences_entityContainer (item : EntityContainer) :
    (entityContainer item).brokenReferences route = item.brokenReferences := by
  have hsets : (associationSets item item.associationSets).brokenReferences route =
      item.associationSets.flatMap (AssociationSet.brokenEnds item) := by
    rw [brokenReferences_of_whole hr, steps, Step.flatMap_brokenReferences_collection]
    simp only [brokenReferences_associationSet hr]
  rw [brokenReferences_of_whole hr, steps]
  simp only [List.flatMap_append]
  rw [Step.flatMap_brokenReferences_of_plain (Step.isPlain_named _),
    Step.flatMap_brokenReferences_plainItems (by rfl),
    Step.flatMap_brokenReferences_unlessEmpty hsets,
    Step.flatMap_brokenReferences_plainItems (by rfl), EntityContainer.brokenReferences]
  simp only [List.nil_append, List.append_nil]

/-- A run through a whole model meets its broken references in their order. -/
theorem brokenReferences_model (m : Model) :
    (model m).brokenReferences route = m.brokenReferences := by
  have hns : (namespaces m m.namespaces).brokenReferences route =
      m.namespaces.flatMap Namespace.brokenReferences := by
    rw [brokenReferences_of_whole hr, steps, Step.flatMap_brokenReferences_collection]
    simp only [brokenReferences_ns hr]
  have hco : (entityContainers m m.containers).brokenReferences route =
      m.containers.flatMap EntityContainer.brokenReferences := by
    rw [brokenReferences_of_whole hr, steps, Step.flatMap_brokenReferences_collection]
    simp only [brokenReferences_entityContainer hr]
  rw [brokenReferences_of_whole hr, steps, List.flatMap_append, List.flatMap_append,
    Step.flatMap_brokenReferences_of_plain (Step.isPlain_named _),
    Step.flatMap_brokenReferences_unlessEmpty hns, Step.flatMap_brokenReferences_unlessEmpty hco]
  rfl

end Call

end Whole

/-! ## Calls without broken references -/

/-- No reference below the call is broken. -/
def Call.Sound (c : Call) : Prop :=
  c.brokenReferences { functions := true } = []

theorem Call.sound_model_iff {m : Model} : (model m).Sound ↔ m.Traversable := by
  unfold Sound
  rw [brokenReferences_model fun _ => rfl]
  exact m.brokenReferences_eq_nil_iff

theorem Model.sound_of_build {name : String} {declarations : List Declaration} {m : Model}
    (h : build name declarations = .ok m) : (Call.model m).Sound :=
  Call.sound_model_iff.mpr (wellFormed_of_build h).traversable

namespace Call.Sound

variable {c : Call}

theorem brokenReferences_eq_nil (h : c.Sound) (route : Route) : c.brokenReferences route = [] := by
  refine brokenReferences_eq_nil_of_within ?_ h
  exact ⟨fun _ hf => absurd hf Bool.false_ne_true, fun _ => rfl⟩

theorem step_eq_nil (h : c.Sound) {step : Step} (hs : step ∈ c.steps) :
    step.brokenReferences { functions := true } = [] := by
  unfold Sound at h
  rw [brokenReferences_of_whole fun _ => rfl] at h
  exact List.flatMap_eq_nil_iff.mp h step hs

theorem not_broken (h : c.Sound) (reference : BrokenReference) :
    Step.broken reference ∉ c.steps := by
  intro hs
  cases h.step_eq_nil hs

theorem target (h : c.Sound) {step : Step} (hs : step ∈ c.steps) {target : Call}
    (ht : step.target? = some target) : target.Sound := by
  have hnil := h.step_eq_nil hs
  cases step with
  | enter | broken => cases ht
  | call _ | functions _ =>
    cases ht
    exact hnil

end Call.Sound

/-! ## How a run ends -/

namespace Visitor.Follows

variable {σ ε : Type} {v : Visitor σ ε} {route : Route} {before after : Call → Effect σ ε}

theorem visit_result (h : v.Follows route before after) (hb : ∀ c, (before c).Infallible)
    (ha : ∀ c, (after c).Infallible) (c : Call) {s : σ} (hs : v.Answers route.functions s) :
    (visit v c s).1 = Effect.verdict ((c.brokenReferences route).map v.ofBroken).head? := by
  have hevent : ∀ (event : Event) (s : σ), (event.perform v before after s).1 =
      Effect.verdict (event.broken?.map v.ofBroken) := by
    intro event s
    cases event with
    | opened c => exact hb c s
    | entered kind name? => rfl
    | broken reference => rfl
    | closed c => exact ha c s
  rw [h.visit_eq_visitEach_events c hs, visitEach_result hevent, Call.brokenReferences,
    List.map_filterMap]

theorem traverse_result (h : v.Follows route before after) (hb : ∀ c, (before c).Infallible)
    (ha : ∀ c, (after c).Infallible) (m : Model) {s : σ} (hs : v.Answers route.functions s) :
    (traverse v m s).1 =
      Effect.verdict (((Call.model m).brokenReferences route).map v.ofBroken).head? := by
  have hentered := h.observe_keeps .entered _ (h.observe_keeps (.spanOpened m.name) s hs)
  exact h.visit_result hb ha (.model m) hentered

end Visitor.Follows

end EntityModel
