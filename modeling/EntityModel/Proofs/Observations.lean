import EntityModel.Proofs.BuildCorrect
import EntityModel.Proofs.Entrances
import EntityModel.Proofs.LogRun
import EntityModel.Proofs.Overrides
import EntityModel.Proofs.Simulation

/-!
# EntityModel.Proofs.Observations

One run, observed in three ways: the kinds that its visitor is given at the base tier, the lines of
the trace, the entries of a log.

* `Around`: overrides that do something around the default descent. They may leave it out, fail, or
  succeed where it failed. `Around.Attends`: they never leave it out and never fail on their own.
* `Around.observer`: the same visitor, with every dispatch logged and the trace kept.
* `Observed.Agrees`: the three observations are one sequence of nodes.
* `Around.agrees_visit`: they agree after every run of a visitor that attends, however it ends.
* `Around.observations_agree`: so they do for traversals, whose lines stand in the span.
-/

namespace EntityModel

variable {σ ε : Type}

/-! ## Visitors around the descent -/

structure Around (σ ε : Type) where
  before : Call → σ → Decision ε × σ
  /-- Is told how the descent ended. -/
  after : Call → Except ε Unit → σ → Except ε Unit × σ
  functions : σ → Bool × σ

namespace Around

def dispatch (x : Around σ ε) (c : Call) (walk : Effect σ ε) : Effect σ ε := fun s =>
  match x.before c s with
  | (.descend, s') => x.after c (walk s').1 (walk s').2
  | (.skip, s') => (.ok (), s')
  | (.raise error, s') => (.error error, s')

def visitor (x : Around σ ε) (ofBroken : BrokenReference → ε) : Visitor σ ε where
  dispatch := x.dispatch
  functions := x.functions
  ofBroken := ofBroken

/-- The visitor never leaves out the descent and never fails of its own accord. -/
structure Attends (x : Around σ ε) : Prop where
  before : ∀ c s, (x.before c s).1 = .descend
  after : ∀ c s, (x.after c (.ok ()) s).1 = .ok ()

/-- In states with the invariant the visitor answers the question for functions by `on`, fails where
a descent fails, and keeps the invariant. -/
structure KeepsTo (x : Around σ ε) (on : Bool) (inv : σ → Prop) : Prop where
  functions : ∀ s, inv s → (x.functions s).1 = on ∧ inv (x.functions s).2
  before : ∀ c s, inv s → inv (x.before c s).2
  after : ∀ c result s, inv s → inv (x.after c result s).2
  fails : ∀ c error s, (x.after c (.error error) s).1 = .error error

section Dispatch

variable {x : Around σ ε} {c : Call} {walk : Effect σ ε} {s : σ}

theorem dispatch_of_descend (hd : (x.before c s).1 = .descend) :
    x.dispatch c walk s =
      x.after c (walk (x.before c s).2).1 (walk (x.before c s).2).2 := by
  rw [dispatch, show x.before c s = (.descend, (x.before c s).2) from Prod.ext hd rfl]

theorem dispatch_of_skip (hd : (x.before c s).1 = .skip) :
    x.dispatch c walk s = (.ok (), (x.before c s).2) := by
  rw [dispatch, show x.before c s = (.skip, (x.before c s).2) from Prod.ext hd rfl]

theorem dispatch_of_raise {error : ε} (hd : (x.before c s).1 = .raise error) :
    x.dispatch c walk s = (.error error, (x.before c s).2) := by
  rw [dispatch, show x.before c s = (.raise error, (x.before c s).2) from Prod.ext hd rfl]

end Dispatch

end Around

/-! ## Observing a run -/

/-- The kind that a visitor is given at the base tier. -/
def Call.baseKind? : Call → Option NodeKind
  | .dataModelItem kind => some kind
  | _ => none

structure Observed (σ : Type) where
  state : σ
  log : DispatchLog
  kinds : List NodeKind := []
  trace : List TraceLine := []

namespace Observed

def start (s : σ) (config : TraversalConfig) : Observed σ :=
  { state := s, log := { config } }

def dispatched (w : Observed σ) (c : Call) : Observed σ :=
  { w with log := w.log.record c, kinds := w.kinds ++ c.baseKind?.toList }

def reported (w : Observed σ) (line : TraceLine) : Observed σ :=
  { w with trace := w.trace ++ [line] }

end Observed

namespace Around

def observed (x : Around σ ε) : Around (Observed σ) ε where
  before c w :=
    ((x.before c w.state).1, { w.dispatched c with state := (x.before c w.state).2 })
  after c result w :=
    ((x.after c result w.state).1, { w with state := (x.after c result w.state).2 })
  functions w := ((x.functions w.state).1, { w with state := (x.functions w.state).2 })

def observer (x : Around σ ε) (ofBroken : BrokenReference → ε) : Visitor (Observed σ) ε :=
  { x.observed.visitor ofBroken with observe := fun line w => w.reported line }

/-- Observing changes neither how a run ends nor the state of the visitor. -/
theorem observer_simulates (x : Around σ ε) (ofBroken : BrokenReference → ε) :
    (x.observer ofBroken).Simulates (x.visitor ofBroken) (fun w s => w.state = s) id where
  dispatch c walk walk' hwalk := by
    rintro w _ rfl
    change (x.observed.dispatch c walk w).1 = (x.dispatch c walk' w.state).1.mapError id ∧
      (x.observed.dispatch c walk w).2.state = (x.dispatch c walk' w.state).2
    rw [Effect.mapError_id]
    cases hd : (x.before c w.state).1 with
    | descend =>
      obtain ⟨hresult, hstate⟩ := hwalk (x.observed.before c w).2 (x.before c w.state).2 rfl
      rw [Effect.mapError_id] at hresult
      rw [dispatch_of_descend hd, dispatch_of_descend (x := x.observed) hd, ← hresult, ← hstate]
      exact ⟨rfl, rfl⟩
    | skip =>
      rw [dispatch_of_skip hd, dispatch_of_skip (x := x.observed) hd]
      exact ⟨rfl, rfl⟩
    | raise error =>
      rw [dispatch_of_raise hd, dispatch_of_raise (x := x.observed) hd]
      exact ⟨rfl, rfl⟩
  functions := by
    rintro w _ rfl
    exact ⟨rfl, rfl⟩
  ofBroken _ := rfl
  observe _ _ _ hw := hw

/-- What is logged is what the dispatch log records on its own. -/
theorem observer_simulates_log {x : Around σ ε} (hx : x.Attends) {on : Bool} {inv : σ → Prop}
    (h : x.KeepsTo on inv) (ofBroken : BrokenReference → ε) :
    (x.observer ofBroken).Simulates DispatchLog.visitor
      (fun w log => w.log = log ∧ log.config.functionsEnabled = on ∧ inv w.state) ofBroken where
  dispatch c walk walk' hwalk := by
    rintro w _ ⟨rfl, hon, hw⟩
    obtain ⟨hresult, hlog, hon', hinv⟩ :=
      hwalk (x.observed.before c w).2 (w.log.record c) ⟨rfl, hon, h.before c _ hw⟩
    change (x.observed.dispatch c walk w).1 = (walk' (w.log.record c)).1.mapError ofBroken ∧
      (x.observed.dispatch c walk w).2.log = (walk' (w.log.record c)).2 ∧
      (walk' (w.log.record c)).2.config.functionsEnabled = on ∧
      inv (x.observed.dispatch c walk w).2.state
    rw [dispatch_of_descend (x := x.observed) (hx.before c _)]
    refine ⟨?_, hlog, hon', h.after c _ _ hinv⟩
    rw [← hresult]
    change (x.after c _ _).1 = _
    cases (walk (x.observed.before c w).2).1 with
    | ok _ => exact hx.after c _
    | error error => exact h.fails c error _
  functions := by
    rintro w _ ⟨rfl, hon, hw⟩
    obtain ⟨hanswer, hinv⟩ := h.functions w.state hw
    exact ⟨hanswer.trans hon.symm, rfl, hon, hinv⟩
  ofBroken _ := rfl
  observe _ _ _ hw := hw

end Around

/-! ## Three sequences of nodes -/

/-- The kind of node that is visited at a point. A set that an association set ends at is an entity
set. -/
def Point.nodeKind? : Point → Option NodeKind
  | .model => some .model
  | .ns => some .ns
  | .complexType => some .complexType
  | .entityType => some .entityType
  | .enumType => some .enumType
  | .enumMember => some .enumTypeMember
  | .associationType => some .associationType
  | .associationEnd => some .associationEnd
  | .associationConstraint => some .associationConstraint
  | .entityContainer => some .entityContainer
  | .entitySet => some .entitySet
  | .associationSet => some .associationSet
  | .associationSetEnd => some .entitySet
  | .property => some .property
  | .navigationProperty => some .navigationProperty
  | .typeReference => some .typeReference
  | .primitiveTypeFacets => some .primitiveTypeFacets
  | .functionGroup => some .functionGroup
  | .functionOverload => some .functionOverload
  | .functionImport => some .functionImport
  | .functionParameter => some .functionParameter
  | _ => none

def NodeKind.isNamed : NodeKind → Bool
  | .associationConstraint | .typeReference | .primitiveTypeFacets | .functionOverload => false
  | _ => true

structure NodeVisit where
  kind : NodeKind
  name? : Option String

/-- The node that an entry of a log is for, under its name if nodes of its kind are named. -/
def Dispatch.visit? (entry : Dispatch) : Option NodeVisit :=
  entry.point.nodeKind?.map fun kind => ⟨kind, if kind.isNamed then entry.name? else none⟩

/-- The node that a line of the trace is for. -/
def TraceLine.visit? : TraceLine → Option NodeVisit
  | .visited kind name? => some ⟨kind, name?⟩
  | _ => none

def NodeVisit.line (node : NodeVisit) : TraceLine :=
  .visited node.kind node.name?

namespace Observed

/-- The nodes that the trace reports. -/
def visits (w : Observed σ) : List NodeVisit :=
  w.trace.filterMap TraceLine.visit?

/-- The nodes that the log has entries for. -/
def logged (w : Observed σ) : List NodeVisit :=
  w.log.entries.toList.filterMap Dispatch.visit?

structure Agrees (w : Observed σ) : Prop where
  kinds_eq_visits : w.kinds = w.visits.map NodeVisit.kind
  kinds_eq_entries : w.kinds = w.log.entries.toList.filterMap fun entry => entry.point.nodeKind?
  visits_eq : w.visits = w.logged
  named : ∀ node ∈ w.visits, node.name?.isSome = node.kind.isNamed

theorem map_kind_logged (w : Observed σ) :
    w.logged.map NodeVisit.kind =
      w.log.entries.toList.filterMap fun entry => entry.point.nodeKind? := by
  rw [logged, List.map_filterMap]
  congr 1
  funext entry
  cases h : entry.point.nodeKind? with
  | none => simp [Dispatch.visit?, h]
  | some kind => simp [Dispatch.visit?, h]

theorem Agrees.of_visits_eq {w : Observed σ} (hkinds : w.kinds = w.visits.map NodeVisit.kind)
    (hvisits : w.visits = w.logged)
    (hnamed : ∀ node ∈ w.visits, node.name?.isSome = node.kind.isNamed) :
    w.Agrees :=
  ⟨hkinds, by rw [hkinds, hvisits, map_kind_logged], hvisits, hnamed⟩

theorem Agrees.withState {w : Observed σ} (h : w.Agrees) (s : σ) :
    ({ w with state := s } : Observed σ).Agrees :=
  ⟨h.kinds_eq_visits, h.kinds_eq_entries, h.visits_eq, h.named⟩

/-- What is observed agrees if what has been added to each of the three observations does. -/
theorem Agrees.extend {w w' : Observed σ} (h : w.Agrees) (nodes : List NodeVisit)
    (hkinds : w'.kinds = w.kinds ++ nodes.map NodeVisit.kind)
    (hvisits : w'.visits = w.visits ++ nodes) (hlogged : w'.logged = w.logged ++ nodes)
    (hnamed : ∀ node ∈ nodes, node.name?.isSome = node.kind.isNamed) : w'.Agrees := by
  refine .of_visits_eq ?_ ?_ ?_
  · rw [hkinds, hvisits, h.kinds_eq_visits, List.map_append]
  · rw [hvisits, hlogged, h.visits_eq]
  · rw [hvisits, List.forall_mem_append]
    exact ⟨h.named, hnamed⟩

theorem agrees_start (s : σ) (config : TraversalConfig) : (start s config).Agrees :=
  .of_visits_eq rfl rfl fun _ h => absurd h List.not_mem_nil

theorem logged_dispatched (w : Observed σ) (c : Call) :
    (w.dispatched c).logged = w.logged ++ c.entry.visit?.toList := by
  have hentries : (w.dispatched c).log.entries.toList = w.log.entries.toList ++ [c.entry] :=
    Array.toList_push
  rw [logged, hentries, List.filterMap_append, ← logged]
  cases h : c.entry.visit? with
  | none => rw [List.filterMap_cons_none h]; rfl
  | some node => rw [List.filterMap_cons_some h]; rfl

theorem visits_reported (w : Observed σ) (line : TraceLine) :
    (w.reported line).visits = w.visits ++ line.visit?.toList := by
  rw [visits, reported, List.filterMap_append, ← visits]
  cases h : line.visit? with
  | none => rw [List.filterMap_cons_none h]; rfl
  | some node => rw [List.filterMap_cons_some h]; rfl

/-- The lines of the span are for no node. -/
theorem Agrees.reported {w : Observed σ} (h : w.Agrees) {line : TraceLine}
    (hline : line.visit? = none) : (w.reported line).Agrees := by
  refine h.extend [] (List.append_nil _).symm ?_ (List.append_nil _).symm ?_
  · rw [visits_reported, hline]
    rfl
  · exact fun _ hn => absurd hn List.not_mem_nil

end Observed

/-! ## Tiers -/

/-- From any state the operation succeeds. It reports no node and logs none, and at the base tier
the kinds are given. -/
def Effect.GivesKinds (kinds : List NodeKind) (effect : Effect (Observed σ) ε) : Prop :=
  ∀ w, ∃ w', effect w = (.ok (), w') ∧ w'.kinds = w.kinds ++ kinds ∧ w'.visits = w.visits ∧
    w'.logged = w.logged

namespace Effect.GivesKinds

theorem succeed : GivesKinds [] (Effect.succeed : Effect (Observed σ) ε) :=
  fun w => ⟨w, rfl, (List.append_nil _).symm, rfl, rfl⟩

theorem andThen {first second : List NodeKind} {effect effect' : Effect (Observed σ) ε}
    (h : GivesKinds first effect) (h' : GivesKinds second effect') :
    GivesKinds (first ++ second) (effect.andThen effect') := by
  intro w
  obtain ⟨w₁, hok, hkinds, hvisits, hlogged⟩ := h w
  obtain ⟨w₂, hok', hkinds', hvisits', hlogged'⟩ := h' w₁
  refine ⟨w₂, (andThen_of_ok hok).trans hok', ?_, hvisits'.trans hvisits, hlogged'.trans hlogged⟩
  rw [hkinds', hkinds, List.append_assoc]

theorem visitEach {α : Type} {visit : α → Effect (Observed σ) ε} {kinds : α → List NodeKind}
    {items : List α} (h : ∀ item ∈ items, GivesKinds (kinds item) (visit item)) :
    GivesKinds (items.flatMap kinds) (EntityModel.visitEach visit items) := by
  induction items with
  | nil => exact succeed
  | cons item rest ih =>
    rw [List.flatMap_cons, visitEach_cons]
    exact (h item List.mem_cons_self).andThen (ih fun x hx => h x (List.mem_cons_of_mem _ hx))

end Effect.GivesKinds

/-- The kinds that are given at the base tier below a tier. -/
def Call.baseKinds : Call → List NodeKind
  | .dataModelItem kind => [kind]
  | .metadataItem item => [item.kind]
  | .namedItem item => [item.kind]
  | .namespaceItem item => [item.kind]
  | _ => []

def Step.baseKinds (step : Step) : List NodeKind :=
  (step.target?.map Call.baseKinds).getD []

theorem Call.baseKinds_eq {c : Call} (h : c.point.isTier = true) :
    c.baseKinds = c.baseKind?.toList ++ c.steps.flatMap Step.baseKinds := by
  cases c with
  | dataModelItem | namedItem | namespaceItem | annotationEntry => rfl
  | metadataItem item =>
    have hannotations : ∀ step ∈ Step.unlessEmpty item.annotations.entries
        (.call (.annotations item item.annotations)), step.baseKinds = [] :=
      Step.forall_mem_unlessEmpty rfl
    rw [steps, List.flatMap_cons, List.flatMap_eq_nil_iff.mpr hannotations]
    rfl
  | annotations item store =>
    have hentries : ∀ step ∈ store.entries.map fun entry => Step.call (annotationEntry item entry),
        step.baseKinds = [] := by
      intro step hs
      obtain ⟨entry, _, rfl⟩ := List.mem_map.mp hs
      rfl
    rw [steps, List.flatMap_eq_nil_iff.mpr hentries]
    rfl
  | _ => cases h

/-- Below a tier every step is a dispatch. -/
theorem Call.exists_eq_call_of_isTier {c : Call} (h : c.point.isTier = true) :
    ∀ step ∈ c.steps, ∃ target, step = .call target := by
  cases c with
  | dataModelItem | annotationEntry =>
    intro step hs
    cases hs
  | metadataItem item =>
    rw [steps, List.forall_mem_cons]
    exact ⟨⟨_, rfl⟩, Step.forall_mem_unlessEmpty ⟨_, rfl⟩⟩
  | namedItem | namespaceItem =>
    rw [steps, List.forall_mem_singleton]
    exact ⟨_, rfl⟩
  | annotations item store =>
    intro step hs
    obtain ⟨entry, _, rfl⟩ := List.mem_map.mp hs
    exact ⟨_, rfl⟩
  | _ => cases h

/-- An entry for a tier is for no node. -/
theorem Call.visit?_entry_of_isTier {c : Call} (h : c.point.isTier = true) :
    c.entry.visit? = none := by
  cases c with
  | dataModelItem | metadataItem | namedItem | namespaceItem | annotations | annotationEntry => rfl
  | _ => cases h

namespace Around

variable {x : Around σ ε}

theorem observer_visit_apply (x : Around σ ε) (ofBroken : BrokenReference → ε) (c : Call)
    (w : Observed σ) : visit (x.observer ofBroken) c w =
      x.observed.dispatch c (walk (x.observer ofBroken) c) w :=
  congrFun (visit_eq _ c) w

/-- A tier passes through the tiers below it and gives its kind at the base. -/
theorem givesKinds_visit (hx : x.Attends) (ofBroken : BrokenReference → ε) {c : Call}
    (hc : c.point.isTier = true) :
    Effect.GivesKinds c.baseKinds (visit (x.observer ofBroken) c) := by
  induction c using Call.stepInduction with
  | h c ih =>
    have hstep : ∀ step ∈ c.steps, Effect.GivesKinds step.baseKinds
        (step.perform (x.observer ofBroken) (visit (x.observer ofBroken))) := by
      intro step hs
      obtain ⟨target, rfl⟩ := Call.exists_eq_call_of_isTier hc step hs
      exact ih _ hs target rfl (Call.isTier_of_mem_steps hc hs rfl)
    have hwalk : Effect.GivesKinds (c.steps.flatMap Step.baseKinds)
        (walk (x.observer ofBroken) c) := .visitEach hstep
    intro w
    obtain ⟨w₁, hok, hkinds, hvisits, hlogged⟩ := hwalk (x.observed.before c w).2
    have hnone : (w.dispatched c).logged = w.logged := by
      rw [Observed.logged_dispatched, Call.visit?_entry_of_isTier hc]
      exact List.append_nil _
    rw [observer_visit_apply, dispatch_of_descend (x := x.observed) (hx.before c _), hok]
    refine ⟨_, Prod.ext (hx.after c _) rfl, ?_, hvisits, hlogged.trans hnone⟩
    rw [Call.baseKinds_eq hc, ← List.append_assoc]
    exact hkinds

end Around

/-! ## Nodes -/

/-- A step keeps what its line, its question for functions and its dispatch keep. -/
theorem Step.keeps_perform {v : Visitor σ ε} {inv : σ → Prop} {step : Step}
    (henter : ∀ kind name?, step = .enter kind name? →
      ∀ s, inv s → inv (v.observe (.visited kind name?) s))
    (hfunctions : ∀ s, inv s → inv (v.functions s).2)
    (htarget : ∀ target, step.target? = some target → Effect.Keeps inv (visit v target)) :
    Effect.Keeps inv (step.perform v (visit v)) := by
  cases step with
  | enter kind name? => exact henter kind name? rfl
  | call target => exact htarget target rfl
  | functions target =>
    intro s hs
    cases hanswer : (v.functions s).1 with
    | true =>
      rw [perform_functions_of_accepted hanswer]
      exact htarget target rfl _ (hfunctions s hs)
    | false =>
      rw [perform_functions_of_declined hanswer]
      exact hfunctions s hs
  | broken reference => exact fun _ hs => hs

/-- A node is reported once, under the name that a log keeps of it, and gives its kind at the base
tier. A collection does neither. -/
theorem Call.entrance_eq {c : Call} (h : c.point.isTier = false) :
    c.baseKind? = none ∧
      ((c.entrance = [] ∧ c.entry.visit? = none) ∨
        ∃ kind name? tier, c.entrance = [.enter kind name?, .call tier] ∧
          c.entry.visit? = some ⟨kind, name?⟩ ∧ name?.isSome = kind.isNamed ∧
          tier.point.isTier = true ∧ tier.baseKinds = [kind]) := by
  cases c with
  | dataModelItem | metadataItem | namedItem | namespaceItem | annotations | annotationEntry =>
    cases h
  | namespaces | entityContainers | complexTypes | complexTypeProperties | entityTypes
  | declaredKeyProperties | declaredProperties | declaredNavigationProperties | enumTypes
  | enumMembers | associationTypes | entitySets | associationSets | functionGroups
  | functionOverloads | functionOverloadParameters | functionImports
  | functionImportParameters => exact ⟨rfl, .inl ⟨rfl, rfl⟩⟩
  | _ => exact ⟨rfl, .inr ⟨_, _, _, rfl, rfl, rfl, rfl, rfl⟩⟩

namespace Around

variable {x : Around σ ε}

/-- Once a node has been entered, what is observed agrees again. -/
theorem agrees_entrance (hx : x.Attends) (ofBroken : BrokenReference → ε) {c : Call}
    (hc : c.point.isTier = false) {w : Observed σ} (hw : w.Agrees) :
    ∃ w', visitEach (Step.perform (x.observer ofBroken) (visit (x.observer ofBroken)))
        c.entrance (x.observed.before c w).2 = (.ok (), w') ∧ w'.Agrees := by
  obtain ⟨hbase, hnode⟩ := Call.entrance_eq hc
  have hkinds : (w.dispatched c).kinds = w.kinds := by
    rw [Observed.dispatched, hbase]
    exact List.append_nil _
  rcases hnode with ⟨hentrance, hnone⟩ |
    ⟨kind, name?, tier, hentrance, hsome, hnamed, htier, hbelow⟩
  · refine ⟨(x.observed.before c w).2, by rw [hentrance]; rfl, hw.extend [] ?_ ?_ ?_ ?_⟩
    · exact hkinds.trans (List.append_nil _).symm
    · exact (List.append_nil _).symm
    · exact (w.logged_dispatched c).trans (by rw [hnone]; rfl)
    · exact fun _ hn => absurd hn List.not_mem_nil
  · obtain ⟨w₁, hok, hkinds₁, hvisits₁, hlogged₁⟩ := givesKinds_visit hx ofBroken htier
      ((x.observed.before c w).2.reported (.visited kind name?))
    refine ⟨w₁, ?_, hw.extend [⟨kind, name?⟩] ?_ ?_ ?_ ?_⟩
    · rw [hentrance, visitEach_cons, visitEach_cons, visitEach_nil, Effect.andThen_succeed]
      exact hok
    · rw [hkinds₁, hbelow]
      exact congrArg (· ++ _) hkinds
    · rw [hvisits₁, Observed.visits_reported]
      rfl
    · rw [hlogged₁]
      exact (w.logged_dispatched c).trans (by rw [hsome]; rfl)
    · rw [List.forall_mem_singleton]
      exact hnamed

/-- Whatever a run does after it has entered a node, and however it ends, what is observed of it
agrees. -/
theorem agrees_visit (hx : x.Attends) (ofBroken : BrokenReference → ε) {c : Call}
    (hc : c.point.isTier = false) :
    Effect.Keeps Observed.Agrees (visit (x.observer ofBroken) c) := by
  induction c using Call.stepInduction with
  | h c ih =>
    obtain ⟨rest, hsteps, hrest, -⟩ := c.exists_onward_steps hc
    have hlater : Effect.Keeps Observed.Agrees
        (visitEach (Step.perform (x.observer ofBroken) (visit (x.observer ofBroken))) rest) := by
      refine visitEach_keeps fun step hs => Step.keeps_perform ?_ (fun _ hw => hw.withState _) ?_
      · rintro kind name? rfl
        obtain ⟨_, -, hleads⟩ := hrest _ hs
        cases hleads
      · intro target ht
        exact ih step (hsteps ▸ List.mem_append_right _ hs) target ht ((hrest step hs).isTier ht)
    intro w hw
    obtain ⟨w₁, hok, hw₁⟩ := agrees_entrance hx ofBroken hc hw
    rw [observer_visit_apply, dispatch_of_descend (x := x.observed) (hx.before c _), walk_eq,
      hsteps, visitEach_append, Effect.andThen_of_ok hok]
    exact (hlater w₁ hw₁).withState _

end Around

/-! ## Lines -/

namespace Observed

/-- After the first lines of the trace there are only visits. -/
def VisitsAfter (first : List TraceLine) (w : Observed σ) : Prop :=
  ∃ nodes : List NodeVisit, w.trace = first ++ nodes.map NodeVisit.line

theorem VisitsAfter.visits_eq {first : List TraceLine}
    (hfirst : first.filterMap TraceLine.visit? = []) {w : Observed σ} (h : w.VisitsAfter first) :
    w.trace = first ++ w.visits.map NodeVisit.line := by
  obtain ⟨nodes, htrace⟩ := h
  have hnodes : (nodes.map NodeVisit.line).filterMap TraceLine.visit? = nodes := by
    rw [List.filterMap_map]
    exact List.filterMap_some
  rw [visits, htrace, List.filterMap_append, hfirst, hnodes, List.nil_append]

end Observed

namespace Around

/-- Every run reports visits only, whatever its visitor does. -/
theorem visitsAfter_visit (x : Around σ ε) (ofBroken : BrokenReference → ε) (c : Call)
    (first : List TraceLine) :
    Effect.Keeps (Observed.VisitsAfter first) (visit (x.observer ofBroken) c) := by
  induction c using Call.stepInduction with
  | h c ih =>
    have hwalk : Effect.Keeps (Observed.VisitsAfter first) (walk (x.observer ofBroken) c) := by
      rw [walk_eq]
      refine visitEach_keeps fun step hs => Step.keeps_perform ?_ (fun _ hw => hw) (ih step hs)
      rintro kind name? - w ⟨nodes, htrace⟩
      refine ⟨nodes ++ [⟨kind, name?⟩], ?_⟩
      rw [List.map_append, ← List.append_assoc, ← htrace]
      rfl
    intro w hw
    rw [observer_visit_apply]
    cases hd : (x.observed.before c w).1 with
    | descend =>
      rw [dispatch_of_descend hd]
      exact hwalk _ hw
    | skip =>
      rw [dispatch_of_skip hd]
      exact hw
    | raise error =>
      rw [dispatch_of_raise hd]
      exact hw

/-! ## What is observed of a run -/

/-- Observed, a run ends as it does otherwise. If its visitor attends, the observations agree, and
if it also keeps to the configuration, the log is the one that the dispatch log makes alone. -/
structure Observes (x : Around σ ε) (ofBroken : BrokenReference → ε) (s : σ)
    (config : TraversalConfig) (run : ∀ {τ δ : Type}, Visitor τ δ → Effect τ δ) : Prop where
  result : (run (x.observer ofBroken) (.start s config)).1 = (run (x.visitor ofBroken) s).1
  state : (run (x.observer ofBroken) (.start s config)).2.state = (run (x.visitor ofBroken) s).2
  agrees : x.Attends → (run (x.observer ofBroken) (.start s config)).2.Agrees
  log : ∀ {inv : σ → Prop}, x.Attends → x.KeepsTo config.functionsEnabled inv → inv s →
    (run (x.observer ofBroken) (.start s config)).2.log = (run DispatchLog.visitor { config }).2 ∧
      (run (x.visitor ofBroken) s).1 =
        (run DispatchLog.visitor { config }).1.mapError ofBroken

end Around

/-- What a build reports is the sizes of the model that it hands out, and nothing if it fails. -/
theorem Model.buildTraced_eq_iff {name : String} {declarations : List Declaration}
    {result : Except Defect Model} {lines : List TraceLine} :
    buildTraced name declarations = (result, lines) ↔
      build name declarations = result ∧
        ((∃ m, result = .ok m ∧ lines = [.modelBuilt m.namespaces.length m.containers.length]) ∨
          ∃ defect, result = .error defect ∧ lines = []) := by
  rw [build_eq, buildTraced]
  cases (assemble name declarations).checked with
  | ok m =>
    constructor
    · rintro ⟨⟩
      exact ⟨rfl, .inl ⟨m, rfl, rfl⟩⟩
    · rintro ⟨rfl, ⟨_, ⟨⟩, rfl⟩ | ⟨_, ⟨⟩, -⟩⟩
      rfl
  | error defect =>
    constructor
    · rintro ⟨⟩
      exact ⟨rfl, .inr ⟨defect, rfl, rfl⟩⟩
    · rintro ⟨rfl, ⟨_, ⟨⟩, -⟩ | ⟨_, ⟨⟩, rfl⟩⟩
      rfl

namespace Around

variable (x : Around σ ε) (ofBroken : BrokenReference → ε) (s : σ) (config : TraversalConfig)

theorem observes_visit {c : Call} (hc : c.point.isTier = false) :
    x.Observes ofBroken s config (fun v => visit v c) := by
  obtain ⟨hresult, hstate⟩ := (x.observer_simulates ofBroken).visit c (.start s config) s rfl
  rw [Effect.mapError_id] at hresult
  refine ⟨hresult, hstate, ?_, ?_⟩
  · intro hx
    exact agrees_visit hx ofBroken hc _ (Observed.agrees_start s config)
  · intro inv hx hkeeps hs
    obtain ⟨hlogged, hlog, -⟩ := (observer_simulates_log hx hkeeps ofBroken).visit c
      (.start s config) { config } ⟨rfl, rfl, hs⟩
    exact ⟨hlog, hresult.symm.trans hlogged⟩

theorem observes_traverse (m : Model) :
    x.Observes ofBroken s config (fun v => traverse v m) := by
  obtain ⟨hresult, hstate⟩ := (x.observer_simulates ofBroken).traverse m (.start s config) s rfl
  rw [Effect.mapError_id] at hresult
  refine ⟨hresult, hstate, ?_, ?_⟩
  · intro hx
    have hentered : (((Observed.start s config).reported (.spanOpened m.name)).reported
        .entered).Agrees := ((Observed.agrees_start s config).reported rfl).reported rfl
    have hvisit := agrees_visit hx ofBroken (c := .model m) rfl _ hentered
    exact hvisit.reported rfl
  · intro inv hx hkeeps hs
    obtain ⟨hlogged, hlog, -⟩ := (observer_simulates_log hx hkeeps ofBroken).traverse m
      (.start s config) { config } ⟨rfl, rfl, hs⟩
    exact ⟨hlog, hresult.symm.trans hlogged⟩

theorem trace_traverse (m : Model) :
    (traverse (x.observer ofBroken) m (.start s config)).2.trace =
      .spanOpened m.name :: .entered ::
        ((traverse (x.observer ofBroken) m (.start s config)).2.visits.map NodeVisit.line ++
          [.exited]) := by
  have hentered : (((Observed.start s config).reported (.spanOpened m.name)).reported
      .entered).VisitsAfter [.spanOpened m.name, .entered] := ⟨[], rfl⟩
  have hafter := (x.visitsAfter_visit ofBroken (.model m) _ _ hentered).visits_eq rfl
  generalize hw : (visit (x.observer ofBroken) (.model m) _).2 = w at hafter
  have hend : (traverse (x.observer ofBroken) m (.start s config)).2 = w.reported .exited :=
    congrArg (Observed.reported · .exited) hw
  rw [hend, Observed.visits_reported, Observed.reported, hafter]
  simp [TraceLine.visit?]

/-- Three observations of a run agree, however it ends: the kinds given at the base tier, the visits
in the trace and the entries of the dispatch log are the same nodes in the same order. A traversal
reports its visits between the entry to its span and the exit from it, whatever its visitor does.
A build reports the sizes of the model that it hands out, and nothing if it fails. -/
theorem observations_agree :
    (∀ c : Call, c.point.isTier = false → x.Observes ofBroken s config (fun v => visit v c)) ∧
    (∀ m : Model, x.Observes ofBroken s config (fun v => traverse v m) ∧
      (traverse (x.observer ofBroken) m (.start s config)).2.trace =
        .spanOpened m.name :: .entered ::
          ((traverse (x.observer ofBroken) m (.start s config)).2.visits.map NodeVisit.line ++
            [.exited])) ∧
    ∀ (name : String) (declarations : List Declaration) (result : Except Defect Model)
      (lines : List TraceLine), Model.buildTraced name declarations = (result, lines) ↔
        Model.build name declarations = result ∧
          ((∃ m, result = .ok m ∧
              lines = [.modelBuilt m.namespaces.length m.containers.length]) ∨
            ∃ defect, result = .error defect ∧ lines = []) := by
  refine ⟨?_, ?_, ?_⟩
  · intro c hc
    exact x.observes_visit ofBroken s config hc
  · intro m
    exact ⟨x.observes_traverse ofBroken s config m, x.trace_traverse ofBroken s config m⟩
  · intro name declarations result lines
    exact Model.buildTraced_eq_iff

/-- Counts the dispatches and takes functions. -/
def dispatchCounter : Around Nat Error where
  before _ n := (.descend, n + 1)
  after _ result n := (result, n)
  functions n := (true, n)

/-- In a shop without clients what is observed agrees, though the run ends with an error. Its build
reports nothing, and that of a shop with customers one namespace and one container. -/
theorem observations_agree_shop :
    let m := Model.assemble "Shop" (Model.shop "Clients")
    let clients : BrokenReference := ⟨.associationSet, "OrdersPlaced", .sourceSet, "Clients"⟩
    let run := traverse (dispatchCounter.observer Error.visit) m (.start 0 ⟨true⟩)
    Model.buildTraced "Shop" (Model.shop "Clients") = (.error (.danglingReference clients), []) ∧
      Model.buildTraced "Shop" (Model.shop "Customers") =
        (.ok (Model.assemble "Shop" (Model.shop "Customers")), [.modelBuilt 1 1]) ∧
      dispatchCounter.Attends ∧ dispatchCounter.KeepsTo true (fun _ => True) ∧
      run.1 = .error (.visit clients) ∧
      run.2.Agrees ∧ run.2.log = (traverse DispatchLog.visitor m { config := ⟨true⟩ }).2 ∧
      run.2.trace = .spanOpened "Shop" :: .entered ::
        (run.2.visits.map NodeVisit.line ++ [.exited]) := by
  intro m clients run
  have hattends : dispatchCounter.Attends := ⟨fun _ _ => rfl, fun _ _ => rfl⟩
  have hkeeps : dispatchCounter.KeepsTo true (fun _ => True) :=
    ⟨fun _ _ => ⟨rfl, trivial⟩, fun _ _ _ => trivial, fun _ _ _ _ => trivial, fun _ _ _ => rfl⟩
  obtain ⟨-, htraverse, hbuilds⟩ := observations_agree dispatchCounter Error.visit 0 ⟨true⟩
  obtain ⟨hobserves, htrace⟩ := htraverse m
  obtain ⟨hlog, hresult⟩ := hobserves.log hattends hkeeps trivial
  refine ⟨(hbuilds _ _ _ _).mpr ⟨rfl, .inr ⟨_, rfl, rfl⟩⟩,
    (hbuilds _ _ _ _).mpr ⟨rfl, .inl ⟨_, rfl, rfl⟩⟩, hattends, hkeeps, ?_,
    hobserves.agrees hattends, hlog, htrace⟩
  rw [hobserves.result, hresult, DispatchLog.traverse_result]
  rfl

end Around

end EntityModel
