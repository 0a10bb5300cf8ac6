import EntityModel.Proofs.Transcripts
import EntityModel.Proofs.TrimmedDefects

/-!
# EntityModel.Proofs.FunctionSurface

Functions come on top of all else.

* `Call.events_below`: below a namespace or a container the choice for or against functions makes no
  difference.
* `Call.inner_eq`: in a namespace or a container functions come last.
* `Call.addsFunctions`: a run that takes functions there ends like one that does not, and appends
  the function nodes to the dispatches of the other.
* `Declaration.withoutFunctions`: a declaration without its function nodes.
* `Model.build_adds_functions`: without its function nodes a model is built too, and traversed as if
  no functions were taken. A visitor is asked for functions once in each namespace and each
  container that has any.
-/

namespace EntityModel

/-! ## Below namespaces and containers -/

theorem Call.events_below {c : Call} (h : c.rank < Point.ns.rank) (on : Bool) :
    c.events { functions := on } = c.events {} := by
  induction c using Call.stepInduction with
  | h c ih =>
    -- Ranks fall along the descent, so that no namespace and no container is met on the way.
    have hunasked : ∀ step ∈ c.steps, step.Unasked := by
      refine unasked_of_mem_steps ?_ ?_
      · rintro item rfl
        exact absurd h (Nat.lt_irrefl _)
      · rintro item rfl
        exact absurd h (Nat.lt_irrefl _)
    have hsteps : ∀ step ∈ c.steps, step.events { functions := on } = step.events {} := by
      intro step hs
      cases step with
      | enter kind name? => rfl
      | broken reference => rfl
      | functions target => exact absurd rfl (hunasked _ hs target)
      | call target => exact ih _ hs target rfl (Nat.lt_trans (rank_lt_of_mem_steps hs rfl) h)
    rw [events_eq, events_eq, inner, inner, List.flatMap_congr hsteps]

theorem Call.inner_eq {c : Call} (h : c.rank ≤ Point.ns.rank) :
    c.inner { functions := true } =
      c.inner {} ++ c.functionChild?.toList.flatMap (Call.events { functions := true }) := by
  obtain ⟨others, hsteps, hothers⟩ := c.exists_steps_eq
  have hsame : ∀ step ∈ others, step.events { functions := true } = step.events {} := by
    intro step hs
    cases step with
    | enter kind name? => rfl
    | broken reference => rfl
    | functions target => exact absurd rfl (hothers _ hs target)
    | call target =>
      have hmem : Step.call target ∈ c.steps := by
        rw [hsteps]
        exact List.mem_append_left _ hs
      exact events_below (Nat.lt_of_lt_of_le (rank_lt_of_mem_steps hmem rfl) h) true
  have hoffer : (c.functionChild?.toList.map Step.functions).flatMap (Step.events {}) = [] := by
    cases c.functionChild? <;> rfl
  have hnone (route : Route) (hr : ∀ point, route.skips point = false) :
      c.inner route = c.steps.flatMap (Step.events route) := by
    rw [inner, hr, if_neg Bool.false_ne_true]
  rw [hnone _ fun _ => rfl, hnone _ fun _ => rfl, hsteps, List.flatMap_append, List.flatMap_append,
    List.flatMap_congr hsame, hoffer, List.append_nil, List.flatMap_map]
  rfl

/-! ## Runs with and without functions -/

def DispatchLog.withFunctions (log : DispatchLog) (enabled : Bool) : DispatchLog :=
  { log with config := log.config.withFunctions enabled }

/-- What a log that takes functions records of the functions that a call has to offer. -/
def Call.functionEntries (c : Call) : List Dispatch :=
  match c.functionChild? with
  | none => []
  | some child =>
    (visit DispatchLog.visitor child (DispatchLog.withFunctions {} true)).2.entries.toList

/-- With functions the run ends as it does without. If it succeeds, the entries of the functions
follow those of all else; if it fails, there are no more than without. -/
def Call.AddsFunctions (c : Call) : Prop :=
  ∀ log : DispatchLog, ∃ entries,
    (visit DispatchLog.visitor c (log.withFunctions false) =
        (.ok (), (log.withFunctions false).append entries) ∧
      visit DispatchLog.visitor c (log.withFunctions true) =
        (.ok (), (log.withFunctions true).append (entries ++ c.functionEntries))) ∨
    ∃ reference,
      visit DispatchLog.visitor c (log.withFunctions false) =
        (.error reference, (log.withFunctions false).append entries) ∧
      visit DispatchLog.visitor c (log.withFunctions true) =
        (.error reference, (log.withFunctions true).append entries)

theorem Call.looksUp_functionChild {c child : Call} (h : c.functionChild? = some child) :
    child.point.looksUp = false := by
  cases c with
  | ns item | entityContainer item =>
    rw [functionChild?] at h
    split at h
    · cases h
    · cases h
      rfl
  | _ => cases h

theorem Call.functionEntries_eq (c : Call) :
    c.functionEntries = c.functionChild?.toList.flatMap (Call.entries true) := by
  unfold functionEntries
  cases h : c.functionChild? with
  | none => rfl
  | some child =>
    have hsound : child.Sound := Call.brokenReferences_eq_nil_of_plain (looksUp_functionChild h)
    dsimp only
    rw [DispatchLog.visit_of_sound hsound]
    simp [DispatchLog.append, DispatchLog.withFunctions, TraversalConfig.withFunctions]

theorem Call.broken_functionChild (c : Call) :
    (c.functionChild?.toList.flatMap (Call.events { functions := true })).filterMap
      Event.broken? = [] := by
  cases h : c.functionChild? with
  | none => rfl
  | some child =>
    rw [Option.toList_some, List.flatMap_singleton]
    exact brokenReferences_eq_nil_of_plain (looksUp_functionChild h)

theorem Call.brokenReferences_functions {c : Call} (h : c.rank ≤ Point.ns.rank) :
    c.brokenReferences { functions := true } = c.brokenReferences {} := by
  rw [brokenReferences_eq_inner, brokenReferences_eq_inner, inner_eq h, List.filterMap_append,
    broken_functionChild, List.append_nil]

theorem Call.dispatches_functions_of_sound {c : Call} (h : c.rank ≤ Point.ns.rank)
    (hc : c.brokenReferences {} = []) :
    (c.dispatches { functions := true }).map entry =
      (c.dispatches {}).map entry ++ c.functionEntries := by
  have hentries : ((c.functionChild?.toList.flatMap
      (Call.events { functions := true })).filterMap Event.opened?).map entry =
        c.functionEntries := by
    rw [functionEntries_eq, List.filterMap_flatMap, List.map_flatMap]
    rfl
  rw [brokenReferences_eq_inner] at hc
  rw [dispatches_eq, dispatches_eq, inner_eq h, Event.dispatches_append_of_sound hc,
    Event.dispatches_of_sound c.broken_functionChild, ← List.cons_append, List.map_append, hentries]

theorem Call.dispatches_functions_of_broken {c : Call} (h : c.rank ≤ Point.ns.rank)
    (hc : c.brokenReferences {} ≠ []) :
    c.dispatches { functions := true } = c.dispatches {} := by
  rw [brokenReferences_eq_inner] at hc
  rw [dispatches_eq, dispatches_eq, inner_eq h, Event.dispatches_append_of_broken hc]

theorem Call.addsFunctions {c : Call} (h : c.rank ≤ Point.ns.rank) : c.AddsFunctions := by
  intro log
  have hrun (on : Bool) : visit DispatchLog.visitor c (log.withFunctions on) =
      (Effect.verdict (c.brokenReferences { functions := on }).head?,
        (log.withFunctions on).append ((c.dispatches { functions := on }).map entry)) :=
    DispatchLog.visit_eq _ c
  refine ⟨(c.dispatches {}).map entry, ?_⟩
  rw [hrun false, hrun true, brokenReferences_functions h]
  cases hc : c.brokenReferences {} with
  | nil =>
    left
    rw [dispatches_functions_of_sound h hc]
    exact ⟨rfl, rfl⟩
  | cons reference rest =>
    right
    have hbroken : c.brokenReferences {} ≠ [] := by
      rw [hc]
      exact List.cons_ne_nil _ _
    rw [dispatches_functions_of_broken h hbroken]
    exact ⟨reference, rfl, rfl⟩

/-! ## Graphs without function nodes -/

def Declaration.withoutFunctions : Declaration → Declaration
  | .ns item => .ns { item with functionGroups := [] }
  | .container item => .container { item with functionImports := [] }
  | declaration => declaration

def Trim.withoutFunctions : Trim where
  functions := false

theorem TypeReference.trim_withoutFunctions (node : TypeReference) :
    node.trim .withoutFunctions = node := by
  have hfacets : Facets.trim .withoutFunctions = id := rfl
  rw [trim, hfacets, Option.map_id]
  rfl

theorem Property.trim_withoutFunctions (node : Property) : node.trim .withoutFunctions = node := by
  rw [trim, TypeReference.trim_withoutFunctions]
  rfl

theorem ComplexType.trim_withoutFunctions (node : ComplexType) :
    node.trim .withoutFunctions = node := by
  rw [trim, List.map_id'' Property.trim_withoutFunctions]
  rfl

theorem EntityType.trim_withoutFunctions (node : EntityType) :
    node.trim .withoutFunctions = node := by
  have hnavigation (property : NavigationProperty) : property.trim .withoutFunctions = property :=
    rfl
  rw [trim, List.map_id'' Property.trim_withoutFunctions, List.map_id'' hnavigation]
  rfl

theorem EnumType.trim_withoutFunctions (node : EnumType) : node.trim .withoutFunctions = node := by
  have hmember (member : EnumTypeMember) : member.trim .withoutFunctions = member := rfl
  rw [trim, List.map_id'' hmember]
  rfl

theorem AssociationType.trim_withoutFunctions (node : AssociationType) :
    node.trim .withoutFunctions = node := by
  have hrule : AssociationConstraint.trim .withoutFunctions = id := rfl
  rw [trim, hrule, Option.map_id]
  rfl

theorem Namespace.trim_withoutFunctions (node : Namespace) :
    node.trim .withoutFunctions = { node with functionGroups := [] } := by
  rw [trim, List.map_id'' ComplexType.trim_withoutFunctions,
    List.map_id'' EntityType.trim_withoutFunctions, List.map_id'' EnumType.trim_withoutFunctions,
    List.map_id'' AssociationType.trim_withoutFunctions]
  rfl

theorem EntityContainer.trim_withoutFunctions (node : EntityContainer) :
    node.trim .withoutFunctions = { node with functionImports := [] } := by
  have hset (item : EntitySet) : item.trim .withoutFunctions = item := rfl
  have hassociation (item : AssociationSet) : item.trim .withoutFunctions = item := rfl
  rw [trim, List.map_id'' hset, List.map_id'' hassociation]
  rfl

theorem Declaration.filterMap_trim?_withoutFunctions (declarations : List Declaration) :
    declarations.filterMap (Declaration.trim? .withoutFunctions) =
      declarations.map Declaration.withoutFunctions := by
  have hdeclaration (declaration : Declaration) :
      declaration.trim? .withoutFunctions = some declaration.withoutFunctions := by
    cases declaration with
    | version given | annotate key value => rfl
    | ns item => exact congrArg (some ∘ Declaration.ns) item.trim_withoutFunctions
    | container item => exact congrArg (some ∘ Declaration.container) item.trim_withoutFunctions
  rw [← List.filterMap_eq_map]
  exact List.filterMap_congr fun declaration _ => hdeclaration declaration

/-! ## Models -/

namespace Model

/-- With or without functions, the second model is traversed as the first is without. -/
def LogsWithoutFunctions (m stripped : Model) : Prop :=
  ∀ log : DispatchLog, ∃ entries,
    traverse DispatchLog.visitor m (log.withFunctions false) =
      (.ok (), (log.withFunctions false).append entries) ∧
    ∀ on, traverse DispatchLog.visitor stripped (log.withFunctions on) =
      (.ok (), (log.withFunctions on).append entries)

theorem logsWithoutFunctions_trim {m : Model} (h : (Call.model m).Sound)
    (h' : (Call.model (m.trim .withoutFunctions)).Sound) :
    m.LogsWithoutFunctions (m.trim .withoutFunctions) := by
  have hentries (on : Bool) : (Call.model (m.trim .withoutFunctions)).entries on =
      (Call.model m).entries false := by
    have htrim : (Call.model (m.trim .withoutFunctions)).entries on =
        Trim.withoutFunctions.kept ((Call.model m).entries (on && false)) :=
      Call.entries_trim (t := .withoutFunctions) (c := .model m) rfl
    rw [htrim, Bool.and_false, Trim.kept, List.filter_eq_self]
    intro entry _
    exact Bool.or_true _
  intro log
  refine ⟨(Call.model m).entries false, DispatchLog.traverse_of_sound h _, ?_⟩
  intro on
  rw [DispatchLog.traverse_of_sound h', hentries]

/-- A run of hooks through the model that no hook ends leaves a transcript, in which every open call
that has functions to offer asks for them once. -/
def AsksOnce (m : Model) : Prop :=
  ∀ {σ ε : Type} (h : Hooks σ ε) (ofBroken : BrokenReference → ε) (s : σ),
    ∃ notes,
      traverse (h.watched.visitor ofBroken) m ⟨s, []⟩ =
        ((traverse (h.visitor ofBroken) m s).1, ⟨(traverse (h.visitor ofBroken) m s).2, notes⟩) ∧
      ((∀ c, .failed c ∉ notes) →
        (traverse (h.visitor ofBroken) m s).1 = .ok () ∧
        Transcript [.model m] notes ∧
        Note.questions notes = (Note.calls notes).countP Call.offers)

theorem asksOnce_of_sound {m : Model} (hm : (Call.model m).Sound) : m.AsksOnce := by
  intro σ ε h ofBroken s
  obtain ⟨hresult, hstate⟩ := (h.watched_simulates ofBroken).traverse m ⟨s, []⟩ s rfl
  rw [Effect.mapError_id] at hresult
  cases hrun : traverse (h.watched.visitor ofBroken) m ⟨s, []⟩ with
  | mk result w =>
    rw [hrun] at hresult hstate
    refine ⟨w.notes, Prod.ext hresult (by rw [← hstate]), ?_⟩
    intro hnone
    rw [traverse_eq_visit fun _ _ => rfl] at hrun
    cases result with
    | error error =>
      obtain ⟨c, hc⟩ := Hooks.failed_of_visit_error hm hrun
      exact absurd hc (hnone c)
    | ok _ =>
      obtain ⟨notes, hnotes, ht⟩ := Hooks.transcribes_visit (.model m) _ _ hrun
      rw [hnotes, List.nil_append]
      exact ⟨hresult.symm, ht, ht.questions_eq⟩

/-- Function nodes are an addition: a model is built without them too, and but for them it is
traversed alike. -/
theorem build_adds_functions {name : String} {declarations : List Declaration} {m : Model}
    (h : build name declarations = .ok m) :
    (∃ stripped,
      build name (declarations.map Declaration.withoutFunctions) = .ok stripped ∧
        m.LogsWithoutFunctions stripped) ∧
    (∀ item, (Call.ns item).AddsFunctions) ∧
    (∀ item, (Call.entityContainer item).AddsFunctions) ∧
    m.AsksOnce := by
  have hm := sound_of_build h
  have hstripped := build_trim_of_ok (t := .withoutFunctions) h
  rw [Declaration.filterMap_trim?_withoutFunctions] at hstripped
  refine ⟨⟨_, hstripped, logsWithoutFunctions_trim hm (sound_of_build hstripped)⟩, ?_, ?_, ?_⟩
  · exact fun item => Call.addsFunctions (Nat.le_refl _)
  · exact fun item => Call.addsFunctions (Nat.le_refl _)
  · exact asksOnce_of_sound hm

/-- A namespace and a container with functions next to the shop. -/
def functionShop : List Declaration :=
  shop "Customers" ++ [
    .ns
      { name := "Tools"
        functionGroups := [
          { name := "Total"
            overloads := [
              { returnType := some { referenced := .primitive .int32 }
                parameters := [
                  { name := "order", type := { referenced := .entity "Sales.Order" } }] }] }] },
    .container
      { name := "Services"
        functionImports := [{ name := "Now" }] }]

theorem build_adds_functions_shop :
    build "Shop" functionShop = .ok (assemble "Shop" functionShop) ∧
      (∃ stripped,
        build "Shop" (functionShop.map Declaration.withoutFunctions) = .ok stripped ∧
          (assemble "Shop" functionShop).LogsWithoutFunctions stripped) ∧
      (assemble "Shop" functionShop).AsksOnce := by
  have hbuild : build "Shop" functionShop = .ok (assemble "Shop" functionShop) := rfl
  obtain ⟨hstripped, -, -, hasks⟩ := build_adds_functions hbuild
  exact ⟨hbuild, hstripped, hasks⟩

end Model

end EntityModel
