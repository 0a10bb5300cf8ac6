import EntityModel.Proofs.LogRun
import EntityModel.Proofs.Reordering

/-!
# EntityModel.Proofs.ReorderedRuns

Logs of a reordered model.

* `Step.perm_entries_unlessEmpty`: a collection in another order is logged once as before, and then
  its items in another order.
* `Call.perm_entries_ns`, `Call.perm_entries_entityContainer`, `Call.perm_entries_model`: what is
  logged below a node is logged below the reordered node, in another order. Association types and
  association sets look their ends up in their owner, where the same is found.
* `Model.build_ignores_order`: a reordered model builds if the model does, finds the same, and leaves
  the same entries in a log.
-/

namespace EntityModel

variable {on : Bool}

/-! ## Collections -/

theorem Call.entries_congr {c c' : Call} (hentry : c'.entry = c.entry) (hsteps : c'.steps = c.steps) :
    c'.entries on = c.entries on := by
  rw [entries_eq, entries_eq, hentry, hsteps]

namespace Step

theorem flatMap_entries_unlessEmpty_functions {α : Type} (items : List α) (target : Call) :
    (unlessEmpty items (functions target)).flatMap (entries on) =
      if on then (unlessEmpty items (call target)).flatMap (entries on) else [] := by
  cases items with
  | nil => exact (ite_self []).symm
  | cons first rest =>
    simp only [unlessEmpty, List.isEmpty_cons, if_neg Bool.false_ne_true, List.flatMap_singleton,
      entries_functions, entries_call]

section Collections

variable {α : Type} {items items' : List α} {target target' : Call} {f f' : α → Call}
  (hentry : target'.entry = target.entry)
  (hsteps : target.steps = items.map fun item => call (f item))
  (hsteps' : target'.steps = items'.map fun item => call (f' item))
include hentry hsteps hsteps'

theorem perm_entries_unlessEmpty {R : α → α → Prop} (h : Reorders R items items')
    (hitems : ∀ item ∈ items, ∀ item', R item item' →
      ((f item).entries on).Perm ((f' item').entries on)) :
    ((unlessEmpty items (call target)).flatMap (entries on)).Perm
      ((unlessEmpty items' (call target')).flatMap (entries on)) := by
  have hbelow : (target.steps.flatMap (entries on)).Perm (target'.steps.flatMap (entries on)) := by
    rw [hsteps, hsteps', List.flatMap_map, List.flatMap_map]
    exact h.flatMap_perm hitems
  unfold unlessEmpty
  rw [h.isEmpty_eq]
  split
  · exact List.Perm.nil
  · rw [List.flatMap_singleton, List.flatMap_singleton, entries_call, entries_call,
      Call.entries_eq, Call.entries_eq, hentry]
    exact hbelow.cons target.entry

/-- The items may be logged with respect to their owner, as long as this makes no difference. -/
theorem perm_entries_unlessEmpty_of_perm (h : items.Perm items')
    (hitems : ∀ item, (f' item).entries on = (f item).entries on) :
    ((unlessEmpty items (call target)).flatMap (entries on)).Perm
      ((unlessEmpty items' (call target')).flatMap (entries on)) := by
  refine perm_entries_unlessEmpty hentry hsteps hsteps' (Reorders.of_perm h) ?_
  rintro item _ _ rfl
  rw [hitems]

theorem perm_entries_unlessEmpty_functions (h : items.Perm items')
    (hitems : ∀ item, (f' item).entries on = (f item).entries on) :
    ((unlessEmpty items (functions target)).flatMap (entries on)).Perm
      ((unlessEmpty items' (functions target')).flatMap (entries on)) := by
  rw [flatMap_entries_unlessEmpty_functions, flatMap_entries_unlessEmpty_functions]
  split
  · exact perm_entries_unlessEmpty_of_perm hentry hsteps hsteps' h hitems
  · exact List.Perm.nil

end Collections

end Step

/-! ## Nodes -/

namespace Call

open Step

/-- A constraint looks the entity type of its dependent end up in the namespace. -/
theorem entries_associationType_congr {ns ns' : Namespace}
    (h : ∀ name, ns'.findEntityType? name = ns.findEntityType? name) (item : AssociationType) :
    (associationType ns' item).entries on = (associationType ns item).entries on := by
  have hconstraint (rule : AssociationConstraint) :
      (associationConstraint ns' item rule).entries on =
        (associationConstraint ns item rule).entries on :=
    entries_congr rfl (by simp only [steps, Descent.dependentProperties, h])
  rw [entries_eq, entries_eq, steps, steps]
  simp only [List.flatMap_append]
  cases item.referentialConstraint with
  | none => rfl
  | some rule =>
    simp only [List.flatMap_singleton, entries_call, hconstraint]
    rfl

theorem entries_associationSet_congr {container container' : EntityContainer}
    (h : ∀ name, container'.findEntitySet? name = container.findEntitySet? name)
    (item : AssociationSet) :
    (associationSet container' item).entries on = (associationSet container item).entries on :=
  entries_congr rfl (by simp only [steps, Descent.setEnd, h])

theorem perm_entries_ns {ns ns' : Namespace} (h : ns.Reordered ns') (hscope : ProperScope ns.items) :
    ((Call.ns ns).entries on).Perm ((Call.ns ns').entries on) := by
  have hentry (point : Point) : (⟨point, some ns'.name⟩ : Dispatch) = ⟨point, some ns.name⟩ := by
    rw [h.name]
  have hself : (Call.ns ns').entry = (Call.ns ns).entry := hentry .ns
  rw [entries_eq, entries_eq, hself, steps, steps, h.namedItem_eq]
  simp only [List.flatMap_append]
  refine List.Perm.cons _ ?_
  refine ((((List.Perm.refl _).append ?_).append ?_).append ?_).append ?_ |>.append ?_
  · exact perm_entries_unlessEmpty_of_perm (hentry .complexTypes) rfl rfl h.complexTypes
      fun _ => rfl
  · exact perm_entries_unlessEmpty_of_perm (hentry .entityTypes) rfl rfl h.entityTypes fun _ => rfl
  · exact perm_entries_unlessEmpty_of_perm (hentry .enumTypes) rfl rfl h.enumTypes fun _ => rfl
  · exact perm_entries_unlessEmpty_of_perm (hentry .associationTypes) rfl rfl h.associationTypes
      (entries_associationType_congr (h.findEntityType? hscope))
  · exact perm_entries_unlessEmpty_functions (hentry .functionGroups) rfl rfl h.functionGroups
      fun _ => rfl

theorem perm_entries_entityContainer {container container' : EntityContainer}
    (h : container.Reordered container') (hscope : ProperScope container.items) :
    ((entityContainer container).entries on).Perm ((entityContainer container').entries on) := by
  have hentry (point : Point) :
      (⟨point, some container'.name⟩ : Dispatch) = ⟨point, some container.name⟩ := by
    rw [h.name]
  have hself : (entityContainer container').entry = (entityContainer container).entry :=
    hentry .entityContainer
  rw [entries_eq, entries_eq, hself, steps, steps, h.namedItem_eq]
  simp only [List.flatMap_append]
  refine List.Perm.cons _ ?_
  refine (((List.Perm.refl _).append ?_).append ?_).append ?_
  · exact perm_entries_unlessEmpty_of_perm (hentry .entitySets) rfl rfl h.entitySets fun _ => rfl
  · exact perm_entries_unlessEmpty_of_perm (hentry .associationSets) rfl rfl h.associationSets
      (entries_associationSet_congr (h.findEntitySet? hscope))
  · exact perm_entries_unlessEmpty_functions (hentry .functionImports) rfl rfl h.functionImports
      fun _ => rfl

theorem perm_entries_model {m m' : Model} (h : m.Reordered m') (hm : m.WellFormed) :
    ((model m).entries on).Perm ((model m').entries on) := by
  have hentry (point : Point) : (⟨point, some m'.name⟩ : Dispatch) = ⟨point, some m.name⟩ := by
    rw [h.name]
  have hself : (model m').entry = (model m).entry := hentry .model
  rw [entries_eq, entries_eq, hself, steps, steps, h.namedItem_eq]
  simp only [List.flatMap_append]
  refine List.Perm.cons _ ?_
  refine ((List.Perm.refl _).append ?_).append ?_
  · exact perm_entries_unlessEmpty (hentry .namespaces) rfl rfl h.namespaces
      fun ns hmem _ hns => perm_entries_ns hns (hm.consistent.namespaces ns hmem).scope
  · exact perm_entries_unlessEmpty (hentry .entityContainers) rfl rfl h.containers
      fun container hmem _ hcontainer =>
        perm_entries_entityContainer hcontainer (hm.consistent.containers container hmem).scope

end Call

/-! ## Models -/

namespace Model

/-- The same is found in both models, and a traversal records the same of both, in some order. -/
structure Interchangeable (m m' : Model) : Prop where
  entityTypes : ∀ qualified, m'.findEntityType? qualified = m.findEntityType? qualified
  associationTypes : ∀ qualified,
    m'.findAssociationType? qualified = m.findAssociationType? qualified
  entitySets : ∀ container set,
    (m'.findContainer? container).bind (·.findEntitySet? set) =
      (m.findContainer? container).bind (·.findEntitySet? set)
  logs : ∀ config : TraversalConfig, ∃ log log',
    traverse DispatchLog.visitor m { config } = (.ok (), log) ∧
      traverse DispatchLog.visitor m' { config } = (.ok (), log') ∧
      log.entries.toList.Perm log'.entries.toList ∧ ∀ point, log'.count point = log.count point

theorem WellFormed.sound {m : Model} (hm : m.WellFormed) : (Call.model m).Sound :=
  Call.sound_model_iff.mpr hm.traversable

theorem Reordered.interchangeable {m m' : Model} (h : m.Reordered m') (hm : m.WellFormed) :
    m.Interchangeable m' where
  entityTypes := h.findEntityType? hm
  associationTypes := h.findAssociationType? hm
  entitySets := h.bind_findEntitySet? hm
  logs config := by
    have hperm : ((Call.model m).entries config.functionsEnabled).Perm
        ((Call.model m').entries config.functionsEnabled) := Call.perm_entries_model h hm
    have hlog (entries : List Dispatch) :
        (({ config } : DispatchLog).append entries).entries.toList = entries := by
      simp
    refine ⟨_, _, DispatchLog.traverse_of_sound hm.sound _,
      DispatchLog.traverse_of_sound (h.wellFormed hm).sound _, ?_, ?_⟩
    · rw [hlog, hlog]
      exact hperm
    · intro point
      rw [DispatchLog.count, DispatchLog.count, hlog, hlog]
      exact ((hperm.filter _).length_eq).symm

/-- The order of the declarations matters to nothing but the order of the entries in a log. -/
theorem build_ignores_order {name : String} {declarations declarations' : List Declaration}
    (h : (assemble name declarations).Reordered (assemble name declarations')) :
    ((∃ m, build name declarations = .ok m) ↔ ∃ m, build name declarations' = .ok m) ∧
      ∀ m m', build name declarations = .ok m → build name declarations' = .ok m' →
        m.Interchangeable m' := by
  refine ⟨⟨?_, ?_⟩, ?_⟩
  · rintro ⟨m, hm⟩
    obtain rfl := assemble_of_build hm
    exact ⟨_, build_of_wellFormed (h.wellFormed (wellFormed_of_build hm))⟩
  · rintro ⟨m', hm'⟩
    obtain rfl := assemble_of_build hm'
    exact ⟨_, build_of_wellFormed (h.symm.wellFormed (wellFormed_of_build hm'))⟩
  · intro m m' hm hm'
    obtain rfl := assemble_of_build hm
    obtain rfl := assemble_of_build hm'
    exact h.interchangeable (wellFormed_of_build hm)

/-- The shop with its container first, and with its entity types and entity sets turned around. -/
def shopTurned : List Declaration := [
  .container
    { name := "Store"
      entitySets := [
        { name := "Orders", elementType := "Sales.Order" },
        { name := "Customers", elementType := "Sales.Customer" }]
      associationSets := [
        { name := "OrdersPlaced"
          source := "Customers"
          target := "Orders"
          associationType := some "Sales.Placed" }] },
  .ns { sales with entityTypes := sales.entityTypes.reverse }]

/-- Turned around, the shop is logged with the same entries, and the names at a point come in
another order. -/
theorem build_ignores_order_shop :
    (assemble "Shop" (shop "Customers")).Reordered (assemble "Shop" shopTurned) ∧
      (assemble "Shop" (shop "Customers")).Interchangeable (assemble "Shop" shopTurned) ∧
      ∃ log log', traverse DispatchLog.visitor (assemble "Shop" (shop "Customers")) {} =
          (.ok (), log) ∧
        traverse DispatchLog.visitor (assemble "Shop" shopTurned) {} = (.ok (), log') ∧
        log.entries.toList.Perm log'.entries.toList ∧
        log.names .entityType = ["Customer", "Order"] ∧
        log'.names .entityType = ["Order", "Customer"] ∧
        log.names .entitySet = ["Customers", "Orders"] ∧
        log'.names .entitySet = ["Orders", "Customers"] ∧
        log.count .property = 6 ∧ log'.count .property = 6 := by
  have hns : sales.Reordered { sales with entityTypes := sales.entityTypes.reverse } :=
    ⟨rfl, rfl, .refl _, (List.reverse_perm _).symm, .refl _, .refl _, .refl _⟩
  have h : (assemble "Shop" (shop "Customers")).Reordered (assemble "Shop" shopTurned) :=
    ⟨rfl, rfl, rfl, ⟨_, .refl _, .cons hns .nil⟩,
      ⟨_, .refl _, .cons ⟨rfl, rfl, .swap _ _ _, .refl _, .refl _⟩ .nil⟩⟩
  have hsame := (build_ignores_order h).2 _ _ rfl rfl
  obtain ⟨log, log', hrun, hrun', hperm, -⟩ := hsame.logs {}
  have hlog : log = (traverse DispatchLog.visitor (assemble "Shop" (shop "Customers")) {}).2 := by
    rw [hrun]
  have hlog' : log' = (traverse DispatchLog.visitor (assemble "Shop" shopTurned) {}).2 := by
    rw [hrun']
  refine ⟨h, hsame, log, log', hrun, hrun', hperm, ?_⟩
  rw [hlog, hlog']
  decide +kernel

end Model

end EntityModel
