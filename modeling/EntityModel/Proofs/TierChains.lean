import EntityModel.Proofs.Entrances
import EntityModel.Proofs.LogRun

/-!
# EntityModel.Proofs.TierChains

A log is a sequence of blocks: the entry of a node, the tiers of the node, its annotations.

* `Point.tierChain`, `Annotations.dispatches`, `Call.block`: the entries that make up a block. The
  block of a collection is its own entry.
* `Call.tiersFirst`: below a node the tiers come before anything that may fail, and only there.
* `Call.inBlocks_dispatches`: what a dispatch at a node or a collection records is a sequence of
  blocks, one for each dispatch of this kind, also where a broken reference cuts it short.
* `LogOperation`: traversals, single dispatches and clearing, in any sequence on one log.
* `DispatchLog.run_in_blocks`: after every such sequence the log consists of the blocks of the nodes
  and collections that were dispatched since it was last cleared.
-/

namespace EntityModel

/-! ## Blocks -/

/-- The tiers through which a node passes that is dispatched at a point under a name. -/
def Point.tierChain (point : Point) (name? : Option String) : List Dispatch :=
  match point with
  | .complexType | .entityType | .enumType | .associationType | .functionGroup =>
    [⟨.namespaceItem, name?⟩, ⟨.namedItem, name?⟩, ⟨.metadataItem, none⟩, ⟨.dataModelItem, none⟩]
  | .model | .ns | .enumMember | .associationEnd | .entityContainer | .entitySet | .associationSet
  | .associationSetEnd | .property | .navigationProperty | .functionImport | .functionParameter =>
    [⟨.namedItem, name?⟩, ⟨.metadataItem, none⟩, ⟨.dataModelItem, none⟩]
  | .typeReference | .associationConstraint | .functionOverload =>
    [⟨.metadataItem, none⟩, ⟨.dataModelItem, none⟩]
  | .primitiveTypeFacets => [⟨.dataModelItem, none⟩]
  | _ => []

/-- Nothing is recorded for an empty store. -/
def Annotations.dispatches (store : Annotations AnnotationValue) : List Dispatch :=
  if store.isEmpty then []
  else ⟨.annotations, none⟩ :: store.keys.map fun key => ⟨.annotationEntry, some key⟩

/-- The annotations of the node that is dispatched. Collections and facets carry none. -/
def Call.store : Call → Annotations AnnotationValue
  | model item => item.annotations
  | ns item => item.annotations
  | complexType item => item.annotations
  | entityType item => item.annotations
  | enumType item => item.annotations
  | enumMember item => item.annotations
  | associationType _ item => item.annotations
  | associationEnd item => item.annotations
  | associationConstraint _ _ item => item.annotations
  | entityContainer item => item.annotations
  | entitySet item => item.annotations
  | associationSet _ item => item.annotations
  | associationSetEnd item => item.annotations
  | property item => item.annotations
  | navigationProperty item => item.annotations
  | typeReference item => item.annotations
  | functionGroup item => item.annotations
  | functionOverload item => item.annotations
  | functionImport item => item.annotations
  | functionParameter item => item.annotations
  | _ => {}

def Call.block (c : Call) : List Dispatch :=
  c.entry :: (c.point.tierChain c.name? ++ c.store.dispatches)

/-- The calls that are dispatched at a node or a collection. -/
def untiered (calls : List Call) : List Call :=
  calls.filter fun c => !c.point.isTier

theorem untiered_append (first second : List Call) :
    untiered (first ++ second) = untiered first ++ untiered second :=
  List.filter_append ..

theorem untiered_cons {c : Call} (h : c.point.isTier = false) (rest : List Call) :
    untiered (c :: rest) = c :: untiered rest :=
  List.filter_cons_of_pos (by rw [h]; rfl)

theorem untiered_eq_nil {calls : List Call} (h : ∀ c ∈ calls, c.point.isTier = true) :
    untiered calls = [] := by
  rw [untiered, List.filter_eq_nil_iff]
  intro c hc
  simp [h c hc]

/-- The entries of the calls are the blocks of those at a node or a collection. -/
def InBlocks (calls : List Call) : Prop :=
  calls.map Call.entry = (untiered calls).flatMap Call.block

namespace InBlocks

theorem nil : InBlocks [] := rfl

theorem append {first second : List Call} (h : InBlocks first) (h' : InBlocks second) :
    InBlocks (first ++ second) := by
  unfold InBlocks at *
  rw [List.map_append, untiered_append, List.flatMap_append, h, h']

theorem node {c : Call} (hc : c.point.isTier = false) {chain rest : List Call}
    (htiers : ∀ d ∈ chain, d.point.isTier = true)
    (hchain : chain.map Call.entry = c.point.tierChain c.name? ++ c.store.dispatches)
    (hrest : InBlocks rest) : InBlocks (c :: (chain ++ rest)) := by
  unfold InBlocks at *
  rw [List.map_cons, List.map_append, hchain, hrest, untiered_cons hc, untiered_append,
    untiered_eq_nil htiers, List.nil_append, List.flatMap_cons]
  rfl

/-- Cut short at a broken reference, what is left are blocks still. -/
theorem dispatches_flatMap {α : Type} {items : List α} {f : α → List Event}
    (h : ∀ item ∈ items, InBlocks (Event.dispatches (f item))) :
    InBlocks (Event.dispatches (items.flatMap f)) := by
  induction items with
  | nil => exact nil
  | cons item rest ih =>
    have hitem := h item List.mem_cons_self
    rw [List.flatMap_cons]
    by_cases hb : (f item).filterMap Event.broken? = []
    · rw [Event.dispatches_append_of_sound hb]
      exact hitem.append (ih fun x hx => h x (List.mem_cons_of_mem _ hx))
    · rw [Event.dispatches_append_of_broken hb]
      exact hitem

end InBlocks

/-! ## Tiers -/

section Tiers

variable {route : Route} (hr : ∀ point, route.skips point = false)
include hr

theorem Call.opened_annotations (item : MetadataItem) (store : Annotations AnnotationValue) :
    (annotations item store).opened route =
      annotations item store :: store.entries.map (annotationEntry item) := by
  have hentry : ∀ entry ∈ store.entries,
      (Step.call (annotationEntry item entry)).opened route = [annotationEntry item entry] :=
    fun _ _ => opened_eq hr _
  rw [opened_eq hr, steps, List.flatMap_map, List.flatMap_congr hentry, ← List.map_eq_flatMap]

theorem Call.entries_metadataItem (item : MetadataItem) :
    ((metadataItem item).opened route).map entry =
      [⟨.metadataItem, none⟩, ⟨.dataModelItem, none⟩] ++ item.annotations.dispatches := by
  have hbase : (dataModelItem item.kind).opened route = [dataModelItem item.kind] :=
    opened_eq hr _
  rw [opened_eq hr, steps, List.flatMap_cons, Step.opened_call, hbase, Annotations.dispatches,
    Annotations.isEmpty, Step.unlessEmpty]
  cases item.annotations.entries.isEmpty with
  | true => rfl
  | false =>
    rw [if_neg Bool.false_ne_true, if_neg Bool.false_ne_true, List.flatMap_singleton,
      Step.opened_call, opened_annotations hr]
    simp [entry, point, name?, Annotations.keys]

theorem Call.entries_namedItem (item : NamedItem) :
    ((namedItem item).opened route).map entry =
      [⟨.namedItem, some item.name⟩, ⟨.metadataItem, none⟩, ⟨.dataModelItem, none⟩] ++
        item.annotations.dispatches := by
  rw [opened_eq hr, steps, List.flatMap_singleton, List.map_cons, Step.opened_call,
    entries_metadataItem hr]
  rfl

theorem Call.entries_namespaceItem (item : NamedItem) :
    ((namespaceItem item).opened route).map entry =
      [⟨.namespaceItem, some item.name⟩, ⟨.namedItem, some item.name⟩, ⟨.metadataItem, none⟩,
        ⟨.dataModelItem, none⟩] ++ item.annotations.dispatches := by
  rw [opened_eq hr, steps, List.flatMap_singleton, List.map_cons, Step.opened_call,
    entries_namedItem hr]
  rfl

end Tiers

/-! ## How a node is entered -/

/-- The steps lead through tiers only and record the entries. -/
structure Step.Enters (route : Route) (steps : List Step) (entries : List Dispatch) : Prop where
  plain : ∀ step ∈ steps, step.IsPlain
  tiers : ∀ c ∈ steps.flatMap (Step.opened route), c.point.isTier = true
  recorded : (steps.flatMap (Step.opened route)).map Call.entry = entries

/-- The step leads to no tier. -/
def Step.LeadsOn (step : Step) : Prop :=
  ∀ target, step.target? = some target → target.point.isTier = false

namespace Step

section Entrances

variable {route : Route} (hr : ∀ point, route.skips point = false)
include hr

omit hr in
theorem enters_nothing : Enters route [] [] :=
  ⟨fun _ h => absurd h List.not_mem_nil, fun _ h => absurd h List.not_mem_nil, rfl⟩

theorem enters_tier (kind : NodeKind) (name? : Option String) {target : Call}
    (hplain : target.point.looksUp = false) (htier : target.point.isTier = true)
    {entries : List Dispatch} (h : (target.opened route).map Call.entry = entries) :
    Enters route [enter kind name?, call target] entries := by
  have hopened : [enter kind name?, call target].flatMap (opened route) = target.opened route := by
    rw [List.flatMap_cons, List.flatMap_singleton, opened_enter, opened_call, List.nil_append]
  refine ⟨?_, ?_, ?_⟩
  · rw [List.forall_mem_cons, List.forall_mem_singleton]
    exact ⟨trivial, hplain⟩
  · rw [hopened]
    exact Call.isTier_of_mem_opened hr htier
  · rw [hopened]
    exact h

theorem enters_unnamed (item : MetadataItem) :
    Enters route (unnamed item)
      ([⟨.metadataItem, none⟩, ⟨.dataModelItem, none⟩] ++ item.annotations.dispatches) :=
  enters_tier hr _ _ rfl rfl (Call.entries_metadataItem hr item)

theorem enters_named (item : NamedItem) :
    Enters route (named item)
      ([⟨.namedItem, some item.name⟩, ⟨.metadataItem, none⟩, ⟨.dataModelItem, none⟩] ++
        item.annotations.dispatches) :=
  enters_tier hr _ _ rfl rfl (Call.entries_namedItem hr item)

theorem enters_namespaced (item : NamedItem) :
    Enters route (namespaced item)
      ([⟨.namespaceItem, some item.name⟩, ⟨.namedItem, some item.name⟩, ⟨.metadataItem, none⟩,
        ⟨.dataModelItem, none⟩] ++ item.annotations.dispatches) :=
  enters_tier hr _ _ rfl rfl (Call.entries_namespaceItem hr item)

theorem enters_facets :
    Enters route [enter .primitiveTypeFacets none, call (.dataModelItem .primitiveTypeFacets)]
      [⟨.dataModelItem, none⟩] :=
  enters_tier hr _ _ rfl rfl (congrArg _ (Call.opened_eq hr _))

end Entrances

theorem Onward.leadsOn {point : Point} {step : Step} (h : step.Onward point) : step.LeadsOn :=
  fun _ ht => h.isTier ht

end Step

/-! ## Tiers come first -/

/-- The entrance comes first, and no later step leads to a tier. -/
def Step.TiersFirst (route : Route) (steps : List Step) (entries : List Dispatch) : Prop :=
  ∃ entrance rest, steps = entrance ++ rest ∧ Enters route entrance entries ∧
    ∀ step ∈ rest, step.LeadsOn

namespace Call

variable {route : Route} (hr : ∀ point, route.skips point = false)
include hr

open Step in
theorem enters_entrance (c : Call) :
    Enters route c.entrance (c.point.tierChain c.name? ++ c.store.dispatches) := by
  cases c with
  | model | ns | enumMember | associationEnd | entityContainer | entitySet | associationSet
  | associationSetEnd | property | navigationProperty | functionImport | functionParameter =>
    exact enters_named hr _
  | complexType | entityType | enumType | associationType | functionGroup =>
    exact enters_namespaced hr _
  | typeReference | associationConstraint | functionOverload => exact enters_unnamed hr _
  | primitiveTypeFacets => exact enters_facets hr
  | _ => exact enters_nothing

/-- A node passes through its tiers before anything else is dispatched or looked up below it. -/
theorem tiersFirst {c : Call} (h : c.point.isTier = false) :
    Step.TiersFirst route c.steps (c.point.tierChain c.name? ++ c.store.dispatches) := by
  obtain ⟨rest, hsteps, hrest, -⟩ := c.exists_onward_steps h
  exact ⟨c.entrance, rest, hsteps, c.enters_entrance hr, fun step hs => (hrest step hs).leadsOn⟩

end Call

/-! ## A dispatch -/

theorem Step.inBlocks_dispatches {route : Route} {step : Step}
    (ih : ∀ target, step.target? = some target → InBlocks (target.dispatches route)) :
    InBlocks (Event.dispatches (step.events route)) := by
  cases step with
  | enter | broken => exact InBlocks.nil
  | call target => exact ih target rfl
  | functions target =>
    rw [Step.events]
    split
    · exact ih target rfl
    · exact InBlocks.nil

theorem Call.inBlocks_dispatches {route : Route} (hr : ∀ point, route.skips point = false)
    {c : Call} (h : c.point.isTier = false) : InBlocks (c.dispatches route) := by
  induction c using Call.stepInduction with
  | h c ih =>
    obtain ⟨entrance, rest, hsteps, henters, hrest⟩ := c.tiersFirst hr h
    -- Nothing is looked up in the tiers, so that they are complete where a later step fails.
    have hsound : (entrance.flatMap (Step.events route)).filterMap Event.broken? = [] := by
      rw [List.filterMap_flatMap]
      exact Step.flatMap_brokenReferences_of_plain henters.plain
    have hopened : Event.dispatches (entrance.flatMap (Step.events route)) =
        entrance.flatMap (Step.opened route) := by
      rw [Event.dispatches_of_sound hsound, List.filterMap_flatMap]
      rfl
    have hlater : InBlocks (Event.dispatches (rest.flatMap (Step.events route))) := by
      refine InBlocks.dispatches_flatMap fun step hs => Step.inBlocks_dispatches ?_
      intro target ht
      exact ih step (hsteps ▸ List.mem_append_right _ hs) target ht (hrest step hs target ht)
    rw [dispatches_eq, inner, hr, if_neg Bool.false_ne_true, hsteps, List.flatMap_append,
      Event.dispatches_append_of_sound hsound, hopened]
    exact InBlocks.node h henters.tiers henters.recorded hlater

/-! ## Sequences of operations -/

/-- What may be done with a log. A single dispatch is one at a node or a collection. -/
inductive LogOperation where
  | traverse (m : Model)
  | visit (c : Call) (h : c.point.isTier = false)
  | clear

/-- The log after an operation, whether it succeeded or failed. -/
def DispatchLog.apply (log : DispatchLog) : LogOperation → DispatchLog
  | .traverse m => (EntityModel.traverse visitor m log).2
  | .visit c _ => (EntityModel.visit visitor c log).2
  | .clear => log.clear

def DispatchLog.run (operations : List LogOperation) (log : DispatchLog) : DispatchLog :=
  operations.foldl apply log

/-- The calls after an operation, whether it succeeded or failed. -/
def CallLog.apply (log : CallLog) : LogOperation → CallLog
  | .traverse m => (EntityModel.traverse visitor m log).2
  | .visit c _ => (EntityModel.visit visitor c log).2
  | .clear => log.clear

def CallLog.run (operations : List LogOperation) (log : CallLog) : CallLog :=
  operations.foldl apply log

/-- The log holds the entries of the calls, and these are blocks. -/
structure DispatchLog.Keeps (log : DispatchLog) (calls : CallLog) : Prop where
  functions : log.config.functionsEnabled = calls.functionsEnabled
  entries : log.entries.toList = calls.calls.map Call.entry
  blocks : InBlocks calls.calls

namespace DispatchLog.Keeps

variable {log : DispatchLog} {calls : CallLog}

theorem visit (h : log.Keeps calls) {c : Call} (hc : c.point.isTier = false) :
    Keeps (EntityModel.visit visitor c log).2 (EntityModel.visit CallLog.visitor c calls).2 := by
  rw [DispatchLog.visit_eq, CallLog.visit_eq, h.functions]
  refine ⟨h.functions, ?_, h.blocks.append (Call.inBlocks_dispatches (fun _ => rfl) hc)⟩
  simp [append, h.entries]

theorem apply (h : log.Keeps calls) (operation : LogOperation) :
    (log.apply operation).Keeps (calls.apply operation) := by
  cases operation with
  | traverse m =>
    rw [DispatchLog.apply, CallLog.apply, traverse_eq_visit fun _ _ => rfl,
      traverse_eq_visit fun _ _ => rfl]
    exact h.visit rfl
  | visit c hc => exact h.visit hc
  | clear => exact ⟨h.functions, rfl, InBlocks.nil⟩

theorem run (h : log.Keeps calls) (operations : List LogOperation) :
    (log.run operations).Keeps (calls.run operations) := by
  induction operations generalizing log calls with
  | nil => exact h
  | cons operation rest ih => exact ih (h.apply operation)

end DispatchLog.Keeps

/-- The calls that are made from an empty log on, since it was last cleared. -/
def LogOperation.calls (functionsEnabled : Bool) (operations : List LogOperation) : List Call :=
  (CallLog.run operations { functionsEnabled }).calls

/-- After any operations on a log, its entries are those of the calls made, and they are the block of
each node and of each collection, one after the other, with no entry between. -/
theorem DispatchLog.run_in_blocks (config : TraversalConfig) (operations : List LogOperation) :
    let calls := LogOperation.calls config.functionsEnabled operations
    let log := DispatchLog.run operations { config }
    log.entries.toList = calls.map Call.entry ∧
      log.entries.toList = (untiered calls).flatMap fun c =>
        c.entry :: (c.point.tierChain c.name? ++ c.store.dispatches) := by
  have h : Keeps { config } { functionsEnabled := config.functionsEnabled } :=
    ⟨rfl, rfl, InBlocks.nil⟩
  have hrun := h.run operations
  exact ⟨hrun.entries, hrun.entries.trans hrun.blocks⟩

end EntityModel
