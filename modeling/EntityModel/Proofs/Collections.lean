import EntityModel.Proofs.LogRun

/-!
# EntityModel.Proofs.Collections

Collections are dispatched if there is something in them.

* `Point.isCollection`, `Call.itemEntries`: the points of collections, and the entries that a log
  makes of the items of a collection.
* `Model.collections` and the like: the collections of a node and of the nodes that it owns, whether
  empty or not.
* `Call.met_model`: a run meets those of them that are not empty, in this order.
* `Led`: in a sequence of calls each collection is followed by its first item. So it is in a run
  without broken references: `Call.led_opened`.
* `DispatchLog.followed`: the entries at a point, each with the next one.
* `Model.EntersCollections`, `Model.build_enters_collections`: what this is at each point of a
  collection, for every traversal of a built model.
-/

namespace EntityModel

/-! ## Collections -/

def Point.isCollection : Point → Bool
  | .namespaces | .entityContainers | .complexTypes | .complexTypeProperties | .entityTypes
  | .declaredKeyProperties | .declaredProperties | .declaredNavigationProperties | .enumTypes
  | .enumMembers | .associationTypes | .entitySets | .associationSets | .functionGroups
  | .functionOverloads | .functionOverloadParameters | .functionImports
  | .functionImportParameters => true
  | _ => false

/-- The entries that a log makes of the items of a collection. A key names the property that is
visited for it. -/
def Call.itemEntries : Call → List Dispatch
  | namespaces _ items => items.map fun item => ⟨.ns, some item.name⟩
  | entityContainers _ items => items.map fun item => ⟨.entityContainer, some item.name⟩
  | complexTypes _ items => items.map fun item => ⟨.complexType, some item.name⟩
  | complexTypeProperties _ items => items.map fun item => ⟨.property, some item.name⟩
  | entityTypes _ items => items.map fun item => ⟨.entityType, some item.name⟩
  | declaredKeyProperties _ key => key.map fun name => ⟨.property, some name⟩
  | declaredProperties _ items => items.map fun item => ⟨.property, some item.name⟩
  | declaredNavigationProperties _ items =>
    items.map fun item => ⟨.navigationProperty, some item.name⟩
  | enumTypes _ items => items.map fun item => ⟨.enumType, some item.name⟩
  | enumMembers _ items => items.map fun item => ⟨.enumMember, some item.name⟩
  | associationTypes _ items => items.map fun item => ⟨.associationType, some item.name⟩
  | entitySets _ items => items.map fun item => ⟨.entitySet, some item.name⟩
  | associationSets _ items => items.map fun item => ⟨.associationSet, some item.name⟩
  | functionGroups _ items => items.map fun item => ⟨.functionGroup, some item.name⟩
  | functionOverloads _ items => items.map fun _ => ⟨.functionOverload, none⟩
  | functionOverloadParameters _ items => items.map fun item => ⟨.functionParameter, some item.name⟩
  | functionImports _ items => items.map fun item => ⟨.functionImport, some item.name⟩
  | functionImportParameters _ items => items.map fun item => ⟨.functionParameter, some item.name⟩
  | _ => []

def Call.isFilled (c : Call) : Bool :=
  !c.itemEntries.isEmpty

def ComplexType.collections (item : ComplexType) : List Call :=
  [.complexTypeProperties item item.properties]

def EntityType.collections (item : EntityType) : List Call :=
  [.declaredKeyProperties item item.key, .declaredProperties item item.properties,
    .declaredNavigationProperties item item.navigationProperties]

def EnumType.collections (item : EnumType) : List Call :=
  [.enumMembers item item.members]

def FunctionOverload.collections (item : FunctionOverload) : List Call :=
  [.functionOverloadParameters item item.parameters]

def FunctionGroup.collections (item : FunctionGroup) : List Call :=
  .functionOverloads item item.overloads :: item.overloads.flatMap FunctionOverload.collections

def FunctionImport.collections (item : FunctionImport) : List Call :=
  [.functionImportParameters item item.parameters]

/-- Association types own no collections. -/
def Namespace.collections (functions : Bool) (ns : Namespace) : List Call :=
  (.complexTypes ns ns.complexTypes :: ns.complexTypes.flatMap ComplexType.collections) ++
    (.entityTypes ns ns.entityTypes :: ns.entityTypes.flatMap EntityType.collections) ++
    (.enumTypes ns ns.enumTypes :: ns.enumTypes.flatMap EnumType.collections) ++
    [.associationTypes ns ns.associationTypes] ++
    if functions then
      .functionGroups ns ns.functionGroups :: ns.functionGroups.flatMap FunctionGroup.collections
    else []

def EntityContainer.collections (functions : Bool) (container : EntityContainer) : List Call :=
  [.entitySets container container.entitySets,
      .associationSets container container.associationSets] ++
    if functions then
      .functionImports container container.functionImports ::
        container.functionImports.flatMap FunctionImport.collections
    else []

def Model.collections (functions : Bool) (m : Model) : List Call :=
  (.namespaces m m.namespaces :: m.namespaces.flatMap (Namespace.collections functions)) ++
    (.entityContainers m m.containers ::
      m.containers.flatMap (EntityContainer.collections functions))

/-! ## Collections met in a run -/

def Call.met (route : Route) (c : Call) : List Call :=
  (c.opened route).filter (·.point.isCollection)

def Step.met (route : Route) (step : Step) : List Call :=
  (step.opened route).filter (·.point.isCollection)

/-- What is dispatched below members and tiers ranks below every collection. -/
theorem Point.le_rank_of_isCollection {point : Point} (h : point.isCollection = true) :
    Point.property.rank < point.rank := by
  revert h
  cases point <;> decide

section Met

variable {route : Route}

@[simp] theorem Step.met_enter (kind : NodeKind) (name? : Option String) :
    (enter kind name?).met route = [] := rfl

@[simp] theorem Step.met_call (target : Call) : (call target).met route = target.met route := rfl

@[simp] theorem Step.met_functions (target : Call) :
    (functions target).met route = if route.functions then target.met route else [] := by
  rw [met, opened, events]
  split <;> rfl

variable (hr : ∀ point, route.skips point = false)
include hr

theorem Call.met_of_collection {c : Call} (h : c.point.isCollection = true) :
    c.met route = c :: c.steps.flatMap (Step.met route) := by
  have hcons (rest : List Call) :
      (c :: rest).filter (·.point.isCollection) = c :: rest.filter (·.point.isCollection) :=
    List.filter_cons_of_pos h
  rw [met, opened_eq hr, hcons, List.filter_flatMap]
  rfl

theorem Call.met_of_node {c : Call} (h : c.point.isCollection = false) :
    c.met route = c.steps.flatMap (Step.met route) := by
  have hcons (rest : List Call) :
      (c :: rest).filter (·.point.isCollection) = rest.filter (·.point.isCollection) := by
    simp [h]
  rw [met, opened_eq hr, hcons, List.filter_flatMap]
  rfl

/-- Ranks fall along the descent. -/
theorem Call.met_eq_nil_of_rank {c : Call} (h : decide (c.rank ≤ Point.property.rank) = true) :
    c.met route = [] := by
  have hranks : ∀ d ∈ c.opened route, d.rank ≤ Point.property.rank :=
    forall_mem_opened hr (fun c hc _ hs _ ht =>
      Nat.le_of_lt (Nat.lt_of_lt_of_le (rank_lt_of_mem_steps hs ht) hc)) (of_decide_eq_true h)
  rw [met, List.filter_eq_nil_iff]
  intro d hd hcollection
  exact absurd (Point.le_rank_of_isCollection hcollection) (Nat.not_lt_of_le (hranks d hd))

/-- One rank further up, what is no collection has only members below it. -/
theorem Call.met_eq_nil_of_rank_succ {c : Call} (hc : c.point.isCollection = false)
    (h : decide (c.rank ≤ Point.property.rank + 1) = true) : c.met route = [] := by
  rw [met_of_node hr hc, List.flatMap_eq_nil_iff]
  intro step hs
  cases step with
  | enter | broken => rfl
  | call target | functions target =>
    have hrank := Nat.lt_of_lt_of_le (rank_lt_of_mem_steps hs rfl) (of_decide_eq_true h)
    have hnil : target.met route = [] :=
      met_eq_nil_of_rank hr (decide_eq_true (Nat.le_of_lt_succ hrank))
    simp [hnil]

theorem Step.met_unnamed (item : MetadataItem) : (unnamed item).flatMap (met route) = [] := by
  simp [unnamed, Call.met_eq_nil_of_rank hr (c := .metadataItem item) rfl]

theorem Step.met_named (item : NamedItem) : (named item).flatMap (met route) = [] := by
  simp [named, Call.met_eq_nil_of_rank hr (c := .namedItem item) rfl]

theorem Step.met_namespaced (item : NamedItem) : (namespaced item).flatMap (met route) = [] := by
  simp [namespaced, Call.met_eq_nil_of_rank hr (c := .namespaceItem item) rfl]

theorem Step.met_returnType (reference? : Option TypeReference) :
    (returnType reference?).flatMap (met route) = [] := by
  cases reference? with
  | none => rfl
  | some reference =>
    simp [returnType, Call.met_eq_nil_of_rank hr (c := .typeReference reference) rfl]

section Owned

variable {α : Type} {items : List α} (target : Call) (owned : α → List Call) {step : α → Step}
  (hc : target.point.isCollection = true) (hempty : target.itemEntries.isEmpty = items.isEmpty)
  (hsteps : target.steps = items.map step)
include hc hempty hsteps

/-- A collection is met if it holds something, and then what its items own. -/
theorem Step.met_unlessEmpty
    (howned : ∀ item, (step item).met route = (owned item).filter Call.isFilled) :
    (unlessEmpty items (call target)).flatMap (met route) =
      (target :: items.flatMap owned).filter Call.isFilled := by
  have hbelow : target.steps.flatMap (met route) = (items.flatMap owned).filter Call.isFilled := by
    rw [hsteps, List.flatMap_map, List.filter_flatMap]
    exact List.flatMap_congr fun item _ => howned item
  cases items with
  | nil => simp [unlessEmpty, Call.isFilled, hempty]
  | cons first rest =>
    simp only [unlessEmpty, List.isEmpty_cons, if_neg Bool.false_ne_true, List.flatMap_singleton,
      met_call, Call.met_of_collection hr hc, hbelow]
    simp [Call.isFilled, hempty]

theorem Step.met_unlessEmpty_functions
    (howned : ∀ item, (step item).met route = (owned item).filter Call.isFilled) :
    (unlessEmpty items (functions target)).flatMap (met route) =
      (if route.functions then target :: items.flatMap owned else []).filter Call.isFilled := by
  have hcall := met_unlessEmpty hr target owned hc hempty hsteps howned
  split
  · rename_i hon
    rw [← hcall]
    cases items <;> simp [unlessEmpty, hon]
  · rename_i hoff
    cases items <;> simp [unlessEmpty, hoff]

omit owned in
/-- The items of the collection own none. -/
theorem Step.met_unlessEmpty_leaves (hleaf : ∀ item, (step item).met route = []) :
    (unlessEmpty items (call target)).flatMap (met route) = [target].filter Call.isFilled := by
  rw [met_unlessEmpty hr target (fun _ => []) hc hempty hsteps hleaf,
    List.flatMap_eq_nil_iff.mpr fun _ _ => rfl]

end Owned

/-! ### Nodes -/

namespace Call

theorem met_complexType (item : ComplexType) :
    (complexType item).met route = item.collections.filter isFilled := by
  rw [met_of_node hr rfl, steps, List.flatMap_append, Step.met_namespaced hr, List.nil_append]
  exact Step.met_unlessEmpty_leaves hr _ rfl List.isEmpty_map rfl
    fun property => met_eq_nil_of_rank hr rfl

theorem met_entityType (item : EntityType) :
    (entityType item).met route = item.collections.filter isFilled := by
  have hproperty (property : Property) : (Step.call (.property property)).met route = [] :=
    met_eq_nil_of_rank hr rfl
  have hkey (name : String) : (Descent.keyProperty item name).met route = [] := by
    unfold Descent.keyProperty
    split
    · exact hproperty _
    · rfl
  have hnavigation (property : NavigationProperty) :
      (Step.call (.navigationProperty property)).met route = [] := met_eq_nil_of_rank hr rfl
  rw [met_of_node hr rfl, steps, List.flatMap_append, List.flatMap_append, List.flatMap_append,
    Step.met_namespaced hr,
    Step.met_unlessEmpty_leaves hr (.declaredKeyProperties item item.key) rfl List.isEmpty_map rfl
      hkey,
    Step.met_unlessEmpty_leaves hr (.declaredProperties item item.properties) rfl List.isEmpty_map
      rfl hproperty,
    Step.met_unlessEmpty_leaves hr
      (.declaredNavigationProperties item item.navigationProperties) rfl List.isEmpty_map rfl
      hnavigation, List.nil_append, ← List.filter_append, ← List.filter_append]
  rfl

theorem met_enumType (item : EnumType) :
    (enumType item).met route = item.collections.filter isFilled := by
  rw [met_of_node hr rfl, steps, List.flatMap_append, Step.met_namespaced hr, List.nil_append]
  exact Step.met_unlessEmpty_leaves hr _ rfl List.isEmpty_map rfl
    fun member => met_eq_nil_of_rank hr rfl

theorem met_associationType (owner : Namespace) (item : AssociationType) :
    (associationType owner item).met route = [] := by
  have hend (item : AssociationEnd) : (associationEnd item).met route = [] :=
    met_eq_nil_of_rank hr rfl
  have hconstraint (rule : AssociationConstraint) :
      (associationConstraint owner item rule).met route = [] := met_eq_nil_of_rank_succ hr rfl rfl
  rw [met_of_node hr rfl, steps, List.flatMap_append, List.flatMap_append, Step.met_namespaced hr]
  cases item.referentialConstraint with
  | none => simp [hend]
  | some rule => simp [hend, hconstraint]

theorem met_functionOverload (item : FunctionOverload) :
    (functionOverload item).met route = item.collections.filter isFilled := by
  rw [met_of_node hr rfl, steps, List.flatMap_append, List.flatMap_append, Step.met_unnamed hr,
    Step.met_returnType hr, List.nil_append, List.nil_append]
  exact Step.met_unlessEmpty_leaves hr _ rfl List.isEmpty_map rfl
    fun parameter => met_eq_nil_of_rank hr rfl

theorem met_functionGroup (item : FunctionGroup) :
    (functionGroup item).met route = item.collections.filter isFilled := by
  rw [met_of_node hr rfl, steps, List.flatMap_append, Step.met_namespaced hr, List.nil_append]
  exact Step.met_unlessEmpty hr _ _ rfl List.isEmpty_map rfl (met_functionOverload hr)

theorem met_functionImport (item : FunctionImport) :
    (functionImport item).met route = item.collections.filter isFilled := by
  rw [met_of_node hr rfl, steps, List.flatMap_append, List.flatMap_append, Step.met_named hr,
    Step.met_returnType hr, List.nil_append, List.nil_append]
  exact Step.met_unlessEmpty_leaves hr _ rfl List.isEmpty_map rfl
    fun parameter => met_eq_nil_of_rank hr rfl

theorem met_ns (item : Namespace) :
    (Call.ns item).met route = (item.collections route.functions).filter isFilled := by
  have hcomplex := Step.met_unlessEmpty hr (.complexTypes item item.complexTypes)
    ComplexType.collections rfl List.isEmpty_map rfl (met_complexType hr)
  have hentity := Step.met_unlessEmpty hr (.entityTypes item item.entityTypes)
    EntityType.collections rfl List.isEmpty_map rfl (met_entityType hr)
  have henum := Step.met_unlessEmpty hr (.enumTypes item item.enumTypes)
    EnumType.collections rfl List.isEmpty_map rfl (met_enumType hr)
  have hassociation := Step.met_unlessEmpty_leaves hr
    (.associationTypes item item.associationTypes) rfl List.isEmpty_map rfl
    (met_associationType hr item)
  have hgroup := Step.met_unlessEmpty_functions hr (.functionGroups item item.functionGroups)
    FunctionGroup.collections rfl List.isEmpty_map rfl (met_functionGroup hr)
  rw [met_of_node hr rfl, steps]
  simp only [List.flatMap_append]
  rw [Step.met_named hr, hcomplex, hentity, henum, hassociation, hgroup, List.nil_append]
  simp only [← List.filter_append]
  rfl

theorem met_entityContainer (item : EntityContainer) :
    (entityContainer item).met route = (item.collections route.functions).filter isFilled := by
  have hentity := Step.met_unlessEmpty_leaves hr (.entitySets item item.entitySets) rfl
    List.isEmpty_map rfl fun set => met_eq_nil_of_rank hr (c := .entitySet set) rfl
  have hassociation := Step.met_unlessEmpty_leaves hr
    (.associationSets item item.associationSets) rfl List.isEmpty_map rfl
    fun set => met_eq_nil_of_rank_succ hr (c := .associationSet item set) rfl rfl
  have himport := Step.met_unlessEmpty_functions hr (.functionImports item item.functionImports)
    FunctionImport.collections rfl List.isEmpty_map rfl (met_functionImport hr)
  rw [met_of_node hr rfl, steps]
  simp only [List.flatMap_append]
  rw [Step.met_named hr, hentity, hassociation, himport, List.nil_append]
  simp only [← List.filter_append]
  rfl

theorem met_model (m : Model) :
    (model m).met route = (m.collections route.functions).filter isFilled := by
  have hns := Step.met_unlessEmpty hr (.namespaces m m.namespaces)
    (Namespace.collections route.functions) rfl List.isEmpty_map rfl (met_ns hr)
  have hcontainer := Step.met_unlessEmpty hr (.entityContainers m m.containers)
    (EntityContainer.collections route.functions) rfl List.isEmpty_map rfl (met_entityContainer hr)
  rw [met_of_node hr rfl, steps]
  simp only [List.flatMap_append]
  rw [Step.met_named hr, hns, hcontainer, List.nil_append, ← List.filter_append]
  rfl

end Call

end Met

/-! ## First items -/

/-- Each collection is followed by a call that is recorded as its first item is. -/
def Led : List Call → Prop
  | [] => True
  | c :: rest =>
    (c.point.isCollection = true →
      ∃ next rest', rest = next :: rest' ∧ c.itemEntries.head? = some next.entry) ∧ Led rest

theorem Led.append {first second : List Call} (h : Led first) (h' : Led second) :
    Led (first ++ second) := by
  induction first with
  | nil => exact h'
  | cons c rest ih =>
    obtain ⟨hlead, hrest⟩ := h
    refine ⟨?_, ih hrest⟩
    intro hc
    obtain ⟨next, rest', rfl, hnext⟩ := hlead hc
    exact ⟨next, rest' ++ second, rfl, hnext⟩

theorem Led.flatMap {α : Type} {items : List α} {f : α → List Call}
    (h : ∀ item ∈ items, Led (f item)) : Led (items.flatMap f) := by
  induction items with
  | nil => trivial
  | cons item rest ih =>
    rw [List.forall_mem_cons] at h
    exact h.1.append (ih h.2)

/-- The first step of a collection leads to its first item. A key leads to a property of this name. -/
theorem Call.exists_steps_eq_cons {c : Call} (h : c.Sound) (hfilled : c.isFilled = true) :
    ∃ target rest, c.steps = .call target :: rest ∧
      c.itemEntries.head? = some target.entry := by
  cases c with
  | declaredKeyProperties owner key =>
    cases key with
    | nil => cases hfilled
    | cons name rest =>
      have hstep : Descent.keyProperty owner name ∈
          (declaredKeyProperties owner (name :: rest)).steps := List.mem_cons_self
      cases hfound : owner.findProperty? name with
      | none =>
        rw [Descent.keyProperty, hfound] at hstep
        exact absurd hstep (h.not_broken _)
      | some property =>
        refine ⟨.property property, rest.map (Descent.keyProperty owner), ?_, ?_⟩
        · rw [steps, List.map_cons, Descent.keyProperty, hfound]
        · rw [itemEntries, List.map_cons, List.head?_cons, ← (findNamed?_eq_some hfound).2]
          rfl
  | namespaces owner items | entityContainers owner items | complexTypes owner items
  | complexTypeProperties owner items | entityTypes owner items | declaredProperties owner items
  | declaredNavigationProperties owner items | enumTypes owner items | enumMembers owner items
  | associationTypes owner items | entitySets owner items | associationSets owner items
  | functionGroups owner items | functionOverloads owner items
  | functionOverloadParameters owner items | functionImports owner items
  | functionImportParameters owner items =>
    cases items with
    | nil => cases hfilled
    | cons item rest => exact ⟨_, _, rfl, rfl⟩
  | _ => cases hfilled

/-- Every call that is opened leads on to its steps, and the first of these is opened next. -/
theorem Call.led_opened {route : Route} (hr : ∀ point, route.skips point = false) {c : Call}
    (h : c.Sound)
    (hfilled : ∀ d ∈ c.opened route, d.point.isCollection = true → d.isFilled = true) :
    Led (c.opened route) := by
  induction c using Call.stepInduction with
  | h c ih =>
    rw [opened_eq hr, List.forall_mem_cons] at hfilled
    obtain ⟨hself, hbelow⟩ := hfilled
    have htarget : ∀ step ∈ c.steps, ∀ target, step.target? = some target →
        (∀ d ∈ target.opened route, d ∈ step.opened route) → Led (target.opened route) :=
      fun step hs target ht hsub => ih step hs target ht (h.target hs ht) fun d hd =>
        hbelow d (List.mem_flatMap.mpr ⟨step, hs, hsub d hd⟩)
    have hstep : ∀ step ∈ c.steps, Led (step.opened route) := by
      intro step hs
      cases step with
      | enter | broken => trivial
      | call target => exact htarget _ hs target rfl fun _ hd => hd
      | functions target =>
        cases hon : route.functions with
        | false => simp [Step.opened, Step.events, hon, Led]
        | true =>
          have hopened : (Step.functions target).opened route = target.opened route := by
            rw [Step.opened, Step.events, if_pos hon]
            rfl
          rw [hopened]
          exact htarget _ hs target rfl fun d hd => by rwa [hopened]
    rw [opened_eq hr]
    refine ⟨?_, Led.flatMap hstep⟩
    intro hc
    obtain ⟨target, rest, hsteps, hfirst⟩ := exists_steps_eq_cons h (hself hc)
    refine ⟨target, target.steps.flatMap (Step.opened route) ++
      rest.flatMap (Step.opened route), ?_, hfirst⟩
    rw [hsteps, List.flatMap_cons, Step.opened_call, opened_eq hr]
    rfl

theorem Call.led_model {m : Model} (h : (model m).Sound) (functions : Bool) :
    Led ((model m).opened { functions }) := by
  refine led_opened (fun _ => rfl) h fun d hd hc => ?_
  have hmet : d ∈ (model m).met { functions } := List.mem_filter.mpr ⟨hd, hc⟩
  rw [met_model fun _ => rfl] at hmet
  exact (List.mem_filter.mp hmet).2

/-! ## Entries and what follows them -/

/-- The entries at a point, each with the next one. -/
def followedAt (asked : Point) : List Dispatch → List (Dispatch × Option Dispatch)
  | [] => []
  | entry :: rest =>
    if entry.point = asked then (entry, rest.head?) :: followedAt asked rest
    else followedAt asked rest

/-- The entry of a collection, with that of its first item next. There is none for no items. -/
def leading (entry : Dispatch) (items : List Dispatch) : List (Dispatch × Option Dispatch) :=
  match items with
  | [] => []
  | first :: _ => [(entry, some first)]

def Call.leadingAt (asked : Point) (c : Call) : List (Dispatch × Option Dispatch) :=
  if c.point = asked then leading c.entry c.itemEntries else []

theorem map_fst_followedAt (asked : Point) (entries : List Dispatch) :
    (followedAt asked entries).map (·.1) = entries.filter fun entry => entry.point == asked := by
  induction entries with
  | nil => rfl
  | cons entry rest ih =>
    rw [followedAt, List.filter_cons]
    by_cases hp : entry.point = asked
    · simp [hp, ih]
    · simp [hp, ih]

theorem Led.followedAt_eq {asked : Point} (ha : asked.isCollection = true) {calls : List Call}
    (h : Led calls) :
    followedAt asked (calls.map Call.entry) = calls.flatMap (Call.leadingAt asked) := by
  induction calls with
  | nil => rfl
  | cons c rest ih =>
    obtain ⟨hlead, hrest⟩ := h
    have hpoint : c.entry.point = c.point := rfl
    rw [List.map_cons, followedAt, List.flatMap_cons, ← ih hrest, Call.leadingAt, hpoint]
    by_cases hp : c.point = asked
    · obtain ⟨next, rest', rfl, hnext⟩ := hlead (by rw [hp, ha])
      obtain ⟨items, hitems⟩ := List.head?_eq_some_iff.mp hnext
      rw [if_pos hp, if_pos hp, hitems]
      rfl
    · rw [if_neg hp, if_neg hp, List.nil_append]

theorem flatMap_filter_of_eq_nil {α β : Type} {p : α → Bool} {f : α → List β}
    (h : ∀ item, p item = false → f item = []) (items : List α) :
    (items.filter p).flatMap f = items.flatMap f := by
  induction items with
  | nil => rfl
  | cons item rest ih =>
    rw [List.filter_cons, List.flatMap_cons, ← ih]
    cases hp : p item with
    | false => simp [h item hp]
    | true => simp

theorem Call.leadingAt_of_not_collection {asked : Point} (ha : asked.isCollection = true) {c : Call}
    (h : c.point.isCollection = false) : c.leadingAt asked = [] := by
  rw [leadingAt, if_neg]
  rintro rfl
  rw [ha] at h
  cases h

theorem Call.leadingAt_of_not_filled {asked : Point} {c : Call} (h : c.isFilled = false) :
    c.leadingAt asked = [] := by
  have hitems : c.itemEntries = [] := by simpa [isFilled] using h
  rw [leadingAt, hitems]
  exact ite_self []

/-- Below a model the entries at the point of a collection are those of the collections that are not
empty, each followed by its first item. -/
theorem Model.followedAt_entries {m : Model} (h : (Call.model m).Sound) (functions : Bool)
    {asked : Point} (ha : asked.isCollection = true) :
    followedAt asked ((Call.model m).entries functions) =
      (m.collections functions).flatMap (Call.leadingAt asked) := by
  have hmet : ((Call.model m).opened { functions }).filter (·.point.isCollection) =
      (m.collections functions).filter Call.isFilled := Call.met_model (fun _ => rfl) m
  rw [Call.entries, (Call.led_model h functions).followedAt_eq ha,
    ← flatMap_filter_of_eq_nil (fun _ hc => Call.leadingAt_of_not_collection ha hc), hmet,
    flatMap_filter_of_eq_nil fun _ hc => Call.leadingAt_of_not_filled hc]

/-! ## Traversals -/

/-- The entries of a log at a point, each with the next one. -/
def DispatchLog.followed (log : DispatchLog) (point : Point) : List (Dispatch × Option Dispatch) :=
  followedAt point log.entries.toList

theorem DispatchLog.count_eq_length_followed (log : DispatchLog) (point : Point) :
    log.count point = (log.followed point).length := by
  rw [count, ← map_fst_followedAt, List.length_map]
  rfl

theorem DispatchLog.names_eq_filterMap_followed (log : DispatchLog) (point : Point) :
    log.names point = (log.followed point).filterMap (·.1.name?) := by
  rw [names, ← map_fst_followedAt, List.filterMap_map]
  rfl

/-- Each collection is entered once for each owner in which it is not empty, under the name of the
owner, and its first item is entered next. Overloads have no name. -/
structure Model.EntersCollections (m : Model) (functions : Bool)
    (followed : Point → List (Dispatch × Option Dispatch)) : Prop where
  namespaces : followed .namespaces =
    leading ⟨.namespaces, some m.name⟩ (m.namespaces.map fun ns => ⟨.ns, some ns.name⟩)
  entityContainers : followed .entityContainers =
    leading ⟨.entityContainers, some m.name⟩
      (m.containers.map fun container => ⟨.entityContainer, some container.name⟩)
  complexTypes : followed .complexTypes =
    m.namespaces.flatMap fun ns =>
      leading ⟨.complexTypes, some ns.name⟩
        (ns.complexTypes.map fun item => ⟨.complexType, some item.name⟩)
  entityTypes : followed .entityTypes =
    m.namespaces.flatMap fun ns =>
      leading ⟨.entityTypes, some ns.name⟩
        (ns.entityTypes.map fun item => ⟨.entityType, some item.name⟩)
  enumTypes : followed .enumTypes =
    m.namespaces.flatMap fun ns =>
      leading ⟨.enumTypes, some ns.name⟩ (ns.enumTypes.map fun item => ⟨.enumType, some item.name⟩)
  associationTypes : followed .associationTypes =
    m.namespaces.flatMap fun ns =>
      leading ⟨.associationTypes, some ns.name⟩
        (ns.associationTypes.map fun item => ⟨.associationType, some item.name⟩)
  complexTypeProperties : followed .complexTypeProperties =
    m.namespaces.flatMap fun ns =>
      ns.complexTypes.flatMap fun item =>
        leading ⟨.complexTypeProperties, some item.name⟩
          (item.properties.map fun property => ⟨.property, some property.name⟩)
  declaredKeyProperties : followed .declaredKeyProperties =
    m.namespaces.flatMap fun ns =>
      ns.entityTypes.flatMap fun item =>
        leading ⟨.declaredKeyProperties, some item.name⟩
          (item.key.map fun name => ⟨.property, some name⟩)
  declaredProperties : followed .declaredProperties =
    m.namespaces.flatMap fun ns =>
      ns.entityTypes.flatMap fun item =>
        leading ⟨.declaredProperties, some item.name⟩
          (item.properties.map fun property => ⟨.property, some property.name⟩)
  declaredNavigationProperties : followed .declaredNavigationProperties =
    m.namespaces.flatMap fun ns =>
      ns.entityTypes.flatMap fun item =>
        leading ⟨.declaredNavigationProperties, some item.name⟩
          (item.navigationProperties.map fun property => ⟨.navigationProperty, some property.name⟩)
  enumMembers : followed .enumMembers =
    m.namespaces.flatMap fun ns =>
      ns.enumTypes.flatMap fun item =>
        leading ⟨.enumMembers, some item.name⟩
          (item.members.map fun member => ⟨.enumMember, some member.name⟩)
  entitySets : followed .entitySets =
    m.containers.flatMap fun container =>
      leading ⟨.entitySets, some container.name⟩
        (container.entitySets.map fun set => ⟨.entitySet, some set.name⟩)
  associationSets : followed .associationSets =
    m.containers.flatMap fun container =>
      leading ⟨.associationSets, some container.name⟩
        (container.associationSets.map fun set => ⟨.associationSet, some set.name⟩)
  functionGroups : followed .functionGroups =
    if functions then
      m.namespaces.flatMap fun ns =>
        leading ⟨.functionGroups, some ns.name⟩
          (ns.functionGroups.map fun group => ⟨.functionGroup, some group.name⟩)
    else []
  functionOverloads : followed .functionOverloads =
    if functions then
      m.namespaces.flatMap fun ns =>
        ns.functionGroups.flatMap fun group =>
          leading ⟨.functionOverloads, some group.name⟩
            (group.overloads.map fun _ => ⟨.functionOverload, none⟩)
    else []
  functionOverloadParameters : followed .functionOverloadParameters =
    if functions then
      m.namespaces.flatMap fun ns =>
        ns.functionGroups.flatMap fun group =>
          group.overloads.flatMap fun overload =>
            leading ⟨.functionOverloadParameters, none⟩
              (overload.parameters.map fun parameter => ⟨.functionParameter, some parameter.name⟩)
    else []
  functionImports : followed .functionImports =
    if functions then
      m.containers.flatMap fun container =>
        leading ⟨.functionImports, some container.name⟩
          (container.functionImports.map fun item => ⟨.functionImport, some item.name⟩)
    else []
  functionImportParameters : followed .functionImportParameters =
    if functions then
      m.containers.flatMap fun container =>
        container.functionImports.flatMap fun item =>
          leading ⟨.functionImportParameters, some item.name⟩
            (item.parameters.map fun parameter => ⟨.functionParameter, some parameter.name⟩)
    else []

theorem Model.entersCollections_of_leadingAt {m : Model} {functions : Bool}
    {followed : Point → List (Dispatch × Option Dispatch)}
    (h : ∀ asked : Point, asked.isCollection = true →
      followed asked = (m.collections functions).flatMap (Call.leadingAt asked)) :
    m.EntersCollections functions followed := by
  have hnil {α : Type} (items : List α) :
      items.flatMap (fun _ => ([] : List (Dispatch × Option Dispatch))) = [] :=
    List.flatMap_eq_nil_iff.mpr fun _ _ => rfl
  constructor
  -- At one point all but the collections that belong there are gone.
  all_goals
    rw [h _ rfl]
    unfold collections Namespace.collections ComplexType.collections EntityType.collections
      EnumType.collections FunctionGroup.collections FunctionOverload.collections
      EntityContainer.collections FunctionImport.collections
    cases functions <;>
      simp [Call.leadingAt, Call.point, Call.entry, Call.name?, Call.itemEntries, hnil,
        List.flatMap_assoc]

theorem Model.build_enters_collections {name : String} {declarations : List Declaration} {m : Model}
    (h : build name declarations = .ok m) (config : TraversalConfig) :
    ∃ log, traverse DispatchLog.visitor m { config } = (.ok (), log) ∧
      m.EntersCollections config.functionsEnabled log.followed ∧
      ∀ point, log.count point = (log.followed point).length ∧
        log.names point = (log.followed point).filterMap (·.1.name?) := by
  refine ⟨_, DispatchLog.traverse_of_sound (sound_of_build h) { config }, ?_, ?_⟩
  · apply entersCollections_of_leadingAt
    intro asked ha
    rw [← followedAt_entries (sound_of_build h) _ ha]
    simp [DispatchLog.followed]
  · exact fun point =>
      ⟨DispatchLog.count_eq_length_followed _ point, DispatchLog.names_eq_filterMap_followed _ point⟩

theorem Model.build_enters_collections_shop :
    build "Shop" (shop "Customers") = .ok (assemble "Shop" (shop "Customers")) ∧
      ∃ log, traverse DispatchLog.visitor (assemble "Shop" (shop "Customers")) {} = (.ok (), log) ∧
        log.followed .complexTypes = [] ∧
        log.followed .declaredKeyProperties =
          [(⟨.declaredKeyProperties, some "Customer"⟩, some ⟨.property, some "Id"⟩),
            (⟨.declaredKeyProperties, some "Order"⟩, some ⟨.property, some "Id"⟩)] := by
  have hbuild : build "Shop" (shop "Customers") = .ok (assemble "Shop" (shop "Customers")) := rfl
  obtain ⟨log, hrun, hcollections, -⟩ := build_enters_collections hbuild {}
  exact ⟨hbuild, log, hrun, hcollections.complexTypes, hcollections.declaredKeyProperties⟩

end EntityModel
