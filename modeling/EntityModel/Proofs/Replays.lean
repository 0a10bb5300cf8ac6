import EntityModel.Proofs.RecordedNames
import EntityModel.Proofs.Segments

/-!
# EntityModel.Proofs.Replays

A visit by reference is recorded as the visit by ownership.

* `Step.dispatchedAt?`: what a step dispatches at a point, computed by `simp`.
* `Call.segments_owned`, `Call.pass_owned`: the segments of the items of a collection.
* `ReplaysOwned`: a visit by reference is recorded as the only owned visit under its name.
* `Model.Replays`: so it is for both ends of every association set, every name of a key, every
  dependent end and every dependent property, each in its own scope.
* `RevisitsOwned`: references lead to nothing that ownership does not lead to.
* `Model.build_replays`: both hold for every traversal of a built model.
-/

namespace EntityModel

/-! ## The calls one step below -/

section Computed

variable {on : Bool} {asked : Point}

/-- What the step dispatches at the point. -/
def Step.dispatchedAt? (on : Bool) (asked : Point) (step : Step) : Option Call :=
  (step.dispatched? on).filter fun d => d.point = asked

theorem Call.dispatchedAt_eq (c : Call) :
    c.dispatchedAt on asked = c.steps.filterMap (Step.dispatchedAt? on asked) := by
  rw [dispatchedAt, dispatched, List.filter_filterMap]
  rfl

@[simp] theorem Step.dispatchedAt?_enter (kind : NodeKind) (name? : Option String) :
    (enter kind name?).dispatchedAt? on asked = none := rfl

@[simp] theorem Step.dispatchedAt?_call (target : Call) :
    (call target).dispatchedAt? on asked =
      if target.point = asked then some target else none := by
  simp [dispatchedAt?, dispatched?, Option.filter]

@[simp] theorem Step.dispatchedAt?_functions (target : Call) :
    (functions target).dispatchedAt? on asked =
      if on = true ∧ target.point = asked then some target else none := by
  cases on <;> simp [dispatchedAt?, dispatched?, Option.filter]

@[simp] theorem Step.dispatchedAt?_broken (reference : BrokenReference) :
    (broken reference).dispatchedAt? on asked = none := rfl

@[simp] theorem Step.filterMap_unlessEmpty {α β : Type} (f : Step → Option β) (items : List α)
    (step : Step) :
    (unlessEmpty items step).filterMap f = if items.isEmpty then [] else (f step).toList := by
  unfold unlessEmpty
  split
  · rfl
  · rw [List.filterMap_eq_flatMap_toList, List.flatMap_singleton]

theorem Call.head?_entries (c : Call) : (c.entries on).head? = some c.entry := by
  rw [entries_eq_dispatched]
  rfl

end Computed

/-! ## Owned items -/

section Owned

variable {on : Bool} {α : Type} {items : List α} {f : α → Call} {c : Call}
  {collection item : Point}

/-- What is recorded of the items of collections one step below a call. -/
theorem Call.pass_entries (hc : c.point.isTier = false) (ht : collection.isTier = false)
    (ht' : item.isTier = false) (hnext : Point.isNext collection c.point = true)
    (hnext' : Point.isNext item collection = true) :
    pass collection item (c.entries on) =
      ((c.dispatchedAt on collection).flatMap (dispatchedAt on item)).map (entries on) := by
  have hbelow : ∀ d ∈ c.dispatchedAt on collection,
      segments item (d.entries on) = (d.dispatchedAt on item).map (entries on) := by
    intro d hd
    have hpoint : d.point = collection := of_decide_eq_true (List.mem_filter.mp hd).2
    rw [segments_entries ht' (by rw [hpoint, ht]),
      openedAt_eq_dispatchedAt ht' (by rw [hpoint, hnext'])]
  rw [pass, segments_entries ht hc, openedAt_eq_dispatchedAt ht hnext, List.flatMap_map,
    List.map_flatMap, List.flatMap_congr hbelow]

theorem Call.dispatchedAt_items (coll : Call) (hsteps : coll.steps = items.map fun i => .call (f i))
    (hpoint : ∀ i, (f i).point = item) : coll.dispatchedAt on item = items.map f := by
  have hstep (i : α) : (Step.call (f i)).dispatchedAt? on item = some (f i) := by
    rw [Step.dispatchedAt?_call, if_pos (hpoint i)]
  rw [dispatchedAt_eq, hsteps, List.filterMap_map]
  simp only [Function.comp_def, hstep]
  exact congrFun List.filterMap_eq_map' items

/-- A collection that is not empty passes through its items. -/
theorem Call.pass_owned (coll : Call) (hc : c.point.isTier = false)
    (ht : coll.point.isTier = false) (ht' : item.isTier = false)
    (hnext : Point.isNext coll.point c.point = true)
    (hnext' : Point.isNext item coll.point = true)
    (hcoll : c.dispatchedAt on coll.point = if items.isEmpty then [] else [coll])
    (hsteps : coll.steps = items.map fun i => .call (f i)) (hpoint : ∀ i, (f i).point = item) :
    pass coll.point item (c.entries on) = items.map fun i => (f i).entries on := by
  rw [pass_entries hc ht ht' hnext hnext', hcoll]
  cases items with
  | nil => rfl
  | cons first rest =>
    rw [List.isEmpty_cons, if_neg Bool.false_ne_true, List.flatMap_singleton,
      dispatchedAt_items coll hsteps hpoint, List.map_map]
    rfl

/-- If there is no other way to the items, their segments are found without the collection. -/
theorem Call.segments_owned (coll : Call) (hc : c.point.isTier = false)
    (ht : coll.point.isTier = false) (ht' : item.isTier = false)
    (hnext : Point.isNext coll.point c.point = true)
    (hnext' : Point.isNext item coll.point = true)
    (hcoll : c.dispatchedAt on coll.point = if items.isEmpty then [] else [coll])
    (hsteps : coll.steps = items.map fun i => .call (f i)) (hpoint : ∀ i, (f i).point = item)
    (hway : Point.reaches coll.point item (c.rank + 1) c.point = false) :
    segments item (c.entries on) = items.map fun i => (f i).entries on := by
  rw [segments_eq_flatMap ht' ht hc hway]
  exact pass_owned coll hc ht ht' hnext hnext' hcoll hsteps hpoint

end Owned

section Nodes

variable {on : Bool}

theorem Call.segments_entityContainer (m : Model) :
    segments .entityContainer ((model m).entries on) =
      m.containers.map fun item => (entityContainer item).entries on :=
  segments_owned (.entityContainers m m.containers) rfl rfl rfl rfl rfl
    (by simp [dispatchedAt_eq, steps, Step.named, List.filterMap_cons, point]) rfl (fun _ => rfl)
    rfl

theorem Call.segments_ns (m : Model) :
    segments .ns ((model m).entries on) = m.namespaces.map fun item => (ns item).entries on :=
  segments_owned (.namespaces m m.namespaces) rfl rfl rfl rfl rfl
    (by simp [dispatchedAt_eq, steps, Step.named, List.filterMap_cons, point]) rfl (fun _ => rfl)
    rfl

theorem Call.segments_entityType (owner : Namespace) :
    segments .entityType ((ns owner).entries on) =
      owner.entityTypes.map fun item => (entityType item).entries on :=
  segments_owned (.entityTypes owner owner.entityTypes) rfl rfl rfl rfl rfl
    (by simp [dispatchedAt_eq, steps, Step.named, List.filterMap_cons, point]) rfl (fun _ => rfl)
    rfl

theorem Call.segments_associationType (owner : Namespace) :
    segments .associationType ((ns owner).entries on) =
      owner.associationTypes.map fun item => (associationType owner item).entries on :=
  segments_owned (.associationTypes owner owner.associationTypes) rfl rfl rfl rfl rfl
    (by simp [dispatchedAt_eq, steps, Step.named, List.filterMap_cons, point]) rfl (fun _ => rfl)
    rfl

theorem Call.segments_associationSet (owner : EntityContainer) :
    segments .associationSet ((entityContainer owner).entries on) =
      owner.associationSets.map fun item => (associationSet owner item).entries on :=
  segments_owned (.associationSets owner owner.associationSets) rfl rfl rfl rfl rfl
    (by simp [dispatchedAt_eq, steps, Step.named, List.filterMap_cons, point]) rfl (fun _ => rfl)
    rfl

theorem Call.pass_entitySets (owner : EntityContainer) :
    pass .entitySets .entitySet ((entityContainer owner).entries on) =
      owner.entitySets.map fun item => (entitySet item).entries on :=
  pass_owned (.entitySets owner owner.entitySets) rfl rfl rfl rfl rfl
    (by simp [dispatchedAt_eq, steps, Step.named, List.filterMap_cons, point]) rfl fun _ => rfl

theorem Call.pass_declaredProperties (owner : EntityType) :
    pass .declaredProperties .property ((entityType owner).entries on) =
      owner.properties.map fun item => (property item).entries on :=
  pass_owned (.declaredProperties owner owner.properties) rfl rfl rfl rfl rfl
    (by simp [dispatchedAt_eq, steps, Step.namespaced, List.filterMap_cons, point]) rfl fun _ => rfl

/-! ## Followed references -/

/-- The properties that the names of a key find. -/
theorem Call.pass_declaredKeyProperties (owner : EntityType) :
    pass .declaredKeyProperties .property ((entityType owner).entries on) =
      (owner.key.filterMap owner.findProperty?).map fun item => (property item).entries on := by
  have hkeys : (entityType owner).dispatchedAt on .declaredKeyProperties =
      if owner.key.isEmpty then [] else [declaredKeyProperties owner owner.key] := by
    simp [dispatchedAt_eq, steps, Step.namespaced, List.filterMap_cons, point]
  have hstep (name : String) : (Descent.keyProperty owner name).dispatchedAt? on .property =
      (owner.findProperty? name).map property := by
    unfold Descent.keyProperty
    cases owner.findProperty? name with
    | none => rfl
    | some found => simp [point]
  have hfound : (declaredKeyProperties owner owner.key).dispatchedAt on .property =
      (owner.key.filterMap owner.findProperty?).map property := by
    rw [dispatchedAt_eq, steps, List.filterMap_map, List.map_filterMap]
    simp only [Function.comp_def, hstep]
  rw [pass_entries rfl rfl rfl rfl rfl, hkeys]
  cases hk : owner.key with
  | nil => rfl
  | cons first rest =>
    rw [List.isEmpty_cons, if_neg Bool.false_ne_true, List.flatMap_singleton, ← hk, hfound,
      List.map_map]
    rfl

theorem Call.segments_associationSetEnd {owner : EntityContainer} {item : AssociationSet}
    {source target : EntitySet} (hs : owner.findEntitySet? item.source = some source)
    (ht : owner.findEntitySet? item.target = some target) :
    segments .associationSetEnd ((associationSet owner item).entries on) =
      [(associationSetEnd source).entries on, (associationSetEnd target).entries on] := by
  have hends : (associationSet owner item).dispatchedAt on .associationSetEnd =
      [associationSetEnd source, associationSetEnd target] := by
    simp [dispatchedAt_eq, steps, Step.named, List.filterMap_cons, point, Descent.setEnd, hs, ht]
  rw [segments_entries rfl rfl, openedAt_eq_dispatchedAt rfl rfl, hends]
  rfl

/-! ## Associations -/

theorem Call.segments_associationConstraint (owner : Namespace) (item : AssociationType) :
    segments .associationConstraint ((associationType owner item).entries on) =
      item.referentialConstraint.toList.map fun rule =>
        (associationConstraint owner item rule).entries on := by
  have hrules : (associationType owner item).dispatchedAt on .associationConstraint =
      item.referentialConstraint.toList.map (associationConstraint owner item) := by
    rw [dispatchedAt_eq, steps]
    cases item.referentialConstraint with
    | none => simp [Step.namespaced, List.filterMap_cons, point]
    | some rule => simp [Step.namespaced, List.filterMap_cons, point]
  rw [segments_entries rfl rfl, openedAt_eq_dispatchedAt rfl rfl, hrules, List.map_map]
  rfl

theorem Call.openedAt_associationEnd_constraint (owner : Namespace) (item : AssociationType)
    (rule : AssociationConstraint) :
    (associationConstraint owner item rule).openedAt on .associationEnd =
      [associationEnd (item.endOf rule.dependentEnd)] := by
  have hproperties : (Descent.dependentProperties owner item rule).filterMap
      (Step.dispatchedAt? on .associationEnd) = [] := by
    rw [List.filterMap_eq_nil_iff]
    exact Descent.forall_mem_dependentProperties (fun _ => by simp [point])
      Step.dispatchedAt?_broken owner item rule
  rw [openedAt_eq_dispatchedAt rfl rfl]
  simp [dispatchedAt_eq, steps, Step.unnamed, List.filterMap_cons, point, hproperties]

/-- The properties that the names of a constraint find. -/
theorem Call.segments_property_constraint {owner : Namespace} {item : AssociationType}
    {rule : AssociationConstraint} {entity : EntityType}
    (he : owner.findEntityType? (item.endOf rule.dependentEnd).entityType = some entity) :
    segments .property ((associationConstraint owner item rule).entries on) =
      (rule.dependentProperties.filterMap entity.findProperty?).map fun property =>
        (Call.property property).entries on := by
  have hstep (name : String) :
      (Descent.dependentProperty item entity name).dispatchedAt? on .property =
        (entity.findProperty? name).map property := by
    unfold Descent.dependentProperty
    cases entity.findProperty? name with
    | none => rfl
    | some found => simp [point]
  have hproperties : (Descent.dependentProperties owner item rule).filterMap
      (Step.dispatchedAt? on .property) =
        (rule.dependentProperties.filterMap entity.findProperty?).map property := by
    unfold Descent.dependentProperties
    cases hp : rule.dependentProperties with
    | nil => rfl
    | cons first rest =>
      simp only [List.isEmpty_cons, Bool.false_eq_true, if_false, he]
      rw [List.filterMap_map, List.map_filterMap]
      simp only [Function.comp_def, hstep]
  have hfound : (associationConstraint owner item rule).dispatchedAt on .property =
      (rule.dependentProperties.filterMap entity.findProperty?).map property := by
    simp [dispatchedAt_eq, steps, Step.unnamed, List.filterMap_cons, point, hproperties]
  rw [segments_entries rfl rfl, openedAt_eq_dispatchedAt rfl rfl, hfound, List.map_map]
  rfl

theorem Call.segments_associationEnd_constraint (owner : Namespace) (item : AssociationType)
    (rule : AssociationConstraint) :
    segments .associationEnd ((associationConstraint owner item rule).entries on) =
      [(associationEnd (item.endOf rule.dependentEnd)).entries on] := by
  rw [segments_entries rfl rfl, openedAt_associationEnd_constraint]
  rfl

/-- The two ends that an association type owns come before the one that its constraint visits. -/
theorem Call.segments_associationEnd (owner : Namespace) (item : AssociationType) :
    segments .associationEnd ((associationType owner item).entries on) =
      (associationEnd item.source).entries on :: (associationEnd item.target).entries on ::
        item.referentialConstraint.toList.map fun rule =>
          (associationEnd (item.endOf rule.dependentEnd)).entries on := by
  have hdispatched : (associationType owner item).dispatched on =
      namespaceItem (EntityModel.namedItem item) :: associationEnd item.source ::
        associationEnd item.target ::
          item.referentialConstraint.toList.map (associationConstraint owner item) := by
    rw [dispatched, steps]
    cases item.referentialConstraint with
    | none => rfl
    | some rule => rfl
  have htier : (namespaceItem (EntityModel.namedItem item)).openedAt on .associationEnd = [] :=
    openedAt_of_isTier rfl rfl
  have hend (place : AssociationEnd) :
      (associationEnd place).openedAt on .associationEnd = [associationEnd place] :=
    openedAt_of_eq rfl
  have hne : (associationType owner item).point ≠ .associationEnd := by
    rw [point]
    decide
  rw [segments_entries rfl rfl, openedAt_of_ne hne, hdispatched]
  cases item.referentialConstraint with
  | none => simp [htier, hend]
  | some rule => simp [htier, hend, openedAt_associationEnd_constraint]

end Nodes

/-! ## Under a name -/

/-- The segments that begin with an entry at the point under the name. -/
def under (point : Point) (name : String) (all : List (List Dispatch)) : List (List Dispatch) :=
  all.filter fun segment => segment.head? = some ⟨point, some name⟩

/-- A visit by reference is recorded at its point under the name. Apart from the point of its first
entry it is recorded as the only owned visit under the name. -/
def ReplaysOwned (point owned : Point) (originals : List (List Dispatch)) (name : String)
    (segment : List Dispatch) : Prop :=
  ∃ rest, segment = ⟨point, some name⟩ :: rest ∧
    under owned name originals = [⟨owned, some name⟩ :: rest]

section Named

variable {α : Type} [NamedNode α] {items : List α} {name : String} {found : α}

theorem filter_named_eq (hn : (items.map NamedNode.name).Nodup)
    (hf : findNamed? name items = some found) :
    (items.filter fun item => NamedNode.name item = name) = [found] := by
  induction items with
  | nil => cases hf
  | cons first rest ih =>
    obtain ⟨hfirst, hrest⟩ := List.nodup_cons.mp hn
    by_cases hname : NamedNode.name first = name
    · have hfound : first = found := by simpa [findNamed?, hname] using hf
      have hnone : (rest.filter fun item => NamedNode.name item = name) = [] := by
        rw [List.filter_eq_nil_iff]
        intro item hmem heq
        refine hfirst (List.mem_map.mpr ⟨item, hmem, ?_⟩)
        rw [of_decide_eq_true heq, hname]
      rw [List.filter_cons_of_pos (by simpa using hname), hnone, hfound]
    · have hf' : findNamed? name rest = some found := by simpa [findNamed?, hname] using hf
      rw [List.filter_cons_of_neg (by simpa using hname), ih hrest hf']

variable {on : Bool} {point owned : Point} {f g : α → Call}

/-- Where names are distinct, one segment stands under each. -/
theorem under_eq (hn : (items.map NamedNode.name).Nodup) (hf : findNamed? name items = some found)
    (hentry : ∀ item, (f item).entry = ⟨point, some (NamedNode.name item)⟩) :
    under point name (items.map fun item => (f item).entries on) = [(f found).entries on] := by
  have hhead (item : α) :
      ((f item).entries on).head? = some ⟨point, some (NamedNode.name item)⟩ := by
    rw [Call.head?_entries, hentry]
  have hsame : ((fun segment : List Dispatch => decide (segment.head? = some ⟨point, some name⟩)) ∘
      fun item => (f item).entries on) = fun item => decide (NamedNode.name item = name) := by
    funext item
    simp [hhead]
  rw [under, List.filter_map, hsame, filter_named_eq hn hf, List.map_singleton]

theorem replaysOwned_of_found (hn : (items.map NamedNode.name).Nodup)
    (hf : findNamed? name items = some found)
    (howned : ∀ item, (f item).entry = ⟨owned, some (NamedNode.name item)⟩)
    (hentry : ∀ item, (g item).entry = ⟨point, some (NamedNode.name item)⟩)
    (hsteps : ∀ item, (g item).steps = (f item).steps) :
    ReplaysOwned point owned (items.map fun item => (f item).entries on) name
      ((g found).entries on) := by
  have hname := (findNamed?_eq_some hf).2
  refine ⟨(f found).steps.flatMap (Step.entries on), ?_, ?_⟩
  · rw [Call.entries_eq, hentry, hname, hsteps]
  · rw [under_eq hn hf howned, Call.entries_eq, howned, hname]

theorem forall₂_replaysOwned (hn : (items.map NamedNode.name).Nodup)
    (howned : ∀ item, (f item).entry = ⟨owned, some (NamedNode.name item)⟩)
    (hentry : ∀ item, (g item).entry = ⟨point, some (NamedNode.name item)⟩)
    (hsteps : ∀ item, (g item).steps = (f item).steps) {names : List String}
    (hcalled : ∀ name ∈ names, Called name items) :
    List.Forall₂ (ReplaysOwned point owned (items.map fun item => (f item).entries on)) names
      ((names.filterMap fun name => findNamed? name items).map fun item =>
        (g item).entries on) := by
  induction names with
  | nil => exact .nil
  | cons name rest ih =>
    obtain ⟨hname, hrest⟩ := List.forall_mem_cons.mp hcalled
    obtain ⟨found, hf⟩ := Option.isSome_iff_exists.mp (findNamed?_isSome_iff.mpr hname)
    have hcons : (name :: rest).filterMap (fun name => findNamed? name items) =
        found :: rest.filterMap fun name => findNamed? name items := List.filterMap_cons_some hf
    rw [hcons]
    exact .cons (replaysOwned_of_found hn hf howned hentry hsteps) (ih hrest)

end Named

/-! ## What a log replays -/

/-- Both ends are entity sets of the same container. -/
structure AssociationSet.Replays (sets : List (List Dispatch)) (item : AssociationSet)
    (segment : List Dispatch) : Prop where
  head : segment.head? = some ⟨.associationSet, some item.name⟩
  ends : List.Forall₂ (ReplaysOwned .associationSetEnd .entitySet sets) [item.source, item.target]
    (segments .associationSetEnd segment)

structure EntityContainer.Replays (item : EntityContainer) (segment : List Dispatch) : Prop where
  head : segment.head? = some ⟨.entityContainer, some item.name⟩
  associationSets :
    List.Forall₂ (AssociationSet.Replays (pass .entitySets .entitySet segment))
      item.associationSets (segments .associationSet segment)

/-- The names of the key are properties that the same entity type declares. -/
structure EntityType.Replays (item : EntityType) (segment : List Dispatch) : Prop where
  head : segment.head? = some ⟨.entityType, some item.name⟩
  keys : List.Forall₂
    (ReplaysOwned .property .property (pass .declaredProperties .property segment)) item.key
    (pass .declaredKeyProperties .property segment)

/-- The dependent end is the owned end of its role, and the dependent properties are declared by the
entity type of this end, the only one under its name. -/
def AssociationConstraint.Replays (entities : List (List Dispatch)) (ends : EndRole → List Dispatch)
    (association : AssociationType) (rule : AssociationConstraint) (segment : List Dispatch) :
    Prop :=
  segments .associationEnd segment = [ends rule.dependentEnd] ∧
    ∃ entity,
      under .entityType (association.endOf rule.dependentEnd).entityType entities = [entity] ∧
      List.Forall₂
        (ReplaysOwned .property .property (pass .declaredProperties .property entity))
        rule.dependentProperties (segments .property segment)

/-- The two owned ends come first, and the one that the constraint visits comes after them. -/
def AssociationType.Replays (entities : List (List Dispatch)) (item : AssociationType)
    (segment : List Dispatch) : Prop :=
  segment.head? = some ⟨.associationType, some item.name⟩ ∧ ∃ ends : EndRole → List Dispatch,
    (∀ role, (ends role).head? = some ⟨.associationEnd, some (item.endOf role).name⟩) ∧
    segments .associationEnd segment =
      ends .source :: ends .target ::
        item.referentialConstraint.toList.map (fun rule => ends rule.dependentEnd) ∧
    List.Forall₂ (AssociationConstraint.Replays entities ends item)
      item.referentialConstraint.toList (segments .associationConstraint segment)

/-- Dependent properties are sought in the same namespace. -/
structure Namespace.Replays (item : Namespace) (segment : List Dispatch) : Prop where
  head : segment.head? = some ⟨.ns, some item.name⟩
  entityTypes : List.Forall₂ EntityType.Replays item.entityTypes (segments .entityType segment)
  associationTypes :
    List.Forall₂ (AssociationType.Replays (segments .entityType segment)) item.associationTypes
      (segments .associationType segment)

structure Model.Replays (m : Model) (log : List Dispatch) : Prop where
  containers :
    List.Forall₂ EntityContainer.Replays m.containers (segments .entityContainer log)
  namespaces : List.Forall₂ Namespace.Replays m.namespaces (segments .ns log)

theorem forall₂_map_same {α β : Type} {R : α → β → Prop} {items : List α} {f : α → β}
    (h : ∀ item ∈ items, R item (f item)) : List.Forall₂ R items (items.map f) :=
  List.forall₂_map_right_iff.mpr (List.forall₂_same.mpr h)

section Built

variable {on : Bool} {m : Model}

theorem EntityContainer.replays_entries {item : EntityContainer} (hc : item.Consistent m)
    (ht : item.Traversable) : item.Replays ((Call.entityContainer item).entries on) := by
  have hsets : (item.entitySets.map NamedNode.name).Nodup :=
    (hc.scope.sublist ((List.sublist_append_left ..).trans
      (List.sublist_append_left ..))).nodup_map
  have hend {name : String} {set : EntitySet} (hf : item.findEntitySet? name = some set) :
      ReplaysOwned .associationSetEnd .entitySet
        (item.entitySets.map fun set => (Call.entitySet set).entries on) name
        ((Call.associationSetEnd set).entries on) :=
    replaysOwned_of_found hsets hf (fun _ => rfl) (fun _ => rfl) fun _ => rfl
  refine ⟨Call.head?_entries _, ?_⟩
  rw [Call.segments_associationSet, Call.pass_entitySets]
  refine forall₂_map_same fun association hmem => ⟨Call.head?_entries _, ?_⟩
  obtain ⟨source, hsource⟩ := Option.isSome_iff_exists.mp
    (findNamed?_isSome_iff.mpr (ht.sources association hmem))
  obtain ⟨target, htarget⟩ := Option.isSome_iff_exists.mp
    (findNamed?_isSome_iff.mpr (ht.targets association hmem))
  rw [Call.segments_associationSetEnd hsource htarget]
  exact .cons (hend hsource) (.cons (hend htarget) .nil)

theorem EntityType.nodup_properties {ns : Namespace} {item : EntityType}
    (h : item.Consistent m ns) : (item.properties.map NamedNode.name).Nodup :=
  (h.scope.sublist (List.sublist_append_left ..)).nodup_map

theorem EntityType.replays_entries {ns : Namespace} {item : EntityType}
    (hc : item.Consistent m ns) (hkeys : ∀ key ∈ item.key, Called key item.properties) :
    item.Replays ((Call.entityType item).entries on) := by
  refine ⟨Call.head?_entries _, ?_⟩
  rw [Call.pass_declaredKeyProperties, Call.pass_declaredProperties]
  exact forall₂_replaysOwned (nodup_properties hc) (fun _ => rfl) (fun _ => rfl) (fun _ => rfl)
    hkeys

theorem AssociationType.replays_entries {ns : Namespace} {item : AssociationType}
    (hns : ns.Consistent m) (ht : ns.Traversable) (hmem : item ∈ ns.associationTypes) :
    item.Replays (ns.entityTypes.map fun entity => (Call.entityType entity).entries on)
      ((Call.associationType ns item).entries on) := by
  have hentities : (ns.entityTypes.map NamedNode.name).Nodup :=
    (hns.scope.sublist ns.sublist_entityTypes).nodup_map
  refine ⟨Call.head?_entries _, fun role => (Call.associationEnd (item.endOf role)).entries on,
    fun _ => Call.head?_entries _, ?_, ?_⟩
  · exact Call.segments_associationEnd ns item
  · rw [Call.segments_associationConstraint]
    refine forall₂_map_same fun rule hrule => ?_
    rw [Option.mem_toList] at hrule
    obtain ⟨entity, hentity⟩ :=
      (hns.associationTypes item hmem).exists_entityType rule.dependentEnd
    refine ⟨Call.segments_associationEnd_constraint ns item rule,
      (Call.entityType entity).entries on, under_eq hentities hentity fun _ => rfl, ?_⟩
    have hproperties := EntityType.nodup_properties
      (hns.entityTypes entity (findNamed?_eq_some hentity).1)
    rw [Call.segments_property_constraint hentity, Call.pass_declaredProperties]
    refine forall₂_replaysOwned hproperties (fun _ => rfl) (fun _ => rfl) (fun _ => rfl) ?_
    intro property hproperty
    obtain ⟨found, hfound, hcalled⟩ := ht.dependents item hmem rule hrule property hproperty
    cases hentity.symm.trans hfound
    exact hcalled

theorem Namespace.replays_entries {item : Namespace} (hc : item.Consistent m)
    (ht : item.Traversable) : item.Replays ((Call.ns item).entries on) where
  head := Call.head?_entries _
  entityTypes := by
    rw [Call.segments_entityType]
    exact forall₂_map_same fun entity hmem =>
      EntityType.replays_entries (hc.entityTypes entity hmem) (ht.keys entity hmem)
  associationTypes := by
    rw [Call.segments_entityType, Call.segments_associationType]
    exact forall₂_map_same fun association hmem =>
      AssociationType.replays_entries hc ht hmem

theorem Model.replays_entries (h : m.WellFormed) : m.Replays ((Call.model m).entries on) where
  containers := by
    rw [Call.segments_entityContainer]
    exact forall₂_map_same fun container hmem =>
      EntityContainer.replays_entries (h.consistent.containers container hmem)
        (h.traversable.containers container hmem)
  namespaces := by
    rw [Call.segments_ns]
    exact forall₂_map_same fun ns hmem =>
      Namespace.replays_entries (h.consistent.namespaces ns hmem)
        (h.traversable.namespaces ns hmem)

end Built

/-! ## Nothing but what is owned -/

/-- What is recorded of a visit by reference is recorded of a visit by ownership too. -/
structure RevisitsOwned (log : List Dispatch) : Prop where
  keys : ∀ segment ∈ pass .declaredKeyProperties .property log,
    segment ∈ pass .declaredProperties .property log
  dependents : ∀ segment ∈ pass .associationConstraint .property log,
    segment ∈ pass .declaredProperties .property log
  /-- The ends that an association type owns come first. -/
  ends : ∀ association ∈ segments .associationType log,
    ∀ segment ∈ pass .associationConstraint .associationEnd association,
      segment ∈ (segments .associationEnd association).take 2
  sets : ∀ segment ∈ segments .associationSetEnd log, ∃ name rest,
    segment = ⟨.associationSetEnd, some name⟩ :: rest ∧
      ⟨.entitySet, some name⟩ :: rest ∈ pass .entitySets .entitySet log

theorem exists_of_forall₂ {α β : Type} {R : α → β → Prop} {items : List α} {others : List β}
    (h : List.Forall₂ R items others) {other : β} (hmem : other ∈ others) :
    ∃ item ∈ items, R item other := by
  induction h with
  | nil => cases hmem
  | cons hfirst _ ih =>
    rcases List.mem_cons.mp hmem with rfl | hmem
    · exact ⟨_, List.mem_cons_self, hfirst⟩
    · obtain ⟨item, hitem, hrelated⟩ := ih hmem
      exact ⟨item, List.mem_cons_of_mem _ hitem, hrelated⟩

theorem ReplaysOwned.exists_mem {point owned : Point} {originals : List (List Dispatch)}
    {name : String} {segment : List Dispatch}
    (h : ReplaysOwned point owned originals name segment) :
    ∃ rest, segment = ⟨point, some name⟩ :: rest ∧ ⟨owned, some name⟩ :: rest ∈ originals := by
  obtain ⟨rest, hsegment, hunder⟩ := h
  have hmem : ⟨owned, some name⟩ :: rest ∈ under owned name originals := by
    rw [hunder]
    exact List.mem_singleton_self _
  exact ⟨rest, hsegment, List.mem_of_mem_filter hmem⟩

namespace Model.Replays

variable {on : Bool} {m : Model}

theorem mem_declaredProperties {entity segment : List Dispatch}
    (hentity : entity ∈ segments .entityType ((Call.model m).entries on))
    (h : segment ∈ pass .declaredProperties .property entity) :
    segment ∈ pass .declaredProperties .property ((Call.model m).entries on) := by
  have hthrough : pass .declaredProperties .property ((Call.model m).entries on) =
      (segments .entityType ((Call.model m).entries on)).flatMap
        (pass .declaredProperties .property) :=
    Call.pass_eq_flatMap (n := 13) rfl rfl rfl _ rfl
  rw [hthrough]
  exact List.mem_flatMap.mpr ⟨entity, hentity, h⟩

/-- Entity types and association types lie in namespaces. -/
theorem exists_ns (h : m.Replays ((Call.model m).entries on)) {point : Point}
    (hp : point.isTier = false) (hway : Point.reaches .ns point 13 .model = false)
    {segment : List Dispatch} (hs : segment ∈ segments point ((Call.model m).entries on)) :
    ∃ ns within, Namespace.Replays ns within ∧ segment ∈ segments point within ∧
      ∀ entity ∈ segments .entityType within,
        entity ∈ segments .entityType ((Call.model m).entries on) := by
  have hthrough (q : Point) (hq : q.isTier = false)
      (hway : Point.reaches .ns q 13 .model = false) :
      segments q ((Call.model m).entries on) =
        (segments .ns ((Call.model m).entries on)).flatMap (segments q) :=
    Call.segments_eq_flatMap hq rfl rfl hway
  rw [hthrough point hp hway] at hs
  obtain ⟨within, hns, hs⟩ := List.mem_flatMap.mp hs
  obtain ⟨ns, -, hreplays⟩ := exists_of_forall₂ h.namespaces hns
  refine ⟨ns, within, hreplays, hs, fun entity hentity => ?_⟩
  rw [hthrough .entityType rfl rfl]
  exact List.mem_flatMap.mpr ⟨within, hns, hentity⟩

theorem revisitsOwned (h : m.Replays ((Call.model m).entries on)) :
    RevisitsOwned ((Call.model m).entries on) where
  keys := by
    intro segment hs
    have hthrough : pass .declaredKeyProperties .property ((Call.model m).entries on) =
        (segments .entityType ((Call.model m).entries on)).flatMap
          (pass .declaredKeyProperties .property) :=
      Call.pass_eq_flatMap (n := 13) rfl rfl rfl _ rfl
    rw [hthrough] at hs
    obtain ⟨entity, hentity, hs⟩ := List.mem_flatMap.mp hs
    obtain ⟨ns, within, hns, hwithin, -⟩ := h.exists_ns rfl rfl hentity
    obtain ⟨item, -, hitem⟩ := exists_of_forall₂ hns.entityTypes hwithin
    obtain ⟨key, -, hkey⟩ := exists_of_forall₂ hitem.keys hs
    obtain ⟨rest, rfl, hmem⟩ := hkey.exists_mem
    exact mem_declaredProperties hentity hmem
  dependents := by
    intro segment hs
    have hthrough : pass .associationConstraint .property ((Call.model m).entries on) =
        (segments .associationType ((Call.model m).entries on)).flatMap
          (pass .associationConstraint .property) :=
      Call.pass_eq_flatMap (n := 13) rfl rfl rfl _ rfl
    rw [hthrough] at hs
    obtain ⟨association, hassociation, hs⟩ := List.mem_flatMap.mp hs
    obtain ⟨constraint, hconstraint, hs⟩ := List.mem_flatMap.mp hs
    obtain ⟨ns, within, hns, hwithin, hentities⟩ := h.exists_ns rfl rfl hassociation
    obtain ⟨item, -, -, ends, -, -, hrules⟩ := exists_of_forall₂ hns.associationTypes hwithin
    obtain ⟨rule, -, -, entity, hunder, hproperties⟩ := exists_of_forall₂ hrules hconstraint
    obtain ⟨name, -, hname⟩ := exists_of_forall₂ hproperties hs
    obtain ⟨rest, rfl, hmem⟩ := hname.exists_mem
    have hentity : entity ∈ under .entityType (item.endOf rule.dependentEnd).entityType
        (segments .entityType within) := by
      rw [hunder]
      exact List.mem_singleton_self _
    exact mem_declaredProperties (hentities entity (List.mem_of_mem_filter hentity)) hmem
  ends := by
    intro association hassociation segment hs
    obtain ⟨constraint, hconstraint, hs⟩ := List.mem_flatMap.mp hs
    obtain ⟨ns, within, hns, hwithin, -⟩ := h.exists_ns rfl rfl hassociation
    obtain ⟨item, -, -, ends, -, hends, hrules⟩ := exists_of_forall₂ hns.associationTypes hwithin
    obtain ⟨rule, -, hdependent, -⟩ := exists_of_forall₂ hrules hconstraint
    rw [hdependent, List.mem_singleton] at hs
    rw [hends, hs]
    cases rule.dependentEnd with
    | source => exact List.mem_cons_self
    | target => exact List.mem_cons_of_mem _ List.mem_cons_self
  sets := by
    intro segment hs
    have hends : segments .associationSetEnd ((Call.model m).entries on) =
        (segments .associationSet ((Call.model m).entries on)).flatMap
          (segments .associationSetEnd) :=
      Call.segments_eq_flatMap (n := 13) rfl rfl rfl rfl
    have hassociations : segments .associationSet ((Call.model m).entries on) =
        (segments .entityContainer ((Call.model m).entries on)).flatMap
          (segments .associationSet) :=
      Call.segments_eq_flatMap (n := 13) rfl rfl rfl rfl
    have hsets : pass .entitySets .entitySet ((Call.model m).entries on) =
        (segments .entityContainer ((Call.model m).entries on)).flatMap
          (pass .entitySets .entitySet) :=
      Call.pass_eq_flatMap (n := 13) rfl rfl rfl _ rfl
    rw [hends, hassociations] at hs
    obtain ⟨association, hassociation, hs⟩ := List.mem_flatMap.mp hs
    obtain ⟨within, hwithin, hassociation⟩ := List.mem_flatMap.mp hassociation
    obtain ⟨container, -, hcontainer⟩ := exists_of_forall₂ h.containers hwithin
    obtain ⟨item, -, hitem⟩ := exists_of_forall₂ hcontainer.associationSets hassociation
    obtain ⟨name, -, hname⟩ := exists_of_forall₂ hitem.ends hs
    obtain ⟨rest, rfl, hmem⟩ := hname.exists_mem
    refine ⟨name, rest, rfl, ?_⟩
    rw [hsets]
    exact List.mem_flatMap.mpr ⟨within, hwithin, hmem⟩

end Model.Replays

/-- In the log of a traversal of a built model every visit by reference is recorded as the visit by
ownership that it repeats. -/
theorem Model.build_replays {name : String} {declarations : List Declaration} {m : Model}
    (h : build name declarations = .ok m) (log : DispatchLog) :
    ∃ entries, traverse DispatchLog.visitor m log = (.ok (), log.append entries) ∧
      m.Replays entries ∧ RevisitsOwned entries := by
  have hreplays : m.Replays ((Call.model m).entries log.config.functionsEnabled) :=
    replays_entries (wellFormed_of_build h)
  exact ⟨_, DispatchLog.traverse_of_sound (sound_of_build h) log, hreplays, hreplays.revisitsOwned⟩

/-- In the log of the shop both ends of the association set replay an entity set. The dependent end
replays the target of the association, and the dependent property one that an order declares. -/
theorem Model.build_replays_shop :
    let named (point : Point) (name : String) : List Dispatch :=
      [⟨point, some name⟩, ⟨.namedItem, some name⟩, ⟨.metadataItem, none⟩, ⟨.dataModelItem, none⟩]
    let typed (name : String) : List Dispatch :=
      named .property name ++
        [⟨.typeReference, none⟩, ⟨.metadataItem, none⟩, ⟨.dataModelItem, none⟩]
    build "Shop" (shop "Customers") = .ok (assemble "Shop" (shop "Customers")) ∧
      ∃ entries, traverse DispatchLog.visitor (assemble "Shop" (shop "Customers")) {} =
          (.ok (), DispatchLog.append {} entries) ∧
        (assemble "Shop" (shop "Customers")).Replays entries ∧ RevisitsOwned entries ∧
        pass .entitySets .entitySet entries =
          [named .entitySet "Customers", named .entitySet "Orders"] ∧
        segments .associationSetEnd entries =
          [named .associationSetEnd "Customers", named .associationSetEnd "Orders"] ∧
        segments .associationEnd entries =
          [named .associationEnd "Customer", named .associationEnd "Orders",
            named .associationEnd "Orders"] ∧
        pass .declaredProperties .property entries =
          [typed "Id", typed "Id", typed "CustomerId"] ∧
        pass .associationConstraint .property entries = [typed "CustomerId"] := by
  intro named typed
  have hbuild : build "Shop" (shop "Customers") = .ok (assemble "Shop" (shop "Customers")) := rfl
  obtain ⟨entries, hrun, hreplays, hrevisits⟩ := build_replays hbuild {}
  have hentries : entries = (traverse DispatchLog.visitor
      (assemble "Shop" (shop "Customers")) {}).2.entries.toList := by
    simp [hrun]
  refine ⟨hbuild, entries, hrun, hreplays, hrevisits, ?_⟩
  rw [hentries]
  decide +kernel

end EntityModel
