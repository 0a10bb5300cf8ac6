import EntityModel.Proofs.LogRun

/-!
# EntityModel.Proofs.FirstFailures

Which graphs a traversal comes through that nobody has checked, and where it stops in the others.

* `FirstToFail`, `IsFirstCalled`: the first item of a list that does not pass, and the node that a
  look-up by name leads to where several have the name.
* `EntityType.KeysDeclared`, `AssociationType.DependentsDeclared`, `AssociationSet.EndsDeclared`:
  what has to be declared for one node. Of a constraint nothing is looked up unless a property
  depends.
* `Namespace.FirstBroken`, `EntityContainer.FirstBroken`: the first reference that is not declared,
  in the order of the traversal.
* `visit_finds_first_broken`: a logged visit of a namespace or a container succeeds exactly if all
  of this is declared, and else fails with that reference.
-/

namespace EntityModel

/-! ## The first of a list -/

section Lists

variable {α β : Type}

/-- The item does not pass, and those before it do. -/
def FirstToFail (passes : α → Prop) (items : List α) (item : α) : Prop :=
  ∃ before after, items = before ++ item :: after ∧ (∀ earlier ∈ before, passes earlier) ∧
    ¬passes item

/-- What the first failing item has to report comes first of all that is reported. -/
theorem head?_flatMap_eq_some_iff {f : α → List β} {passes : α → Prop}
    (hf : ∀ item, f item = [] ↔ passes item) {items : List α} {report : β} :
    (items.flatMap f).head? = some report ↔
      ∃ item, FirstToFail passes items item ∧ (f item).head? = some report := by
  rw [List.head?_flatMap, List.findSome?_eq_some_iff]
  constructor
  · rintro ⟨before, item, after, hitems, hitem, hbefore⟩
    have hfails : ¬passes item := by
      rw [← hf item]
      intro hnil
      rw [hnil] at hitem
      cases hitem
    exact ⟨item, ⟨before, after, hitems,
      fun earlier he => (hf earlier).mp (List.head?_eq_none_iff.mp (hbefore earlier he)), hfails⟩,
      hitem⟩
  · rintro ⟨item, ⟨before, after, hitems, hbefore, -⟩, hitem⟩
    exact ⟨before, item, after, hitems, hitem,
      fun earlier he => List.head?_eq_none_iff.mpr ((hf earlier).mpr (hbefore earlier he))⟩

theorem head?_unlessFound_eq_some_iff {found : Bool} {reference broken : BrokenReference} :
    (unlessFound found reference).head? = some broken ↔ found = false ∧ broken = reference := by
  cases found with
  | true => simp [unlessFound]
  | false => simpa [unlessFound] using eq_comm

/-- The node has the name, and no node before it does. -/
def IsFirstCalled [NamedNode α] (name : String) (nodes : List α) (node : α) : Prop :=
  NamedNode.name node = name ∧ ∃ before after, nodes = before ++ node :: after ∧
    ∀ earlier ∈ before, NamedNode.name earlier ≠ name

theorem findNamed?_eq_some_iff_isFirstCalled [NamedNode α] {name : String} {nodes : List α}
    {node : α} : findNamed? name nodes = some node ↔ IsFirstCalled name nodes node := by
  simp [findNamed?, IsFirstCalled, List.find?_eq_some_iff_append]

theorem findNamed?_isSome_eq_false_iff [NamedNode α] {name : String} {nodes : List α} :
    (findNamed? name nodes).isSome = false ↔ ¬Called name nodes := by
  rw [← findNamed?_isSome_iff, Bool.not_eq_true]

end Lists

/-! ## Namespaces -/

/-- Every key is the name of a property of the entity type itself. -/
def EntityType.KeysDeclared (item : EntityType) : Prop :=
  ∀ key ∈ item.key, Called key item.properties

/-- If properties depend, then the entity type of the dependent end is declared in the namespace,
and they are properties of the first of its name. -/
def AssociationType.DependentsDeclared (ns : Namespace) (item : AssociationType) : Prop :=
  ∀ rule ∈ item.referentialConstraint, rule.dependentProperties ≠ [] →
    ∃ entity, IsFirstCalled (item.endOf rule.dependentEnd).entityType ns.entityTypes entity ∧
      ∀ property ∈ rule.dependentProperties, Called property entity.properties

/-- The first reference of an association type that is not declared: the entity type of the
dependent end comes before the properties. -/
inductive AssociationType.FirstBroken (ns : Namespace) (item : AssociationType) :
    BrokenReference → Prop where
  | entityType {rule : AssociationConstraint} :
      item.referentialConstraint = some rule → rule.dependentProperties ≠ [] →
      ¬Called (item.endOf rule.dependentEnd).entityType ns.entityTypes →
      FirstBroken ns item ⟨.associationEnd, (item.endOf rule.dependentEnd).name, .entityType,
        (item.endOf rule.dependentEnd).entityType⟩
  | dependentProperty {rule : AssociationConstraint} {entity : EntityType} {property : String} :
      item.referentialConstraint = some rule →
      IsFirstCalled (item.endOf rule.dependentEnd).entityType ns.entityTypes entity →
      FirstToFail (fun name => Called name entity.properties) rule.dependentProperties property →
      FirstBroken ns item ⟨.associationConstraint, item.name, .dependentProperty, property⟩

/-- The first reference of a namespace that is not declared: keys come before associations. -/
inductive Namespace.FirstBroken (ns : Namespace) : BrokenReference → Prop where
  | key {item : EntityType} {key : String} :
      FirstToFail EntityType.KeysDeclared ns.entityTypes item →
      FirstToFail (fun name => Called name item.properties) item.key key →
      FirstBroken ns ⟨.entityType, item.name, .keyProperty, key⟩
  | association {item : AssociationType} {reference : BrokenReference} :
      (∀ entity ∈ ns.entityTypes, entity.KeysDeclared) →
      FirstToFail (AssociationType.DependentsDeclared ns) ns.associationTypes item →
      item.FirstBroken ns reference → FirstBroken ns reference

theorem EntityType.head?_brokenKeys_eq_some_iff {item : EntityType} {reference : BrokenReference} :
    item.brokenKeys.head? = some reference ↔
      ∃ key, FirstToFail (fun name => Called name item.properties) item.key key ∧
        reference = ⟨.entityType, item.name, .keyProperty, key⟩ := by
  have hpasses (key : String) :
      unlessFound (item.findProperty? key).isSome ⟨.entityType, item.name, .keyProperty, key⟩ = [] ↔
        Called key item.properties := by
    rw [unlessFound_eq_nil_iff]
    exact findNamed?_isSome_iff
  rw [brokenKeys, head?_flatMap_eq_some_iff hpasses]
  refine exists_congr fun key => and_congr_right fun hfirst => ?_
  obtain ⟨_, _, _, _, hfails⟩ := hfirst
  rw [head?_unlessFound_eq_some_iff]
  exact and_iff_right (findNamed?_isSome_eq_false_iff.mpr hfails)

theorem AssociationType.head?_brokenProperties_eq_some_iff {item : AssociationType}
    {rule : AssociationConstraint} {entity : EntityType} {reference : BrokenReference} :
    (item.brokenProperties rule entity).head? = some reference ↔
      ∃ property,
        FirstToFail (fun name => Called name entity.properties) rule.dependentProperties property ∧
          reference = ⟨.associationConstraint, item.name, .dependentProperty, property⟩ := by
  have hpasses (property : String) :
      unlessFound (entity.findProperty? property).isSome
        ⟨.associationConstraint, item.name, .dependentProperty, property⟩ = [] ↔
        Called property entity.properties := by
    rw [unlessFound_eq_nil_iff]
    exact findNamed?_isSome_iff
  rw [brokenProperties, head?_flatMap_eq_some_iff hpasses]
  refine exists_congr fun property => and_congr_right fun hfirst => ?_
  obtain ⟨_, _, _, _, hfails⟩ := hfirst
  rw [head?_unlessFound_eq_some_iff]
  exact and_iff_right (findNamed?_isSome_eq_false_iff.mpr hfails)

theorem AssociationType.brokenReferences_eq_nil_iff_dependentsDeclared {ns : Namespace}
    {item : AssociationType} : item.brokenReferences ns = [] ↔ item.DependentsDeclared ns := by
  rw [brokenReferences_eq_nil_iff]
  refine forall₂_congr fun rule _ => ?_
  rw [brokenDependents_eq_nil_iff]
  constructor
  · intro h hne
    obtain ⟨first, hfirst⟩ := List.exists_mem_of_ne_nil _ hne
    obtain ⟨entity, hentity, -⟩ := h first hfirst
    refine ⟨entity, findNamed?_eq_some_iff_isFirstCalled.mp hentity, ?_⟩
    intro property hproperty
    obtain ⟨found, hfound, hcalled⟩ := h property hproperty
    obtain rfl : entity = found := Option.mem_unique hentity hfound
    exact hcalled
  · intro h property hproperty
    obtain ⟨entity, hentity, hcalled⟩ := h (List.ne_nil_of_mem hproperty)
    exact ⟨entity, findNamed?_eq_some_iff_isFirstCalled.mpr hentity, hcalled property hproperty⟩

theorem AssociationType.head?_brokenReferences_eq_some_iff {ns : Namespace} {item : AssociationType}
    {reference : BrokenReference} :
    (item.brokenReferences ns).head? = some reference ↔ item.FirstBroken ns reference := by
  constructor
  · intro h
    unfold brokenReferences at h
    cases hc : item.referentialConstraint with
    | none =>
      rw [hc] at h
      cases h
    | some rule =>
      rw [hc] at h
      dsimp only at h
      unfold brokenDependents at h
      split at h
      · cases h
      · rename_i hempty
        have hne : rule.dependentProperties ≠ [] := by simpa using hempty
        dsimp only at h
        cases hf : ns.findEntityType? (item.endOf rule.dependentEnd).entityType with
        | none =>
          rw [hf] at h
          obtain rfl := Option.some_inj.mp h
          refine .entityType hc hne (findNamed?_isSome_eq_false_iff.mp ?_)
          exact congrArg Option.isSome hf
        | some entity =>
          rw [hf] at h
          obtain ⟨property, hfirst, rfl⟩ := head?_brokenProperties_eq_some_iff.mp h
          exact .dependentProperty hc (findNamed?_eq_some_iff_isFirstCalled.mp hf) hfirst
  · intro h
    cases h with
    | @entityType rule hc hne hmissing =>
      have hf : ns.findEntityType? (item.endOf rule.dependentEnd).entityType = none :=
        Option.isSome_eq_false_iff.mp (findNamed?_isSome_eq_false_iff.mpr hmissing) |>
          Option.isNone_iff_eq_none.mp
      have hempty : rule.dependentProperties.isEmpty = false := by simpa using hne
      simp [brokenReferences, hc, brokenDependents, hempty, hf]
    | @dependentProperty rule entity property hc hentity hfirst =>
      have hf : ns.findEntityType? (item.endOf rule.dependentEnd).entityType = some entity :=
        findNamed?_eq_some_iff_isFirstCalled.mpr hentity
      have hempty : rule.dependentProperties.isEmpty = false := by
        obtain ⟨before, after, hproperties, -⟩ := hfirst
        simp [hproperties]
      have hhead := (@head?_brokenProperties_eq_some_iff item rule entity _).mpr
        ⟨property, hfirst, rfl⟩
      simpa [brokenReferences, hc, brokenDependents, hempty, hf] using hhead

theorem Namespace.head?_brokenReferences_eq_some_iff {ns : Namespace}
    {reference : BrokenReference} :
    ns.brokenReferences.head? = some reference ↔ ns.FirstBroken reference := by
  have hkeys := @head?_flatMap_eq_some_iff EntityType BrokenReference EntityType.brokenKeys
    EntityType.KeysDeclared (fun _ => EntityType.brokenKeys_eq_nil_iff) ns.entityTypes
  have hassociations := @head?_flatMap_eq_some_iff AssociationType BrokenReference
    (AssociationType.brokenReferences ns) (AssociationType.DependentsDeclared ns)
    (fun _ => AssociationType.brokenReferences_eq_nil_iff_dependentsDeclared) ns.associationTypes
  rw [brokenReferences, List.head?_append, Option.or_eq_some_iff, hkeys, hassociations,
    List.head?_eq_none_iff, List.flatMap_eq_nil_iff]
  constructor
  · rintro (⟨item, hitem, hreference⟩ | ⟨hnone, item, hitem, hreference⟩)
    · obtain ⟨key, hkey, rfl⟩ := EntityType.head?_brokenKeys_eq_some_iff.mp hreference
      exact .key hitem hkey
    · exact .association (fun entity he => EntityType.brokenKeys_eq_nil_iff.mp (hnone entity he))
        hitem (AssociationType.head?_brokenReferences_eq_some_iff.mp hreference)
  · intro h
    cases h with
    | key hitem hkey =>
      exact .inl ⟨_, hitem, EntityType.head?_brokenKeys_eq_some_iff.mpr ⟨_, hkey, rfl⟩⟩
    | association hnone hitem hreference =>
      exact .inr ⟨fun entity he => EntityType.brokenKeys_eq_nil_iff.mpr (hnone entity he), _, hitem,
        AssociationType.head?_brokenReferences_eq_some_iff.mpr hreference⟩

/-! ## Containers -/

/-- Both ends are names of entity sets of the container. -/
def AssociationSet.EndsDeclared (container : EntityContainer) (item : AssociationSet) : Prop :=
  Called item.source container.entitySets ∧ Called item.target container.entitySets

/-- The first reference of a container that is not declared: of an association set the source comes
before the target. -/
inductive EntityContainer.FirstBroken (container : EntityContainer) : BrokenReference → Prop where
  | source {item : AssociationSet} :
      FirstToFail (AssociationSet.EndsDeclared container) container.associationSets item →
      ¬Called item.source container.entitySets →
      FirstBroken container ⟨.associationSet, item.name, .sourceSet, item.source⟩
  | target {item : AssociationSet} :
      FirstToFail (AssociationSet.EndsDeclared container) container.associationSets item →
      Called item.source container.entitySets →
      FirstBroken container ⟨.associationSet, item.name, .targetSet, item.target⟩

theorem EntityContainer.head?_brokenReferences_eq_some_iff {container : EntityContainer}
    {reference : BrokenReference} :
    container.brokenReferences.head? = some reference ↔ container.FirstBroken reference := by
  have hsets := @head?_flatMap_eq_some_iff AssociationSet BrokenReference
    (AssociationSet.brokenEnds container) (AssociationSet.EndsDeclared container)
    (fun _ => AssociationSet.brokenEnds_eq_nil_iff) container.associationSets
  have hfound (name : String) : (container.findEntitySet? name).isSome = false ↔
      ¬Called name container.entitySets := findNamed?_isSome_eq_false_iff
  have hfirst (item : AssociationSet) :
      (item.brokenEnds container).head? = some reference ↔
        (¬Called item.source container.entitySets ∧
            reference = ⟨.associationSet, item.name, .sourceSet, item.source⟩) ∨
          Called item.source container.entitySets ∧ ¬Called item.target container.entitySets ∧
            reference = ⟨.associationSet, item.name, .targetSet, item.target⟩ := by
    rw [AssociationSet.brokenEnds, AssociationSet.brokenEnd, AssociationSet.brokenEnd,
      List.head?_append, Option.or_eq_some_iff, head?_unlessFound_eq_some_iff,
      head?_unlessFound_eq_some_iff, List.head?_eq_none_iff, unlessFound_eq_nil_iff, hfound, hfound]
    exact or_congr_right (and_congr_left fun _ => findNamed?_isSome_iff)
  rw [brokenReferences, hsets]
  simp only [hfirst]
  constructor
  · rintro ⟨item, hitem, ⟨hsource, rfl⟩ | ⟨hsource, -, rfl⟩⟩
    · exact .source hitem hsource
    · exact .target hitem hsource
  · intro h
    cases h with
    | @source item hitem hsource => exact ⟨item, hitem, .inl ⟨hsource, rfl⟩⟩
    | @target item hitem hsource =>
      have hfails := hitem
      obtain ⟨_, _, _, _, hfails⟩ := hfails
      exact ⟨item, hitem, .inr ⟨hsource, fun htarget => hfails ⟨hsource, htarget⟩, rfl⟩⟩

/-! ## Visits -/

/-- A logged visit of a namespace or a container succeeds if its followed references are declared,
and else fails with the first that is not, whether functions are taken or not. -/
theorem visit_finds_first_broken (log : DispatchLog) :
    (∀ ns : Namespace,
      ((visit DispatchLog.visitor (.ns ns) log).1 = .ok () ↔
        (∀ item ∈ ns.entityTypes, item.KeysDeclared) ∧
          ∀ item ∈ ns.associationTypes, item.DependentsDeclared ns) ∧
      ∀ reference, (visit DispatchLog.visitor (.ns ns) log).1 = .error reference ↔
        ns.FirstBroken reference) ∧
    ∀ container : EntityContainer,
      ((visit DispatchLog.visitor (.entityContainer container) log).1 = .ok () ↔
        ∀ item ∈ container.associationSets, item.EndsDeclared container) ∧
      ∀ reference, (visit DispatchLog.visitor (.entityContainer container) log).1 =
          .error reference ↔ container.FirstBroken reference := by
  constructor
  · intro ns
    rw [DispatchLog.visit_eq, Call.brokenReferences_ns fun _ => rfl]
    constructor
    · rw [Effect.verdict_eq_ok_iff, List.head?_eq_none_iff, Namespace.brokenReferences,
        List.append_eq_nil_iff, List.flatMap_eq_nil_iff, List.flatMap_eq_nil_iff]
      exact and_congr (forall₂_congr fun _ _ => EntityType.brokenKeys_eq_nil_iff)
        (forall₂_congr fun _ _ => AssociationType.brokenReferences_eq_nil_iff_dependentsDeclared)
    · intro reference
      rw [Effect.verdict_eq_error_iff]
      exact Namespace.head?_brokenReferences_eq_some_iff
  · intro container
    rw [DispatchLog.visit_eq, Call.brokenReferences_entityContainer fun _ => rfl]
    constructor
    · rw [Effect.verdict_eq_ok_iff, List.head?_eq_none_iff, EntityContainer.brokenReferences,
        List.flatMap_eq_nil_iff]
      exact forall₂_congr fun _ _ => AssociationSet.brokenEnds_eq_nil_iff
    · intro reference
      rw [Effect.verdict_eq_error_iff]
      exact EntityContainer.head?_brokenReferences_eq_some_iff

end EntityModel
