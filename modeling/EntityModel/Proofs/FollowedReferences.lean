import EntityModel.Proofs.WellFormed

/-!
# EntityModel.Proofs.FollowedReferences

The references that a traversal follows and does not find, in the order in which it comes to them,
read off the graph without walking it.

* `EntityType.brokenKeys`, `AssociationType.brokenDependents`, `AssociationSet.brokenEnds`: those of
  one node. Nothing depends on the entity type of a dependent end that no property depends on.
* `Namespace.brokenReferences`, `EntityContainer.brokenReferences`, `Model.brokenReferences`.
* `Model.brokenReferences_eq_nil_iff`: there are none exactly in a traversable model.
-/

namespace EntityModel

/-- A reference is broken unless it is found. -/
def unlessFound (found : Bool) (reference : BrokenReference) : List BrokenReference :=
  if found then [] else [reference]

@[simp] theorem unlessFound_eq_nil_iff {found : Bool} {reference : BrokenReference} :
    unlessFound found reference = [] ↔ found = true := by
  cases found <;> simp [unlessFound]

theorem eq_of_mem_unlessFound {found : Bool} {reference broken : BrokenReference}
    (h : broken ∈ unlessFound found reference) : broken = reference := by
  cases found with
  | true => cases h
  | false => exact List.mem_singleton.mp h

/-! ## Namespaces -/

def EntityType.brokenKeys (item : EntityType) : List BrokenReference :=
  item.key.flatMap fun key =>
    unlessFound (item.findProperty? key).isSome ⟨.entityType, item.name, .keyProperty, key⟩

def AssociationType.brokenProperties (item : AssociationType) (rule : AssociationConstraint)
    (entity : EntityType) : List BrokenReference :=
  rule.dependentProperties.flatMap fun property =>
    unlessFound (entity.findProperty? property).isSome
      ⟨.associationConstraint, item.name, .dependentProperty, property⟩

def AssociationType.brokenDependents (ns : Namespace) (item : AssociationType)
    (rule : AssociationConstraint) : List BrokenReference :=
  if rule.dependentProperties.isEmpty then []
  else
    let dependent := item.endOf rule.dependentEnd
    match ns.findEntityType? dependent.entityType with
    | none => [⟨.associationEnd, dependent.name, .entityType, dependent.entityType⟩]
    | some entity => item.brokenProperties rule entity

def AssociationType.brokenReferences (ns : Namespace) (item : AssociationType) :
    List BrokenReference :=
  match item.referentialConstraint with
  | none => []
  | some rule => item.brokenDependents ns rule

def Namespace.brokenReferences (ns : Namespace) : List BrokenReference :=
  ns.entityTypes.flatMap EntityType.brokenKeys ++
    ns.associationTypes.flatMap (AssociationType.brokenReferences ns)

theorem EntityType.brokenKeys_eq_nil_iff {item : EntityType} :
    item.brokenKeys = [] ↔ ∀ key ∈ item.key, Called key item.properties := by
  simp only [brokenKeys, List.flatMap_eq_nil_iff, unlessFound_eq_nil_iff]
  exact forall₂_congr fun _ _ => findNamed?_isSome_iff

theorem AssociationType.brokenProperties_eq_nil_iff {item : AssociationType}
    {rule : AssociationConstraint} {entity : EntityType} :
    item.brokenProperties rule entity = [] ↔
      ∀ property ∈ rule.dependentProperties, Called property entity.properties := by
  simp only [brokenProperties, List.flatMap_eq_nil_iff, unlessFound_eq_nil_iff]
  exact forall₂_congr fun _ _ => findNamed?_isSome_iff

theorem AssociationType.brokenDependents_eq_nil_iff {ns : Namespace} {item : AssociationType}
    {rule : AssociationConstraint} :
    item.brokenDependents ns rule = [] ↔
      ∀ property ∈ rule.dependentProperties,
        ∃ entity ∈ ns.findEntityType? (item.endOf rule.dependentEnd).entityType,
          Called property entity.properties := by
  unfold brokenDependents
  cases hp : rule.dependentProperties with
  | nil => simp
  | cons first rest =>
    rw [if_neg (by simp)]
    dsimp only
    cases he : ns.findEntityType? (item.endOf rule.dependentEnd).entityType with
    | none =>
      constructor
      · intro h
        cases h
      · intro h
        obtain ⟨_, hnone, _⟩ := h first List.mem_cons_self
        cases hnone
    | some entity =>
      rw [brokenProperties_eq_nil_iff, hp]
      simp

theorem AssociationType.brokenReferences_eq_nil_iff {ns : Namespace} {item : AssociationType} :
    item.brokenReferences ns = [] ↔
      ∀ rule ∈ item.referentialConstraint, item.brokenDependents ns rule = [] := by
  unfold brokenReferences
  cases item.referentialConstraint <;> simp

theorem Namespace.brokenReferences_eq_nil_iff {ns : Namespace} :
    ns.brokenReferences = [] ↔ ns.Traversable := by
  simp only [brokenReferences, List.append_eq_nil_iff, List.flatMap_eq_nil_iff,
    EntityType.brokenKeys_eq_nil_iff, AssociationType.brokenReferences_eq_nil_iff,
    AssociationType.brokenDependents_eq_nil_iff]
  constructor
  · rintro ⟨hk, hd⟩
    exact ⟨hk, hd⟩
  · rintro ⟨hk, hd⟩
    exact ⟨hk, hd⟩

/-! ## Containers -/

def AssociationSet.brokenEnd (container : EntityContainer) (item : AssociationSet)
    (field : ReferenceField) (target : String) : List BrokenReference :=
  unlessFound (container.findEntitySet? target).isSome ⟨.associationSet, item.name, field, target⟩

def AssociationSet.brokenEnds (container : EntityContainer) (item : AssociationSet) :
    List BrokenReference :=
  item.brokenEnd container .sourceSet item.source ++
    item.brokenEnd container .targetSet item.target

def EntityContainer.brokenReferences (container : EntityContainer) : List BrokenReference :=
  container.associationSets.flatMap (AssociationSet.brokenEnds container)

theorem AssociationSet.brokenEnds_eq_nil_iff {container : EntityContainer}
    {item : AssociationSet} :
    item.brokenEnds container = [] ↔
      Called item.source container.entitySets ∧ Called item.target container.entitySets := by
  simp only [brokenEnds, brokenEnd, List.append_eq_nil_iff, unlessFound_eq_nil_iff]
  exact and_congr findNamed?_isSome_iff findNamed?_isSome_iff

theorem EntityContainer.brokenReferences_eq_nil_iff {container : EntityContainer} :
    container.brokenReferences = [] ↔ container.Traversable := by
  simp only [brokenReferences, List.flatMap_eq_nil_iff, AssociationSet.brokenEnds_eq_nil_iff]
  constructor
  · intro h
    exact ⟨fun item hm => (h item hm).1, fun item hm => (h item hm).2⟩
  · rintro ⟨hs, ht⟩ item hm
    exact ⟨hs item hm, ht item hm⟩

/-! ## Models -/

def Model.brokenReferences (m : Model) : List BrokenReference :=
  m.namespaces.flatMap Namespace.brokenReferences ++
    m.containers.flatMap EntityContainer.brokenReferences

theorem Model.brokenReferences_eq_nil_iff {m : Model} :
    m.brokenReferences = [] ↔ m.Traversable := by
  simp only [brokenReferences, List.append_eq_nil_iff, List.flatMap_eq_nil_iff,
    Namespace.brokenReferences_eq_nil_iff, EntityContainer.brokenReferences_eq_nil_iff]
  constructor
  · rintro ⟨hn, hc⟩
    exact ⟨hn, hc⟩
  · rintro ⟨hn, hc⟩
    exact ⟨hn, hc⟩

end EntityModel
