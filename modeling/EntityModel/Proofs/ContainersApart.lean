import EntityModel.Proofs.BuildCorrect

/-!
# EntityModel.Proofs.ContainersApart

Containers have nothing to do with one another.

* `Model.withContainers`: a model with other containers. What is wrong with a namespace or a container
  does not depend on them.
* `Model.defects_withContainers`: containers under distinct names add their own defects, one after the
  other, to those of the model without containers.
* `Model.buildsApart`: the builds without containers and with each of them alone.
* `Model.build_checks_containers_apart`: a model builds exactly if all of these do, and otherwise fails
  as the first of them that fails.
-/

namespace EntityModel

def Model.withContainers (m : Model) (containers : List EntityContainer) : Model :=
  { m with containers := containers }

/-! ## Declarations of containers -/

def Declaration.isContainer : Declaration → Bool
  | .container _ => true
  | _ => false

/-- All declarations but those of containers. -/
def withoutContainers (declarations : List Declaration) : List Declaration :=
  declarations.filter fun declaration => !declaration.isContainer

namespace Model

theorem foldl_declare_withoutContainers (declarations : List Declaration) (m : Model)
    (containers : List EntityContainer) :
    (withoutContainers declarations).foldl declare (m.withContainers containers) =
      (declarations.foldl declare m).withContainers containers := by
  induction declarations generalizing m with
  | nil => rfl
  | cons declaration rest ih =>
    rw [List.foldl_cons, ← ih]
    cases declaration <;> rfl

theorem assemble_withoutContainers (name : String) (declarations : List Declaration) :
    assemble name (withoutContainers declarations) =
      (assemble name declarations).withContainers [] :=
  foldl_declare_withoutContainers declarations { name := name } []

theorem assemble_onlyContainer (name : String) (declarations : List Declaration)
    (container : EntityContainer) :
    assemble name (withoutContainers declarations ++ [.container container]) =
      (assemble name declarations).withContainers [container] := by
  have hrest := assemble_withoutContainers name declarations
  rw [assemble] at hrest ⊢
  rw [List.foldl_append, hrest]
  rfl

/-! ## Checks -/

section Checks

variable (m : Model) (containers : List EntityContainer)

theorem namespaceDefects_withContainers (ns : Namespace) :
    (m.withContainers containers).namespaceDefects ns = m.namespaceDefects ns := rfl

theorem containerDefects_withContainers (container : EntityContainer) :
    (m.withContainers containers).containerDefects container = m.containerDefects container := rfl

/-- The names of the containers are all that is checked of several containers together. -/
theorem defects_withContainers {containers : List EntityContainer}
    (h : ProperScope (containers.map namedItem)) :
    (m.withContainers containers).defects =
      (m.withContainers []).defects ++ containers.flatMap m.containerDefects := by
  have hscope : scopeDefects m.name (containers.map namedItem) = [] :=
    scopeDefects_eq_nil_iff.mpr h
  have hroot : (m.withContainers containers).rootDefects = (m.withContainers []).rootDefects :=
    congrArg (nameDefects "" (namedItem m) ++ scopeDefects m.name (m.namespaces.map namedItem) ++ ·)
      hscope
  have hnone : (m.withContainers []).defects =
      (m.withContainers []).rootDefects ++ m.namespaces.flatMap m.namespaceDefects :=
    List.append_nil _
  rw [hnone, defects, hroot]
  rfl

end Checks

/-! ## Builds -/

/-- The defect with which a build fails. -/
def reported? : Except Defect Model → Option Defect
  | .ok _ => none
  | .error defect => some defect

theorem reported?_eq_none_iff {result : Except Defect Model} :
    reported? result = none ↔ ∃ built, result = .ok built := by
  cases result <;> simp [reported?]

theorem reported?_eq_some_iff {result : Except Defect Model} {defect : Defect} :
    reported? result = some defect ↔ result = .error defect := by
  cases result <;> simp [reported?]

theorem reported?_checked (m : Model) : reported? m.checked = m.defects.head? := by
  unfold checked
  cases m.defects <;> rfl

/-- The builds without containers and with each container alone, in the order of the containers. -/
def buildsApart (name : String) (declarations : List Declaration) : List (Except Defect Model) :=
  build name (withoutContainers declarations) ::
    (assemble name declarations).containers.map fun container =>
      build name (withoutContainers declarations ++ [.container container])

/-- Without containers the first defect is that of the graph alone; with one container it is that or
else the container's. -/
theorem filterMap_reported?_buildsApart {name : String} {declarations : List Declaration}
    (h : ProperScope ((assemble name declarations).containers.map namedItem)) :
    (buildsApart name declarations).filterMap reported? =
      ((assemble name declarations).withContainers []).defects.head?.toList ++
        (assemble name declarations).containers.filterMap fun container =>
          (((assemble name declarations).withContainers []).defects ++
            (assemble name declarations).containerDefects container).head? := by
  have hnone : reported? (build name (withoutContainers declarations)) =
      ((assemble name declarations).withContainers []).defects.head? := by
    rw [build_eq, reported?_checked, assemble_withoutContainers]
  have halone : (assemble name declarations).containers.filterMap (fun container =>
      reported? (build name (withoutContainers declarations ++ [.container container]))) =
        (assemble name declarations).containers.filterMap fun container =>
          (((assemble name declarations).withContainers []).defects ++
            (assemble name declarations).containerDefects container).head? := by
    refine List.filterMap_congr fun container hmem => ?_
    have hscope : ProperScope ([container].map namedItem) :=
      h.sublist ((List.singleton_sublist.mpr hmem).map namedItem)
    rw [build_eq, reported?_checked, assemble_onlyContainer, defects_withContainers _ hscope,
      List.flatMap_singleton]
  rw [buildsApart, List.filterMap_cons, hnone, List.filterMap_map, Function.comp_def, halone]
  cases ((assemble name declarations).withContainers []).defects.head? <;> rfl

theorem reported?_build {name : String} {declarations : List Declaration}
    (h : ProperScope ((assemble name declarations).containers.map namedItem)) :
    reported? (build name declarations) =
      ((buildsApart name declarations).filterMap reported?).head? := by
  have hjoint : (assemble name declarations).defects =
      ((assemble name declarations).withContainers []).defects ++
        (assemble name declarations).containers.flatMap
          (assemble name declarations).containerDefects :=
    defects_withContainers _ h
  rw [filterMap_reported?_buildsApart h, build_eq, reported?_checked, hjoint]
  cases ((assemble name declarations).withContainers []).defects with
  | cons defect rest => rfl
  | nil =>
    simp only [List.nil_append, List.head?_nil, Option.toList_none]
    rw [List.head?_flatMap, List.head?_filterMap]

/-- Containers whose names are given and distinct may be built one by one: the model builds if and only
if it does without containers and with each of them alone, and what it reports is what the first of
these builds to fail reports. Nothing else about the containers matters to a namespace or to another
container, so that they may share the names of their sets and imports. -/
theorem build_checks_containers_apart {name : String} {declarations : List Declaration}
    (h : ProperScope ((assemble name declarations).containers.map namedItem)) :
    ((∃ built, build name declarations = .ok built) ↔
      ∀ apart ∈ buildsApart name declarations, ∃ built, apart = .ok built) ∧
    (∀ defect, build name declarations = .error defect ↔
      ((buildsApart name declarations).filterMap reported?).head? = some defect) ∧
    ∀ (m : Model) (containers : List EntityContainer),
      (∀ ns, (m.withContainers containers).namespaceDefects ns = m.namespaceDefects ns) ∧
        ∀ container, (m.withContainers containers).containerDefects container =
          m.containerDefects container := by
  have hfirst := reported?_build h
  refine ⟨?_, ?_, ?_⟩
  · rw [← reported?_eq_none_iff, hfirst, List.head?_eq_none_iff, List.filterMap_eq_nil_iff]
    exact forall₂_congr fun _ _ => reported?_eq_none_iff
  · intro defect
    rw [← reported?_eq_some_iff, hfirst]
  · exact fun m containers =>
      ⟨m.namespaceDefects_withContainers containers, m.containerDefects_withContainers containers⟩

/-- A second container in the shop, whose set goes by the name of one in the first. -/
def archive (elementType : String) : Declaration :=
  .container
    { name := "Archive"
      entitySets := [{ name := "Orders", elementType := elementType }] }

theorem build_checks_containers_apart_shop :
    (∃ built, build "Shop" (shop "Customers" ++ [archive "Sales.Order"]) = .ok built) ∧
      build "Shop" (shop "Customers" ++ [archive "Sales.Basket"]) =
        .error (.danglingReference ⟨.entitySet, "Orders", .elementType, "Sales.Basket"⟩) := by
  have hscope (elementType : String) : ProperScope
      ((assemble "Shop" (shop "Customers" ++ [archive elementType])).containers.map namedItem) := by
    have hnil : scopeDefects "Shop"
      ((assemble "Shop" (shop "Customers" ++ [archive elementType])).containers.map namedItem) = [] :=
        rfl
    exact scopeDefects_eq_nil_iff.mp hnil
  obtain ⟨hok, -, -⟩ := build_checks_containers_apart (hscope "Sales.Order")
  obtain ⟨-, herror, -⟩ := build_checks_containers_apart (hscope "Sales.Basket")
  have hnone : (buildsApart "Shop" (shop "Customers" ++ [archive "Sales.Order"])).filterMap
      reported? = [] := rfl
  exact ⟨hok.mpr fun apart hmem =>
    reported?_eq_none_iff.mp (List.filterMap_eq_nil_iff.mp hnone apart hmem), (herror _).mpr rfl⟩

end Model

end EntityModel
