import EntityModel.Proofs.AnnotationStore
import EntityModel.Proofs.BuildCorrect

/-!
# EntityModel.Proofs.Interleaving

Declarations of one kind have nothing to do with those of another.

* `Declaration.version?`, `ns?` and `container?`, next to `write?`: what a declaration gives, if it
  is of the kind.
* `Model.foldl_declare_eq`: each field of a model comes from the declarations of one kind.
* `SameByKind`: two sequences that differ only in how the kinds are interleaved.
* `Model.Collects`: a model holds what was declared, kind by kind.
* `Model.defects_describe`: the checks look neither at the version nor at the annotations.
* `Model.build_by_kind`: a build depends on the declarations kind by kind, and namespaces and
  containers alone decide whether and how it fails.
-/

namespace EntityModel

namespace Declaration

def version? : Declaration → Option Binary64
  | .version given => some given
  | _ => none

def ns? : Declaration → Option Namespace
  | .ns item => some item
  | _ => none

def container? : Declaration → Option EntityContainer
  | .container item => some item
  | _ => none

end Declaration

/-- The same namespaces in the same order, and the same containers. -/
structure SameNodes (declarations others : List Declaration) : Prop where
  namespaces : declarations.filterMap Declaration.ns? = others.filterMap Declaration.ns?
  containers :
    declarations.filterMap Declaration.container? = others.filterMap Declaration.container?

/-- Of each kind the same declarations in the same order. -/
structure SameByKind (declarations others : List Declaration) : Prop
    extends SameNodes declarations others where
  versions : declarations.filterMap Declaration.version? = others.filterMap Declaration.version?
  writes : declarations.filterMap Declaration.write? = others.filterMap Declaration.write?

namespace Model

/-! ## Declarations in turn -/

/-- A declaration changes one field, and what is given for the others later does not see it. -/
theorem foldl_declare_eq (declarations : List Declaration) (m : Model) :
    declarations.foldl declare m =
      { m with
        version := (declarations.filterMap Declaration.version?).getLastD m.version
        annotations := m.annotations.writeAll (declarations.filterMap Declaration.write?)
        namespaces := m.namespaces ++ declarations.filterMap Declaration.ns?
        containers := m.containers ++ declarations.filterMap Declaration.container? } := by
  induction declarations generalizing m with
  | nil => simp [Annotations.writeAll]
  | cons declaration rest ih =>
    rw [List.foldl_cons, ih]
    cases declaration with
    | version given =>
      have hversion : Declaration.version? (.version given) = some given := rfl
      rw [List.filterMap_cons_some hversion, List.getLastD_cons]
      rfl
    | annotate key value => rfl
    | ns item =>
      have hitem : Declaration.ns? (.ns item) = some item := rfl
      rw [List.filterMap_cons_some hitem, List.append_cons]
      rfl
    | container item =>
      have hitem : Declaration.container? (.container item) = some item := rfl
      rw [List.filterMap_cons_some hitem, List.append_cons]
      rfl

/-- The version is the last one declared, or else the default. The annotations are as they were
written, and namespaces and containers are all those declared, in order. -/
structure Collects (m : Model) (name : String) (declarations : List Declaration) : Prop where
  name : m.name = name
  version :
    m.version = (declarations.filterMap Declaration.version?).getLastD defaultSchemaVersion
  annotations : m.annotations.Reflects (declarations.filterMap Declaration.write?)
  namespaces : m.namespaces = declarations.filterMap Declaration.ns?
  containers : m.containers = declarations.filterMap Declaration.container?

theorem collects_assemble (name : String) (declarations : List Declaration) :
    (assemble name declarations).Collects name declarations := by
  rw [assemble, foldl_declare_eq]
  exact ⟨rfl, rfl, (Annotations.Gathers.writeAll _).reflects, rfl, rfl⟩

theorem assemble_congr {declarations others : List Declaration} (h : SameByKind declarations others)
    (name : String) : assemble name others = assemble name declarations := by
  rw [assemble, assemble, foldl_declare_eq, foldl_declare_eq, h.versions, h.writes, h.namespaces,
    h.containers]

/-! ## Checks -/

/-- The model with another version and other annotations. -/
def describe (m : Model) (version : Binary64) (annotations : Annotations AnnotationValue) : Model :=
  { m with version, annotations }

theorem defects_describe (m : Model) (version : Binary64)
    (annotations : Annotations AnnotationValue) :
    (m.describe version annotations).defects = m.defects := rfl

theorem exists_assemble_eq_describe {declarations others : List Declaration}
    (h : SameNodes declarations others) (name : String) :
    ∃ version annotations,
      assemble name others = (assemble name declarations).describe version annotations := by
  refine ⟨(assemble name others).version, (assemble name others).annotations, ?_⟩
  rw [assemble, assemble, foldl_declare_eq, foldl_declare_eq, h.namespaces, h.containers]
  rfl

/-- Sequences of declarations that are the same kind by kind build the same model, or fail alike. A
model that is built holds what was declared of each kind. Where only namespaces and containers are
the same, builds still fail alike. -/
theorem build_by_kind (name : String) (declarations : List Declaration) :
    (∀ others, SameByKind declarations others → build name others = build name declarations) ∧
    (∀ m, build name declarations = .ok m → m.Collects name declarations) ∧
    ∀ others, SameNodes declarations others → ∀ defect,
      build name others = .error defect ↔ build name declarations = .error defect := by
  refine ⟨?_, ?_, ?_⟩
  · intro others h
    rw [build_eq, build_eq, assemble_congr h]
  · intro m h
    obtain rfl := assemble_of_build h
    exact collects_assemble name declarations
  · intro others h defect
    obtain ⟨version, annotations, heq⟩ := exists_assemble_eq_describe h name
    rw [build_eq, build_eq, heq, checked_eq_error_iff, checked_eq_error_iff, defects_describe]

/-- A shop under two versions, with an annotation that is written twice. -/
def versionedShop (customers : String) : List Declaration :=
  .version ⟨0x3FF0000000000000⟩ :: .annotate "owner" ⟨"&str", "x"⟩ :: shop customers ++
    [.annotate "owner" ⟨"&str", "y"⟩, .version ⟨0x4000000000000000⟩]

/-- The same with the container first. -/
def versionedShopTurned (customers : String) : List Declaration :=
  (shop customers).reverse ++
    [.annotate "owner" ⟨"&str", "x"⟩, .version ⟨0x3FF0000000000000⟩,
      .version ⟨0x4000000000000000⟩, .annotate "owner" ⟨"&str", "y"⟩]

theorem build_by_kind_versionedShop :
    SameByKind (versionedShop "Customers") (versionedShopTurned "Customers") ∧
      build "Shop" (versionedShopTurned "Customers") = build "Shop" (versionedShop "Customers") ∧
      (∃ m, build "Shop" (versionedShop "Customers") = .ok m ∧
        m.version = ⟨0x4000000000000000⟩ ∧
        m.annotations.get? "owner" = some ⟨"&str", "y"⟩) ∧
      SameNodes (versionedShop "Clients") (shop "Clients") ∧
      build "Shop" (shop "Clients") =
        .error (.danglingReference ⟨.associationSet, "OrdersPlaced", .sourceSet, "Clients"⟩) := by
  have hsame : SameByKind (versionedShop "Customers") (versionedShopTurned "Customers") :=
    ⟨⟨rfl, rfl⟩, rfl, rfl⟩
  have hnodes : SameNodes (versionedShop "Clients") (shop "Clients") := ⟨rfl, rfl⟩
  have hbuild : build "Shop" (versionedShop "Customers") =
      .ok (assemble "Shop" (versionedShop "Customers")) := rfl
  obtain ⟨hinterleaved, hcollects, -⟩ := build_by_kind "Shop" (versionedShop "Customers")
  have hm := hcollects _ hbuild
  obtain ⟨-, -, hfails⟩ := build_by_kind "Shop" (versionedShop "Clients")
  refine ⟨hsame, hinterleaved _ hsame, ⟨_, hbuild, hm.version, ?_⟩, hnodes, ?_⟩
  · exact (hm.annotations.found _ _).mpr
      ⟨[⟨"owner", "&str", "x"⟩], [], rfl, fun _ h => absurd h List.not_mem_nil⟩
  · exact (hfails _ hnodes _).mpr rfl

end Model

end EntityModel
