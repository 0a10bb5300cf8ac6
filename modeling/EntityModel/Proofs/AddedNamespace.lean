import EntityModel.Proofs.BuildCorrect
import EntityModel.Proofs.Stability

/-!
# EntityModel.Proofs.AddedNamespace

One more namespace in a model.

* `Model.findsWithin_addNamespace`: look-ups that succeed are not affected, whatever the namespace
  holds and whatever its name.
* `Model.defects_addNamespace`: if its name is new, the only defects are those of the new namespace.
* `Model.build_adds_namespace`: a model that builds goes on building exactly if the new namespace
  passes its own checks, and otherwise the first of these to fail is reported.
-/

namespace EntityModel

/-- Of the items with the name, one that was there before comes first. -/
theorem findNamed?_append_of_eq_some {α : Type} [NamedNode α] {name : String} {nodes : List α}
    {node : α} (h : findNamed? name nodes = some node) (more : List α) :
    findNamed? name (nodes ++ more) = some node := by
  rw [findNamed?] at h
  rw [findNamed?, List.find?_append, h]
  rfl

namespace Model

variable {m : Model}

theorem assemble_concat_ns (name : String) (declarations : List Declaration) (ns : Namespace) :
    assemble name (declarations ++ [.ns ns]) = (assemble name declarations).addNamespace ns := by
  rw [assemble, List.foldl_append]
  rfl

/-! ## Look-ups -/

theorem findNamespace?_addNamespace {name : String} {found : Namespace}
    (h : m.findNamespace? name = some found) (ns : Namespace) :
    (m.addNamespace ns).findNamespace? name = some found :=
  findNamed?_append_of_eq_some h [ns]

theorem resolve?_addNamespace {α : Type} {find : Namespace → String → Option α}
    {qualified : String} {item : α} (h : m.resolve? find qualified = some item) (ns : Namespace) :
    (m.addNamespace ns).resolve? find qualified = some item := by
  obtain ⟨q, found, hq, hfound, hitem⟩ := resolve?_eq_some_iff.mp h
  exact resolve?_eq_some_iff.mpr ⟨q, found, hq, findNamespace?_addNamespace hfound ns, hitem⟩

theorem findsWithin_addNamespace (m : Model) (ns : Namespace) :
    m.FindsWithin (m.addNamespace ns) where
  entityTypes h := resolve?_addNamespace h ns
  associationTypes h := resolve?_addNamespace h ns
  complexTypes h := resolve?_addNamespace h ns
  enumTypes h := resolve?_addNamespace h ns

/-! ## Checks -/

theorem namespaceDefects_addNamespace {other : Namespace} (h : m.namespaceDefects other = [])
    (ns : Namespace) : (m.addNamespace ns).namespaceDefects other = [] :=
  namespaceDefects_eq_nil_of_findsWithin (m.findsWithin_addNamespace ns) rfl h

theorem containerDefects_addNamespace {container : EntityContainer}
    (h : m.containerDefects container = []) (ns : Namespace) :
    (m.addNamespace ns).containerDefects container = [] :=
  containerDefects_eq_nil_of_findsWithin (m.findsWithin_addNamespace ns) rfl h

section Fresh

variable {ns : Namespace} (hnamed : ns.name ≠ "")
  (hfresh : ∀ other ∈ m.namespaces, other.name ≠ ns.name)
include hnamed hfresh

theorem rootDefects_addNamespace (h : m.rootDefects = []) :
    (m.addNamespace ns).rootDefects = [] := by
  obtain ⟨hname, hscope, hcontainers⟩ := rootDefects_eq_nil_iff.mp h
  have hitems : (m.addNamespace ns).namespaces.map namedItem =
      m.namespaces.map namedItem ++ [namedItem ns] := List.map_append
  refine rootDefects_eq_nil_iff.mpr ⟨hname, ?_, hcontainers⟩
  rw [hitems]
  constructor
  · rw [List.forall_mem_append, List.forall_mem_singleton]
    exact ⟨hscope.named, hnamed⟩
  · rw [List.map_append, List.map_singleton, List.nodup_append, List.map_map]
    refine ⟨hscope.nodup_map, List.nodup_singleton _, ?_⟩
    intro name hmem name' hmem'
    obtain ⟨other, hother, rfl⟩ := List.mem_map.mp hmem
    rw [List.mem_singleton.mp hmem']
    exact hfresh other hother

/-- Nothing is wrong with the old namespaces and containers, so that the checks on the new namespace
are the only ones that may fail. -/
theorem defects_addNamespace (h : m.defects = []) :
    (m.addNamespace ns).defects = (m.addNamespace ns).namespaceDefects ns := by
  simp only [defects, List.append_eq_nil_iff, List.flatMap_eq_nil_iff] at h
  obtain ⟨⟨hroot, hnamespaces⟩, hcontainers⟩ := h
  have hold : m.namespaces.flatMap (m.addNamespace ns).namespaceDefects = [] :=
    List.flatMap_eq_nil_iff.mpr fun other hmem =>
      namespaceDefects_addNamespace (hnamespaces other hmem) ns
  have hstores : (m.addNamespace ns).containers.flatMap (m.addNamespace ns).containerDefects = [] :=
    List.flatMap_eq_nil_iff.mpr fun container hmem =>
      containerDefects_addNamespace (hcontainers container hmem) ns
  have hlist : (m.addNamespace ns).namespaces = m.namespaces ++ [ns] := rfl
  rw [defects, rootDefects_addNamespace hnamed hfresh hroot, hstores, hlist, List.flatMap_append,
    hold, List.flatMap_singleton, List.nil_append, List.nil_append, List.append_nil]

end Fresh

/-! ## Builds -/

/-- A namespace under a new name leaves a built model as it is: all that was found is found, and what
was without defects has none. The model builds with it exactly if the namespace has no defects, and
else the first of these is reported. -/
theorem build_adds_namespace {name : String} {declarations : List Declaration}
    (h : build name declarations = .ok m) {ns : Namespace} (hnamed : ns.name ≠ "")
    (hfresh : ∀ other ∈ m.namespaces, other.name ≠ ns.name) :
    ((∀ name found, m.findNamespace? name = some found →
        (m.addNamespace ns).findNamespace? name = some found) ∧
      ∀ qualified,
        (∀ item, m.findEntityType? qualified = some item →
          (m.addNamespace ns).findEntityType? qualified = some item) ∧
        ∀ item, m.findAssociationType? qualified = some item →
          (m.addNamespace ns).findAssociationType? qualified = some item) ∧
    ((∀ other ∈ m.namespaces, (m.addNamespace ns).namespaceDefects other = []) ∧
      ∀ container ∈ m.containers, (m.addNamespace ns).containerDefects container = []) ∧
    (build name (declarations ++ [.ns ns]) = .ok (m.addNamespace ns) ↔
      (m.addNamespace ns).namespaceDefects ns = []) ∧
    ∀ defect, build name (declarations ++ [.ns ns]) = .error defect ↔
      ((m.addNamespace ns).namespaceDefects ns).head? = some defect := by
  obtain rfl := assemble_of_build h
  have hnil := defects_eq_nil_iff.mpr (wellFormed_of_build h)
  have hdefects := defects_addNamespace hnamed hfresh hnil
  have hfinds := findsWithin_addNamespace (assemble name declarations) ns
  simp only [defects, List.append_eq_nil_iff, List.flatMap_eq_nil_iff] at hnil
  obtain ⟨⟨-, hnamespaces⟩, hcontainers⟩ := hnil
  refine ⟨⟨fun _ _ hfound => findNamespace?_addNamespace hfound ns, fun qualified =>
    ⟨fun _ => hfinds.entityTypes, fun _ => hfinds.associationTypes⟩⟩, ⟨?_, ?_⟩, ?_, ?_⟩
  · exact fun other hmem => namespaceDefects_addNamespace (hnamespaces other hmem) ns
  · exact fun container hmem => containerDefects_addNamespace (hcontainers container hmem) ns
  · rw [build_eq, assemble_concat_ns, checked_eq_ok_iff, ← defects_eq_nil_iff, hdefects]
    exact and_iff_right rfl
  · intro defect
    rw [build_eq, assemble_concat_ns, checked_eq_error_iff, hdefects]

/-- The item type of the namespace is sought in the shop. -/
def tools (itemType : String) : Namespace where
  name := "Tools"
  complexTypes := [
    { name := "Basket"
      properties := [{ name := "First", type := { referenced := .entity itemType } }] }]

theorem build_adds_namespace_shop :
    build "Shop" (shop "Customers") = .ok (assemble "Shop" (shop "Customers")) ∧
      (∃ built, build "Shop" (shop "Customers" ++ [.ns (tools "Sales.Order")]) = .ok built) ∧
      build "Shop" (shop "Customers" ++ [.ns (tools "Sales.Basket")]) =
        .error (.danglingReference ⟨.property, "First", .type, "Sales.Basket"⟩) := by
  have hbuild : build "Shop" (shop "Customers") = .ok (assemble "Shop" (shop "Customers")) := rfl
  have hname (itemType : String) : (tools itemType).name = "Tools" := rfl
  have hnamed (itemType : String) : (tools itemType).name ≠ "" := by
    rw [hname]
    decide
  have hfresh (itemType : String) : ∀ other ∈ (assemble "Shop" (shop "Customers")).namespaces,
      other.name ≠ (tools itemType).name := by
    intro other hmem
    rw [List.mem_singleton.mp hmem, hname]
    decide
  obtain ⟨-, -, hok, -⟩ := build_adds_namespace hbuild (hnamed "Sales.Order") (hfresh "Sales.Order")
  obtain ⟨-, -, -, herror⟩ :=
    build_adds_namespace hbuild (hnamed "Sales.Basket") (hfresh "Sales.Basket")
  exact ⟨hbuild, ⟨_, hok.mpr rfl⟩, (herror _).mpr rfl⟩

end Model

end EntityModel
