import EntityModel.Proofs.BuildCorrect
import Mathlib.Data.List.Nodup

/-!
# EntityModel.Proofs.QualifiedLookup

What qualified names stand for in a built model.

* `QualifiedName.halves_eq_of_text_eq`: a written name has one reading, however many dots the
  namespace holds.
* `Model.GoesBy`: an item goes by a qualified name. `Model.FindsDeclared`: a look-up finds exactly
  the items that go by the name, and there is no more than one.
* `Model.count_kindsFound_le_one`: of the four kinds of item at most one is found under a name.
* `Model.nodup_qualifiedNames`: no two items share a qualified name.
* `Model.build_finds_declared`: all of this for every built model.
-/

namespace EntityModel

theorem QualifiedName.halves_eq_of_text_eq {ns ns' name name' : String}
    (h : ns ++ "." ++ name = ns' ++ "." ++ name') (hdot : '.' ∉ name.toList)
    (hdot' : '.' ∉ name'.toList) : ns = ns' ∧ name = name' := by
  have htext : ns.toList ++ '.' :: name.toList = ns'.toList ++ '.' :: name'.toList := by
    rw [← toList_text ⟨ns, name⟩, ← toList_text ⟨ns', name'⟩]
    exact congrArg String.toList h
  have hsplit : splitAtLastDot (ns.toList ++ '.' :: name.toList) =
      some (ns.toList, name.toList) := splitAtLastDot_append hdot
  rw [htext, splitAtLastDot_append hdot'] at hsplit
  obtain ⟨hns, hname⟩ := Prod.mk.inj (Option.some.inj hsplit)
  exact ⟨String.toList_inj.mp hns.symm, String.toList_inj.mp hname.symm⟩

/-! ## One kind of item -/

section Items

variable {α : Type} [NamedNode α]

/-- An item of a namespace of the model goes by the name of the namespace, a dot, and its own name,
which holds no dot. -/
structure Model.GoesBy (m : Model) (items : Namespace → List α) (qualified : String)
    (ns : Namespace) (item : α) : Prop where
  ns_mem : ns ∈ m.namespaces
  item_mem : item ∈ items ns
  written : qualified = ns.name ++ "." ++ NamedNode.name item
  dotless : '.' ∉ (NamedNode.name item).toList

/-- A look-up finds an item exactly if it goes by the name. At most one item of one namespace
does. -/
structure Model.FindsDeclared (m : Model) (items : Namespace → List α)
    (find : String → Option α) : Prop where
  eq_some_iff : ∀ qualified item,
    find qualified = some item ↔ ∃ ns, m.GoesBy items qualified ns item
  unique : ∀ qualified ns ns' item item', m.GoesBy items qualified ns item →
    m.GoesBy items qualified ns' item' → ns = ns' ∧ item = item'

namespace Model

variable {m : Model} {items : Namespace → List α}

theorem findsDeclared_resolve? (hm : m.ProperNames)
    (hitems : ∀ ns, ((items ns).map namedItem).Sublist ns.items)
    (hdistinct : ∀ ns ∈ m.namespaces, ((items ns).map NamedNode.name).Nodup) :
    m.FindsDeclared items (m.resolve? fun ns name => findNamed? name (items ns)) where
  eq_some_iff qualified item := by
    constructor
    · intro h
      obtain ⟨q, ns, hq, hns, hfound⟩ := resolve?_eq_some_iff.mp h
      obtain ⟨htext, hdot, -, -⟩ := QualifiedName.parse?_eq_some_iff.mp hq
      obtain ⟨hmem, hname⟩ := findNamed?_eq_some hns
      obtain ⟨hitem, hitemName⟩ := findNamed?_eq_some hfound
      change ns.name = q.ns at hname
      refine ⟨ns, hmem, hitem, ?_, ?_⟩
      · rw [hname, hitemName]
        exact htext
      · rw [hitemName]
        exact hdot
    · rintro ⟨ns, hns, hitem, rfl, hdot⟩
      have hnamed : NamedNode.name item ≠ "" :=
        hm.itemNamed ns hns (namedItem item) ((hitems ns).subset (List.mem_map_of_mem hitem))
      have hq : QualifiedName.parse? (ns.name ++ "." ++ NamedNode.name item) =
          some ⟨ns.name, NamedNode.name item⟩ :=
        QualifiedName.parse?_eq_some_iff.mpr ⟨rfl, hdot, hm.namespaceNamed ns hns, hnamed⟩
      have hfound : m.findNamespace? ns.name = some ns := findNamed?_of_mem hm.distinct hns
      simp only [resolve?, hq, hfound]
      exact findNamed?_of_mem (hdistinct ns hns) hitem
  unique qualified ns ns' item item' h h' := by
    obtain ⟨hnsName, hname⟩ := QualifiedName.halves_eq_of_text_eq
      (h.written.symm.trans h'.written) h.dotless h'.dotless
    have hns : ns = ns' := List.inj_on_of_nodup_map hm.distinct h.ns_mem h'.ns_mem hnsName
    subst hns
    exact ⟨rfl, List.inj_on_of_nodup_map (hdistinct ns h.ns_mem) h.item_mem h'.item_mem hname⟩

theorem FindsDeclared.isSome_iff {find : String → Option α} (h : m.FindsDeclared items find)
    (qualified : String) :
    (find qualified).isSome = true ↔ ∃ ns item, m.GoesBy items qualified ns item := by
  rw [Option.isSome_iff_exists, exists_comm]
  exact exists_congr fun item => h.eq_some_iff qualified item

/-- The items of one kind are told apart by the scope that all kinds share. -/
theorem Consistent.findsDeclared (h : m.Consistent)
    (hitems : ∀ ns, ((items ns).map namedItem).Sublist ns.items) :
    m.FindsDeclared items (m.resolve? fun ns name => findNamed? name (items ns)) :=
  findsDeclared_resolve? h.properNames hitems fun ns hns =>
    ((h.namespaces ns hns).scope.sublist (hitems ns)).nodup_map

end Model

end Items

/-! ## All kinds together -/

/-- All kinds share one scope. -/
theorem Namespace.count_itemNames (ns : Namespace) (name : String) :
    ns.itemNames.count name =
      (ns.complexTypes.map NamedNode.name).count name +
        (ns.entityTypes.map NamedNode.name).count name +
        (ns.enumTypes.map NamedNode.name).count name +
        (ns.associationTypes.map NamedNode.name).count name +
        (ns.functionGroups.map NamedNode.name).count name := by
  simp only [itemNames, items, List.map_append, List.map_map, List.count_append]
  rfl

theorem toNat_isSome_findNamed?_le_count {α : Type} [NamedNode α] (name : String)
    (nodes : List α) :
    (findNamed? name nodes).isSome.toNat ≤ (nodes.map NamedNode.name).count name := by
  cases h : (findNamed? name nodes).isSome with
  | false => exact Nat.zero_le _
  | true =>
    obtain ⟨node, hmem, hname⟩ := findNamed?_isSome_iff.mp h
    exact List.count_pos_iff.mpr (List.mem_map.mpr ⟨node, hmem, hname⟩)

namespace Model

variable {m : Model}

/-- For each kind of item, whether one is found under the qualified name. -/
def kindsFound (m : Model) (qualified : String) : List Bool :=
  [(m.findEntityType? qualified).isSome, (m.findAssociationType? qualified).isSome,
    (m.findComplexType? qualified).isSome, (m.findEnumType? qualified).isSome]

/-- Every kind is sought under the same name of the same namespace, whose names are distinct. -/
theorem count_kindsFound_le_one (h : m.Consistent) (qualified : String) :
    (m.kindsFound qualified).count true ≤ 1 := by
  have hcount (b₁ b₂ b₃ b₄ : Bool) : [b₁, b₂, b₃, b₄].count true =
      b₁.toNat + b₂.toNat + b₃.toNat + b₄.toNat := by
    revert b₁ b₂ b₃ b₄
    decide
  rw [kindsFound, hcount]
  unfold findEntityType? findAssociationType? findComplexType? findEnumType? resolve?
  split
  · exact Nat.zero_le 1
  · rename_i q _
    split
    · exact Nat.zero_le 1
    · rename_i ns hns
      have hmem : ns ∈ m.namespaces := (findNamed?_eq_some hns).1
      have hscope : ns.itemNames.count q.name ≤ 1 :=
        List.nodup_iff_count_le_one.mp (h.namespaces ns hmem).scope.distinct q.name
      have hentity := toNat_isSome_findNamed?_le_count q.name ns.entityTypes
      have hassociation := toNat_isSome_findNamed?_le_count q.name ns.associationTypes
      have hcomplex := toNat_isSome_findNamed?_le_count q.name ns.complexTypes
      have henum := toNat_isSome_findNamed?_le_count q.name ns.enumTypes
      rw [Namespace.count_itemNames] at hscope
      unfold Namespace.findEntityType? Namespace.findAssociationType? Namespace.findComplexType?
        Namespace.findEnumType?
      omega

/-- The qualified names of all items whose own names hold no dot, in declaration order. -/
def qualifiedNames (m : Model) : List String :=
  m.namespaces.flatMap fun ns =>
    (ns.itemNames.filter fun name => !name.toList.contains '.').map fun name =>
      ns.name ++ "." ++ name

theorem nodup_qualifiedNames (h : m.Consistent) : m.qualifiedNames.Nodup := by
  have hdotless (ns : Namespace) {name : String}
      (hname : name ∈ ns.itemNames.filter fun name => !name.toList.contains '.') :
      '.' ∉ name.toList := by
    simpa using (List.mem_filter.mp hname).2
  rw [qualifiedNames, List.nodup_flatMap]
  constructor
  · intro ns hns
    refine List.Nodup.map_on ?_ ((h.namespaces ns hns).scope.distinct.filter _)
    intro name hname name' hname' hsame
    exact (QualifiedName.halves_eq_of_text_eq hsame (hdotless ns hname) (hdotless ns hname')).2
  · refine (List.pairwise_map.mp h.properNames.distinct).imp ?_
    intro ns ns' hne qualified hmem hmem'
    obtain ⟨name, hname, rfl⟩ := List.mem_map.mp hmem
    obtain ⟨name', hname', hsame⟩ := List.mem_map.mp hmem'
    exact hne (QualifiedName.halves_eq_of_text_eq hsame (hdotless ns' hname')
      (hdotless ns hname)).1.symm

/-- In a built model the look-ups by qualified name find exactly what is declared under it, and the
types that references name resolve to the same. No name leads to items of two kinds, and no two
items whose own names hold no dot share a qualified name, in one namespace or in two. -/
theorem build_finds_declared {name : String} {declarations : List Declaration}
    (h : build name declarations = .ok m) :
    m.FindsDeclared Namespace.entityTypes m.findEntityType? ∧
      m.FindsDeclared Namespace.associationTypes m.findAssociationType? ∧
      m.FindsDeclared Namespace.complexTypes m.findComplexType? ∧
      m.FindsDeclared Namespace.enumTypes m.findEnumType? ∧
      (∀ qualified,
        (m.resolves (.complex qualified) = true ↔
          ∃ ns item, m.GoesBy Namespace.complexTypes qualified ns item) ∧
        (m.resolves (.enum qualified) = true ↔
          ∃ ns item, m.GoesBy Namespace.enumTypes qualified ns item)) ∧
      (∀ qualified, (m.kindsFound qualified).count true ≤ 1) ∧
      m.qualifiedNames.Nodup := by
  have hm := (wellFormed_of_build h).consistent
  have hcomplex : m.FindsDeclared Namespace.complexTypes m.findComplexType? :=
    hm.findsDeclared Namespace.sublist_complexTypes
  have henum : m.FindsDeclared Namespace.enumTypes m.findEnumType? :=
    hm.findsDeclared Namespace.sublist_enumTypes
  exact ⟨hm.findsDeclared Namespace.sublist_entityTypes,
    hm.findsDeclared Namespace.sublist_associationTypes, hcomplex, henum,
    fun qualified => ⟨hcomplex.isSome_iff qualified, henum.isSome_iff qualified⟩,
    count_kindsFound_le_one hm, nodup_qualifiedNames hm⟩

/-- The name of one namespace begins another's, and a type of the shorter one is written like a name
in the longer one. -/
def nestedNames : List Declaration := [
  .ns { name := "A", complexTypes := [{ name := "B.C" }] },
  .ns { name := "A.B", entityTypes := [{ name := "C" }] }]

theorem build_finds_declared_nestedNames :
    build "M" nestedNames = .ok (assemble "M" nestedNames) ∧
      (assemble "M" nestedNames).findEntityType? "A.B.C" = some { name := "C" } ∧
      (assemble "M" nestedNames).findComplexType? "A.B.C" = none := by
  have hbuild : build "M" nestedNames = .ok (assemble "M" nestedNames) := rfl
  obtain ⟨hentity, -, hcomplex, -, -, -, -⟩ := build_finds_declared hbuild
  refine ⟨hbuild, (hentity.eq_some_iff ..).mpr ?_, ?_⟩
  · exact ⟨_, List.mem_cons_of_mem _ List.mem_cons_self, List.mem_cons_self, rfl, by decide⟩
  · rw [Option.eq_none_iff_forall_ne_some]
    intro item hitem
    obtain ⟨ns, hns, hmem, -, hdot⟩ := (hcomplex.eq_some_iff ..).mp hitem
    rcases List.mem_cons.mp hns with rfl | hns
    · rw [List.mem_singleton.mp hmem] at hdot
      exact hdot (by decide)
    · rw [List.mem_singleton.mp hns] at hmem
      cases hmem

end Model

end EntityModel
