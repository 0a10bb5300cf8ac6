import EntityModel.Model
import Mathlib.Data.List.Nodup

/-!
# EntityModel.Proofs.Lookup

What the look-ups find, said without the look-ups.

* `Called`: some node of a list has a given name. `findNamed?` finds a node exactly then.
* `splitAtLastDot_eq_some_iff`, `parse?_eq_some_iff`: a text is read as a qualified name in one
  way only, and exactly the texts `ns.name` with two non-empty halves and no dot in the second one
  are read.
* `Model.Declares`: some namespace declares an item under a qualified name. Between proper scopes
  (`Model.ProperNames`) a qualified look-up succeeds exactly then (`resolve?_isSome_iff`).
* `Model.Locates`: the same with neither half empty. This is what a look-up succeeds on if no more is
  known than that namespaces have distinct names (`resolve?_isSome_iff_locates`).
-/

namespace EntityModel

/-! ## By name -/

section Named

variable {α : Type} [NamedNode α]

/-- Some node of the list has the name. -/
def Called (name : String) (nodes : List α) : Prop :=
  ∃ node ∈ nodes, NamedNode.name node = name

theorem findNamed?_eq_some {name : String} {nodes : List α} {node : α}
    (h : findNamed? name nodes = some node) : node ∈ nodes ∧ NamedNode.name node = name := by
  refine ⟨List.mem_of_find?_eq_some h, ?_⟩
  simpa using List.find?_some h

theorem findNamed?_isSome_iff {name : String} {nodes : List α} :
    (findNamed? name nodes).isSome = true ↔ Called name nodes := by
  rw [findNamed?, List.find?_isSome]
  simp only [Called, beq_iff_eq]

/-- Where names are distinct, each node is found under its own name. -/
theorem findNamed?_of_mem {nodes : List α} (hn : (nodes.map NamedNode.name).Nodup) {node : α}
    (hm : node ∈ nodes) : findNamed? (NamedNode.name node) nodes = some node := by
  obtain ⟨found, hf⟩ := Option.isSome_iff_exists.mp (findNamed?_isSome_iff.mpr ⟨node, hm, rfl⟩)
  obtain ⟨hmem, hname⟩ := findNamed?_eq_some hf
  rw [hf, List.inj_on_of_nodup_map hn hmem hm hname]

end Named

/-! ## Qualified names -/

theorem splitAtLastDot_eq_none_iff {text : List Char} :
    splitAtLastDot text = none ↔ '.' ∉ text := by
  induction text with
  | nil => simp [splitAtLastDot]
  | cons c rest ih =>
    cases hr : splitAtLastDot rest with
    | some halves =>
      have hdot : '.' ∈ rest := by
        by_contra hnot
        rw [ih.mpr hnot] at hr
        cases hr
      simp [splitAtLastDot, hr, hdot]
    | none =>
      have hdot : '.' ∉ rest := ih.mp hr
      by_cases hc : c = '.'
      · simp [splitAtLastDot, hr, hc]
      · simp [splitAtLastDot, hr, hc, hdot, Ne.symm hc]

theorem splitAtLastDot_append {before after : List Char} (h : '.' ∉ after) :
    splitAtLastDot (before ++ '.' :: after) = some (before, after) := by
  induction before with
  | nil => simp [splitAtLastDot, splitAtLastDot_eq_none_iff.mpr h]
  | cons c rest ih => simp [splitAtLastDot, ih]

theorem splitAtLastDot_eq_some_iff {text before after : List Char} :
    splitAtLastDot text = some (before, after) ↔
      text = before ++ '.' :: after ∧ '.' ∉ after := by
  constructor
  · intro h
    induction text generalizing before with
    | nil => cases h
    | cons c rest ih =>
      rw [splitAtLastDot] at h
      cases hr : splitAtLastDot rest with
      | some halves =>
        rw [hr] at h
        cases h
        obtain ⟨hrest, hdot⟩ := ih hr
        exact ⟨by rw [hrest]; rfl, hdot⟩
      | none =>
        rw [hr] at h
        by_cases hc : c = '.'
        · rw [if_pos hc] at h
          cases h
          exact ⟨by rw [hc]; rfl, splitAtLastDot_eq_none_iff.mp hr⟩
        · rw [if_neg hc] at h
          cases h
  · rintro ⟨rfl, hdot⟩
    exact splitAtLastDot_append hdot

namespace QualifiedName

theorem toList_text (q : QualifiedName) :
    q.text.toList = q.ns.toList ++ '.' :: q.name.toList := by
  simp [text]

/-- Reading undoes writing, and reads nothing else. -/
theorem parse?_eq_some_iff {text : String} {q : QualifiedName} :
    parse? text = some q ↔
      text = q.text ∧ '.' ∉ q.name.toList ∧ q.ns ≠ "" ∧ q.name ≠ "" := by
  constructor
  · intro h
    rw [parse?] at h
    split at h
    · cases h
    · rename_i before after hs
      obtain ⟨htext, hdot⟩ := splitAtLastDot_eq_some_iff.mp hs
      split at h
      · cases h
      · rename_i hne
        cases h
        rw [Bool.or_eq_true, List.isEmpty_iff, List.isEmpty_iff, not_or] at hne
        refine ⟨?_, by simpa using hdot, by simpa using hne.1, by simpa using hne.2⟩
        apply String.toList_inj.mp
        rw [toList_text, htext, String.toList_ofList, String.toList_ofList]
  · rintro ⟨rfl, hdot, hns, hname⟩
    have hs : splitAtLastDot q.text.toList = some (q.ns.toList, q.name.toList) := by
      rw [toList_text]
      exact splitAtLastDot_append hdot
    have hne : (q.ns.toList.isEmpty || q.name.toList.isEmpty) = false := by
      simp [hns, hname]
    rw [parse?, hs]
    simp [hne]

end QualifiedName

/-! ## Across namespaces -/

namespace Namespace

theorem sublist_complexTypes (ns : Namespace) :
    (ns.complexTypes.map namedItem).Sublist ns.items := by
  simp only [items, List.append_assoc]
  exact List.sublist_append_left ..

theorem sublist_entityTypes (ns : Namespace) :
    (ns.entityTypes.map namedItem).Sublist ns.items := by
  simp only [items, List.append_assoc]
  exact (List.sublist_append_left ..).trans (List.sublist_append_right ..)

theorem sublist_enumTypes (ns : Namespace) : (ns.enumTypes.map namedItem).Sublist ns.items := by
  unfold items
  exact ((List.sublist_append_right ..).trans (List.sublist_append_left ..)).trans
    (List.sublist_append_left ..)

theorem sublist_associationTypes (ns : Namespace) :
    (ns.associationTypes.map namedItem).Sublist ns.items := by
  unfold items
  exact (List.sublist_append_right ..).trans (List.sublist_append_left ..)

end Namespace

namespace Model

/-- A qualified look-up finds what its second half finds in the namespace that its first half finds. -/
theorem resolve?_eq_some_iff {α : Type} {m : Model} {find : Namespace → String → Option α}
    {qualified : String} {item : α} :
    m.resolve? find qualified = some item ↔
      ∃ q ns, QualifiedName.parse? qualified = some q ∧ m.findNamespace? q.ns = some ns ∧
        find ns q.name = some item := by
  unfold resolve?
  cases QualifiedName.parse? qualified with
  | none => simp
  | some q =>
    cases h : m.findNamespace? q.ns with
    | none => simp [h]
    | some ns => simp [h]

variable {α : Type} [NamedNode α]

/-- Some namespace of the model declares, among `items`, one under the qualified name: the name of
the namespace, a dot, and the item's own name, which holds no dot. -/
def Declares (m : Model) (items : Namespace → List α) (qualified : String) : Prop :=
  ∃ ns ∈ m.namespaces, ∃ item ∈ items ns,
    qualified = QualifiedName.text ⟨ns.name, NamedNode.name item⟩ ∧
      '.' ∉ (NamedNode.name item).toList

/-- Namespaces have distinct names, and neither they nor their items go without one. -/
structure ProperNames (m : Model) : Prop where
  distinct : (m.namespaces.map (·.name)).Nodup
  namespaceNamed : ∀ ns ∈ m.namespaces, ns.name ≠ ""
  itemNamed : ∀ ns ∈ m.namespaces, ∀ item ∈ ns.items, item.name ≠ ""

/-- Some namespace of the model declares, among `items`, one under the qualified name, and neither the
namespace nor the item goes without a name. -/
def Locates (m : Model) (items : Namespace → List α) (qualified : String) : Prop :=
  ∃ ns ∈ m.namespaces, ∃ item ∈ items ns,
    qualified = QualifiedName.text ⟨ns.name, NamedNode.name item⟩ ∧
      '.' ∉ (NamedNode.name item).toList ∧ ns.name ≠ "" ∧ NamedNode.name item ≠ ""

/-- What a qualified look-up succeeds on between namespaces of distinct names. -/
theorem resolve?_isSome_iff_locates {m : Model} (hd : (m.namespaces.map (·.name)).Nodup)
    {items : Namespace → List α} {qualified : String} :
    (m.resolve? (fun ns name => findNamed? name (items ns)) qualified).isSome = true ↔
      m.Locates items qualified := by
  constructor
  · intro h
    obtain ⟨found, hfound⟩ := Option.isSome_iff_exists.mp h
    obtain ⟨q, ns, hq, hns, hfound⟩ := resolve?_eq_some_iff.mp hfound
    obtain ⟨htext, hdot, hnamed, hitemNamed⟩ := QualifiedName.parse?_eq_some_iff.mp hq
    obtain ⟨hmem, hname⟩ := findNamed?_eq_some hns
    obtain ⟨hitem, hitemName⟩ := findNamed?_eq_some hfound
    change ns.name = q.ns at hname
    refine ⟨ns, hmem, found, hitem, ?_⟩
    rw [hname, hitemName]
    exact ⟨htext, hdot, hnamed, hitemNamed⟩
  · rintro ⟨ns, hns, item, hitem, rfl, hdot, hnamed, hitemNamed⟩
    have hq : QualifiedName.parse? (QualifiedName.text ⟨ns.name, NamedNode.name item⟩) =
        some ⟨ns.name, NamedNode.name item⟩ :=
      QualifiedName.parse?_eq_some_iff.mpr ⟨rfl, hdot, hnamed, hitemNamed⟩
    have hfound : m.findNamespace? ns.name = some ns := findNamed?_of_mem hd hns
    simp only [resolve?, hq, hfound]
    exact findNamed?_isSome_iff.mpr ⟨item, hitem, rfl⟩

/-- What a qualified look-up succeeds on between proper scopes. The items must be among those that
share the scope of their namespace, so that none of them goes without a name. -/
theorem resolve?_isSome_iff {m : Model} (hm : m.ProperNames) {items : Namespace → List α}
    (hitems : ∀ ns, ∀ item ∈ items ns, namedItem item ∈ ns.items) {qualified : String} :
    (m.resolve? (fun ns name => findNamed? name (items ns)) qualified).isSome = true ↔
      m.Declares items qualified := by
  rw [resolve?_isSome_iff_locates hm.distinct]
  constructor
  · rintro ⟨ns, hns, item, hitem, htext, hdot, -, -⟩
    exact ⟨ns, hns, item, hitem, htext, hdot⟩
  · rintro ⟨ns, hns, item, hitem, htext, hdot⟩
    exact ⟨ns, hns, item, hitem, htext, hdot, hm.namespaceNamed ns hns,
      hm.itemNamed ns hns _ (hitems ns item hitem)⟩

end Model

end EntityModel
