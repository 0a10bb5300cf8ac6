import EntityModel.Proofs.BuildCorrect
import EntityModel.Proofs.Stability
import Mathlib.Data.List.Perm.Basic

/-!
# EntityModel.Proofs.Reordering

The same declarations in another order.

* `Reorders`: the items of one list are those of another in some order, each of them related to its
  counterpart. For namespaces and containers the relation says that their own collections are
  permuted, and nothing else is changed.
* `Model.Reordered`: so are the namespaces and containers of a model.
* `findNamed?_perm`: between distinct names the order makes no difference to a look-up.
* `Model.Reordered.findsWithin`: what is found in a well-formed model is found in the reordered one.
* `Model.Reordered.defects_eq_nil`: a well-formed model stays well formed.
-/

namespace EntityModel

/-! ## Lists in another order -/

/-- The second list holds a counterpart of each item of the first, in any order, and no more. -/
def Reorders {α : Type} (R : α → α → Prop) (items items' : List α) : Prop :=
  ∃ moved, items.Perm moved ∧ List.Forall₂ R moved items'

namespace Reorders

variable {α β : Type} {R : α → α → Prop} {items items' : List α}

theorem of_perm (h : items.Perm items') : Reorders Eq items items' :=
  ⟨items', h, List.forall₂_refl items'⟩

theorem symm (hR : ∀ {item item'}, R item item' → R item' item) (h : Reorders R items items') :
    Reorders R items' items := by
  obtain ⟨moved, hperm, hrel⟩ := h
  have hback : List.Forall₂ R items' moved := List.Forall₂.flip (hrel.imp fun _ _ => hR)
  have hcomp : Relation.Comp (List.Forall₂ R) List.Perm items' items := ⟨moved, hback, hperm.symm⟩
  rwa [List.forall₂_comp_perm_eq_perm_comp_forall₂] at hcomp

theorem isEmpty_eq (h : Reorders R items items') : items'.isEmpty = items.isEmpty := by
  obtain ⟨moved, hperm, hrel⟩ := h
  have hlength := hperm.length_eq.trans hrel.length_eq
  rw [Bool.eq_iff_iff, List.isEmpty_iff_length_eq_zero, List.isEmpty_iff_length_eq_zero, hlength]

/-- Lists of which each is permuted as its item is replaced by its counterpart. -/
theorem flatMap_perm (h : Reorders R items items') {f g : α → List β}
    (hR : ∀ item ∈ items, ∀ item', R item item' → (f item).Perm (g item')) :
    (items.flatMap f).Perm (items'.flatMap g) := by
  obtain ⟨moved, hperm, hrel⟩ := h
  have hmoved : ∀ item ∈ moved, ∀ item', R item item' → (f item).Perm (g item') :=
    fun item hmem => hR item (hperm.mem_iff.mpr hmem)
  have hall : (moved.flatMap f).Perm (items'.flatMap g) := by
    clear hperm
    induction hrel with
    | nil => exact List.Perm.nil
    | cons hitem _ ih =>
      rw [List.flatMap_cons, List.flatMap_cons]
      rw [List.forall_mem_cons] at hmoved
      exact (hmoved.1 _ hitem).append (ih hmoved.2)
  exact (hperm.flatMap_right f).trans hall

theorem map_perm (h : Reorders R items items') {f : α → β}
    (hR : ∀ {item item'}, R item item' → f item' = f item) :
    (items.map f).Perm (items'.map f) := by
  rw [List.map_eq_flatMap, List.map_eq_flatMap]
  exact h.flatMap_perm fun _ _ _ hitem => by rw [hR hitem]

theorem exists_of_mem (h : Reorders R items items') {item : α} (hmem : item ∈ items) :
    ∃ item' ∈ items', R item item' := by
  obtain ⟨moved, hperm, hrel⟩ := h
  have hmoved := hperm.mem_iff.mp hmem
  clear hperm hmem
  induction hrel with
  | nil => cases hmoved
  | @cons first first' rest rest' hfirst _ ih =>
    obtain rfl | hrest := List.mem_cons.mp hmoved
    · exact ⟨first', List.mem_cons_self, hfirst⟩
    · obtain ⟨item', hmem', hitem⟩ := ih hrest
      exact ⟨item', List.mem_cons_of_mem _ hmem', hitem⟩

end Reorders

/-! ## Names in another order -/

theorem ProperScope.perm {items items' : List NamedItem} (h : ProperScope items)
    (hperm : items.Perm items') : ProperScope items' where
  named := fun item hmem => h.named item (hperm.mem_iff.mpr hmem)
  distinct := (hperm.map (·.name)).nodup_iff.mp h.distinct

section Named

variable {α : Type} [NamedNode α] {nodes nodes' : List α}

theorem namedItem_congr {node node' : α} (hname : NamedNode.name node' = NamedNode.name node)
    (hstore : MetadataNode.annotations node' = MetadataNode.annotations node) :
    namedItem node' = namedItem node := by
  rw [namedItem, namedItem, metadataItem, metadataItem, hstore, hname]

theorem findNamed?_eq_some_iff (hn : (nodes.map NamedNode.name).Nodup) {name : String} {node : α} :
    findNamed? name nodes = some node ↔ node ∈ nodes ∧ NamedNode.name node = name := by
  constructor
  · exact findNamed?_eq_some
  · rintro ⟨hmem, rfl⟩
    exact findNamed?_of_mem hn hmem

theorem findNamed?_perm (hn : (nodes.map NamedNode.name).Nodup) (h : nodes.Perm nodes')
    (name : String) : findNamed? name nodes' = findNamed? name nodes := by
  have hn' : (nodes'.map NamedNode.name).Nodup := (h.map NamedNode.name).nodup_iff.mp hn
  apply Option.ext
  intro node
  rw [findNamed?_eq_some_iff hn, findNamed?_eq_some_iff hn', h.mem_iff]

theorem Reorders.exists_findNamed? {R : α → α → Prop} (h : Reorders R nodes nodes')
    (hR : ∀ {node node'}, R node node' → NamedNode.name node' = NamedNode.name node)
    (hn : (nodes.map NamedNode.name).Nodup) {name : String} {node : α}
    (hfound : findNamed? name nodes = some node) :
    ∃ node', R node node' ∧ findNamed? name nodes' = some node' := by
  have hn' : (nodes'.map NamedNode.name).Nodup := (h.map_perm hR).nodup_iff.mp hn
  obtain ⟨hmem, hname⟩ := findNamed?_eq_some hfound
  obtain ⟨node', hmem', hnode⟩ := h.exists_of_mem hmem
  exact ⟨node', hnode, (findNamed?_eq_some_iff hn').mpr ⟨hmem', (hR hnode).trans hname⟩⟩

end Named

/-! ## Namespaces -/

/-- The same namespace with its collections in another order. -/
structure Namespace.Reordered (ns ns' : Namespace) : Prop where
  name : ns'.name = ns.name
  annotations : ns'.annotations = ns.annotations
  complexTypes : ns.complexTypes.Perm ns'.complexTypes
  entityTypes : ns.entityTypes.Perm ns'.entityTypes
  enumTypes : ns.enumTypes.Perm ns'.enumTypes
  associationTypes : ns.associationTypes.Perm ns'.associationTypes
  functionGroups : ns.functionGroups.Perm ns'.functionGroups

namespace Namespace.Reordered

variable {ns ns' : Namespace} (h : ns.Reordered ns')
include h

theorem symm : ns'.Reordered ns where
  name := h.name.symm
  annotations := h.annotations.symm
  complexTypes := h.complexTypes.symm
  entityTypes := h.entityTypes.symm
  enumTypes := h.enumTypes.symm
  associationTypes := h.associationTypes.symm
  functionGroups := h.functionGroups.symm

theorem namedItem_eq : namedItem ns' = namedItem ns :=
  namedItem_congr h.name h.annotations

theorem items : ns.items.Perm ns'.items :=
  (h.complexTypes.map namedItem).append (h.entityTypes.map namedItem)
    |>.append (h.enumTypes.map namedItem)
    |>.append (h.associationTypes.map namedItem)
    |>.append (h.functionGroups.map namedItem)

variable (hscope : ProperScope ns.items)
include hscope

theorem findComplexType? (name : String) : ns'.findComplexType? name = ns.findComplexType? name :=
  findNamed?_perm (hscope.sublist ns.sublist_complexTypes).nodup_map h.complexTypes name

theorem findEntityType? (name : String) : ns'.findEntityType? name = ns.findEntityType? name :=
  findNamed?_perm (hscope.sublist ns.sublist_entityTypes).nodup_map h.entityTypes name

theorem findEnumType? (name : String) : ns'.findEnumType? name = ns.findEnumType? name :=
  findNamed?_perm (hscope.sublist ns.sublist_enumTypes).nodup_map h.enumTypes name

theorem findAssociationType? (name : String) :
    ns'.findAssociationType? name = ns.findAssociationType? name :=
  findNamed?_perm (hscope.sublist ns.sublist_associationTypes).nodup_map h.associationTypes name

omit hscope in
theorem namespaceDefects_eq_nil {m : Model} (hnil : m.namespaceDefects ns = []) :
    m.namespaceDefects ns' = [] := by
  simp only [Model.namespaceDefects, List.append_eq_nil_iff, List.flatMap_eq_nil_iff,
    scopeDefects_eq_nil_iff] at hnil ⊢
  obtain ⟨⟨⟨⟨⟨⟨hname, hscope⟩, hcomplex⟩, hentity⟩, henum⟩, hassociation⟩, hgroup⟩ := hnil
  refine ⟨⟨⟨⟨⟨⟨?_, hscope.perm h.items⟩, ?_⟩, ?_⟩, ?_⟩, ?_⟩, ?_⟩
  · rwa [h.namedItem_eq]
  · exact fun item hmem => hcomplex item (h.complexTypes.mem_iff.mpr hmem)
  · intro item hmem
    rw [Model.entityTypeDefects_congr m (h.findAssociationType? hscope)]
    exact hentity item (h.entityTypes.mem_iff.mpr hmem)
  · exact fun item hmem => henum item (h.enumTypes.mem_iff.mpr hmem)
  · intro item hmem
    rw [Model.associationTypeDefects_congr (h.findEntityType? hscope)]
    exact hassociation item (h.associationTypes.mem_iff.mpr hmem)
  · exact fun item hmem => hgroup item (h.functionGroups.mem_iff.mpr hmem)

end Namespace.Reordered

/-! ## Containers -/

/-- The same container with its collections in another order. -/
structure EntityContainer.Reordered (container container' : EntityContainer) : Prop where
  name : container'.name = container.name
  annotations : container'.annotations = container.annotations
  entitySets : container.entitySets.Perm container'.entitySets
  associationSets : container.associationSets.Perm container'.associationSets
  functionImports : container.functionImports.Perm container'.functionImports

namespace EntityContainer.Reordered

variable {container container' : EntityContainer} (h : container.Reordered container')
include h

theorem symm : container'.Reordered container where
  name := h.name.symm
  annotations := h.annotations.symm
  entitySets := h.entitySets.symm
  associationSets := h.associationSets.symm
  functionImports := h.functionImports.symm

theorem namedItem_eq : namedItem container' = namedItem container :=
  namedItem_congr h.name h.annotations

theorem items : container.items.Perm container'.items :=
  (h.entitySets.map namedItem).append (h.associationSets.map namedItem)
    |>.append (h.functionImports.map namedItem)

theorem findEntitySet? (hscope : ProperScope container.items) (name : String) :
    container'.findEntitySet? name = container.findEntitySet? name := by
  have hsub : (container.entitySets.map namedItem).Sublist container.items := by
    simp only [EntityContainer.items, List.append_assoc]
    exact List.sublist_append_left ..
  exact findNamed?_perm (hscope.sublist hsub).nodup_map h.entitySets name

theorem containerDefects_eq_nil {m : Model} (hnil : m.containerDefects container = []) :
    m.containerDefects container' = [] := by
  simp only [Model.containerDefects, List.append_eq_nil_iff, List.flatMap_eq_nil_iff,
    scopeDefects_eq_nil_iff] at hnil ⊢
  obtain ⟨⟨⟨⟨hname, hscope⟩, hset⟩, hassociation⟩, himport⟩ := hnil
  refine ⟨⟨⟨⟨?_, hscope.perm h.items⟩, ?_⟩, ?_⟩, ?_⟩
  · rwa [h.namedItem_eq]
  · exact fun item hmem => hset item (h.entitySets.mem_iff.mpr hmem)
  · intro item hmem
    rw [Model.associationSetDefects_congr m (h.findEntitySet? hscope)]
    exact hassociation item (h.associationSets.mem_iff.mpr hmem)
  · exact fun item hmem => himport item (h.functionImports.mem_iff.mpr hmem)

end EntityContainer.Reordered

/-! ## Models -/

/-- The same model with its namespaces and containers in another order, and the collections of each. -/
structure Model.Reordered (m m' : Model) : Prop where
  name : m'.name = m.name
  annotations : m'.annotations = m.annotations
  version : m'.version = m.version
  namespaces : Reorders Namespace.Reordered m.namespaces m'.namespaces
  containers : Reorders EntityContainer.Reordered m.containers m'.containers

namespace Model.Reordered

variable {m m' : Model} (h : m.Reordered m')
include h

theorem symm : m'.Reordered m where
  name := h.name.symm
  annotations := h.annotations.symm
  version := h.version.symm
  namespaces := h.namespaces.symm Namespace.Reordered.symm
  containers := h.containers.symm EntityContainer.Reordered.symm

theorem namedItem_eq : namedItem m' = namedItem m :=
  namedItem_congr h.name h.annotations

variable (hm : m.WellFormed)
include hm

/-! ### Look-ups -/

/-- What is found in a namespace is found in its counterpart, which bears the same name. -/
theorem resolve?_eq_some {α : Type} {find : Namespace → String → Option α}
    (hfind : ∀ {ns ns'}, ns.Reordered ns' → ProperScope ns.items →
      ∀ name, find ns' name = find ns name)
    {qualified : String} {item : α} (hfound : m.resolve? find qualified = some item) :
    m'.resolve? find qualified = some item := by
  obtain ⟨q, ns, hq, hns, hitem⟩ := resolve?_eq_some_iff.mp hfound
  obtain ⟨ns', hreordered, hns'⟩ := h.namespaces.exists_findNamed? (·.name)
    hm.consistent.namespaceScope.nodup_map hns
  have hscope := (hm.consistent.namespaces ns (findNamed?_eq_some hns).1).scope
  refine resolve?_eq_some_iff.mpr ⟨q, ns', hq, hns', ?_⟩
  rw [hfind hreordered hscope, hitem]

theorem findsWithin : m.FindsWithin m' where
  entityTypes := h.resolve?_eq_some hm Namespace.Reordered.findEntityType?
  associationTypes := h.resolve?_eq_some hm Namespace.Reordered.findAssociationType?
  complexTypes := h.resolve?_eq_some hm Namespace.Reordered.findComplexType?
  enumTypes := h.resolve?_eq_some hm Namespace.Reordered.findEnumType?

theorem bind_findEntitySet?_eq_some {container set : String} {item : EntitySet}
    (hfound : (m.findContainer? container).bind (·.findEntitySet? set) = some item) :
    (m'.findContainer? container).bind (·.findEntitySet? set) = some item := by
  obtain ⟨node, hnode, hitem⟩ := Option.bind_eq_some_iff.mp hfound
  obtain ⟨node', hreordered, hnode'⟩ := h.containers.exists_findNamed? (·.name)
    hm.consistent.containerScope.nodup_map hnode
  have hscope := (hm.consistent.containers node (findNamed?_eq_some hnode).1).scope
  refine Option.bind_eq_some_iff.mpr ⟨node', hnode', ?_⟩
  rw [hreordered.findEntitySet? hscope, hitem]

/-! ### Checks -/

theorem rootDefects_eq_nil : m'.rootDefects = [] := by
  refine rootDefects_eq_nil_iff.mpr ⟨?_, ?_, ?_⟩
  · rw [h.name]
    exact hm.consistent.named
  · exact hm.consistent.namespaceScope.perm (h.namespaces.map_perm (·.namedItem_eq))
  · exact hm.consistent.containerScope.perm (h.containers.map_perm (·.namedItem_eq))

/-- A node is checked against more look-ups than before, and then against its own collections in
another order. -/
theorem defects_eq_nil : m'.defects = [] := by
  have hnil := defects_eq_nil_iff.mpr hm
  simp only [defects, List.append_eq_nil_iff, List.flatMap_eq_nil_iff] at hnil ⊢
  obtain ⟨⟨-, hnamespaces⟩, hcontainers⟩ := hnil
  have hfinds := h.findsWithin hm
  refine ⟨⟨h.rootDefects_eq_nil hm, ?_⟩, ?_⟩
  · intro ns' hmem'
    obtain ⟨ns, hmem, hns⟩ := (h.namespaces.symm (·.symm)).exists_of_mem hmem'
    exact hns.symm.namespaceDefects_eq_nil
      (namespaceDefects_eq_nil_of_findsWithin hfinds h.name (hnamespaces ns hmem))
  · intro container' hmem'
    obtain ⟨container, hmem, hcontainer⟩ := (h.containers.symm (·.symm)).exists_of_mem hmem'
    exact hcontainer.symm.containerDefects_eq_nil
      (containerDefects_eq_nil_of_findsWithin hfinds h.name (hcontainers container hmem))

theorem wellFormed : m'.WellFormed :=
  defects_eq_nil_iff.mp (h.defects_eq_nil hm)

theorem findEntityType? (qualified : String) :
    m'.findEntityType? qualified = m.findEntityType? qualified :=
  Option.ext fun _ =>
    ⟨(h.symm.findsWithin (h.wellFormed hm)).entityTypes, (h.findsWithin hm).entityTypes⟩

theorem findAssociationType? (qualified : String) :
    m'.findAssociationType? qualified = m.findAssociationType? qualified :=
  Option.ext fun _ =>
    ⟨(h.symm.findsWithin (h.wellFormed hm)).associationTypes, (h.findsWithin hm).associationTypes⟩

theorem bind_findEntitySet? (container set : String) :
    (m'.findContainer? container).bind (·.findEntitySet? set) =
      (m.findContainer? container).bind (·.findEntitySet? set) :=
  Option.ext fun _ =>
    ⟨h.symm.bind_findEntitySet?_eq_some (h.wellFormed hm), h.bind_findEntitySet?_eq_some hm⟩

end Model.Reordered

end EntityModel
