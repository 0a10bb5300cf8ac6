import EntityModel.Model.Assembly
import Mathlib.Data.Finset.Card
import Mathlib.Data.List.Nodup

/-!
# EntityModel.Proofs.AnnotationStore

The annotation store as a map in order of insertion, said by the writings that led to it.

* `AnnotationEntry.swap_eq`, `getElem?_put`: one writing hands out what was found under its key, and
  leaves every entry of another key in its place.
* `LastWritten`: the value that a sequence of writings gives a key last.
* `Annotations.Gathers`: the store has the keys in order of their first writing, and under each the
  value of the last one. A writing keeps this, `Gathers.insert`, and so do all of them in turn.
* `Annotations.Reflects`: what follows from it for every question that a store answers.
* `Annotations.reflects_writings`: it holds of a store, of a node and of a model that were annotated
  from nothing.
-/

namespace EntityModel

/-! ## One writing -/

namespace AnnotationEntry

variable {Value : Type} {key : String} {value : Value}

/-- One pass does what a look-up and a writing do apart. -/
theorem swap_eq (entries : List (AnnotationEntry Value)) :
    swap key value entries =
      ((entries.find? fun entry => entry.key == key).map (·.value), put key value entries) := by
  induction entries with
  | nil => rfl
  | cons entry rest ih =>
    rw [swap, put]
    by_cases h : entry.key = key
    · simp [h]
    · simp [h, ih]

theorem map_key_put (entries : List (AnnotationEntry Value)) :
    (put key value entries).map (·.key) =
      if key ∈ entries.map (·.key) then entries.map (·.key) else entries.map (·.key) ++ [key] := by
  induction entries with
  | nil => simp [put]
  | cons entry rest ih =>
    rw [put]
    by_cases h : entry.key = key
    · simp [h]
    · rw [if_neg h, List.map_cons, List.map_cons, ih]
      by_cases hrest : key ∈ rest.map (·.key)
      · rw [if_pos hrest, if_pos (List.mem_cons_of_mem _ hrest)]
      · have hnot : key ∉ entry.key :: rest.map (·.key) := by
          rw [List.mem_cons, not_or]
          exact ⟨Ne.symm h, hrest⟩
        rw [if_neg hrest, if_neg hnot, List.cons_append]

theorem find?_key_put (entries : List (AnnotationEntry Value)) (other : String) :
    (put key value entries).find? (fun entry => entry.key == other) =
      if other = key then some ⟨key, value⟩
      else entries.find? fun entry => entry.key == other := by
  induction entries with
  | nil =>
    by_cases ho : other = key
    · simp [put, ho]
    · simp [put, ho, Ne.symm ho]
  | cons entry rest ih =>
    rw [put]
    by_cases h : entry.key = key
    · by_cases ho : other = key
      · rw [if_pos h, if_pos ho, ho]
        exact List.find?_cons_of_pos (beq_self_eq_true key)
      · rw [if_pos h, if_neg ho, List.find?_cons_of_neg, List.find?_cons_of_neg]
        · simpa [h] using Ne.symm ho
        · simpa using Ne.symm ho
    · rw [if_neg h]
      by_cases ho : entry.key = other
      · have hne : other ≠ key := ho ▸ h
        rw [if_neg hne, List.find?_cons_of_pos (by simpa using ho),
          List.find?_cons_of_pos (by simpa using ho)]
      · rw [List.find?_cons_of_neg (by simpa using ho), List.find?_cons_of_neg (by simpa using ho),
          ih]

/-- An entry of another key stays in its place, and none comes to be there. -/
theorem getElem?_put {entry : AnnotationEntry Value} (h : entry.key ≠ key)
    (entries : List (AnnotationEntry Value)) (place : Nat) :
    (put key value entries)[place]? = some entry ↔ entries[place]? = some entry := by
  induction entries generalizing place with
  | nil =>
    cases place with
    | zero =>
      simp only [put, List.getElem?_cons_zero, List.getElem?_nil, Option.some.injEq, reduceCtorEq,
        iff_false]
      rintro rfl
      exact h rfl
    | succ place => simp [put]
  | cons first rest ih =>
    rw [put]
    by_cases hf : first.key = key
    · rw [if_pos hf]
      cases place with
      | zero =>
        simp only [List.getElem?_cons_zero, Option.some.injEq]
        constructor
        · rintro rfl
          exact absurd rfl h
        · rintro rfl
          exact absurd hf h
      | succ place => simp
    · rw [if_neg hf]
      cases place with
      | zero => simp
      | succ place => simpa using ih place

end AnnotationEntry

namespace Annotations

variable {Value : Type} {store : Annotations Value} {key : String} {value : Value}

theorem keys_insert :
    (store.insert key value).keys =
      if key ∈ store.keys then store.keys else store.keys ++ [key] :=
  AnnotationEntry.map_key_put store.entries

theorem get?_insert (other : String) :
    (store.insert key value).get? other = if other = key then some value else store.get? other := by
  rw [get?, insert, AnnotationEntry.find?_key_put]
  split <;> rfl

/-- What is handed out is what was found before. -/
theorem exchange_eq : store.exchange key value = (store.get? key, store.insert key value) := by
  rw [exchange, AnnotationEntry.swap_eq]
  rfl

theorem get?_eq_none_iff : store.get? key = none ↔ key ∉ store.keys := by
  simp [get?, keys]

/-- Where keys are distinct, each entry is found under its own key. -/
theorem get?_of_mem (hd : store.keys.Nodup) {entry : AnnotationEntry Value}
    (hm : entry ∈ store.entries) : store.get? entry.key = some entry.value := by
  have hfound : (store.entries.find? fun other => other.key == entry.key).isSome := by
    rw [List.find?_isSome]
    exact ⟨entry, hm, beq_self_eq_true _⟩
  obtain ⟨found, hf⟩ := Option.isSome_iff_exists.mp hfound
  have hkey : found.key = entry.key := by simpa using List.find?_some hf
  rw [get?, hf, List.inj_on_of_nodup_map hd (List.mem_of_find?_eq_some hf) hm hkey]
  rfl

end Annotations

/-! ## Sequences of writings -/

section Writings

variable {Value : Type}

/-- Some writing gives the key this value, and no later one is to the key. -/
def LastWritten (writes : List (AnnotationEntry Value)) (key : String) (value : Value) : Prop :=
  ∃ before after, writes = before ++ ⟨key, value⟩ :: after ∧ ∀ write ∈ after, write.key ≠ key

theorem lastWritten_concat {writes : List (AnnotationEntry Value)} {write : AnnotationEntry Value}
    {key : String} {value : Value} :
    LastWritten (writes ++ [write]) key value ↔
      if key = write.key then value = write.value else LastWritten writes key value := by
  constructor
  · rintro ⟨before, after, heq, hlater⟩
    obtain rfl | ⟨after, last, rfl⟩ := List.eq_nil_or_concat' after
    · obtain ⟨-, hlast⟩ := List.append_inj' heq rfl
      obtain rfl := List.singleton_inj.mp hlast
      rw [if_pos rfl]
    · rw [← List.cons_append, ← List.append_assoc] at heq
      obtain ⟨rfl, hlast⟩ := List.append_inj' heq rfl
      obtain rfl := List.singleton_inj.mp hlast
      have hne : key ≠ write.key :=
        (hlater write (List.mem_append_right _ List.mem_cons_self)).symm
      rw [if_neg hne]
      exact ⟨before, after, rfl, fun w hw => hlater w (List.mem_append_left _ hw)⟩
  · intro h
    split at h
    · rename_i hkey
      exact ⟨writes, [], by rw [hkey, h], by simp⟩
    · rename_i hkey
      obtain ⟨before, after, rfl, hlater⟩ := h
      refine ⟨before, after ++ [write], by simp, ?_⟩
      intro w hw
      rcases List.mem_append.mp hw with hw | hw
      · exact hlater w hw
      · rw [List.mem_singleton.mp hw]
        exact Ne.symm hkey

/-- A further name counts only if it is new. -/
theorem eraseDups_concat (names : List String) (name : String) :
    (names ++ [name]).eraseDups =
      if name ∈ names then names.eraseDups else names.eraseDups ++ [name] := by
  rw [List.eraseDups_append, List.removeAll]
  split
  · rename_i h
    simp [h]
  · rename_i h
    simp [h, List.eraseDups_cons]

theorem nodup_eraseDups (names : List String) : names.eraseDups.Nodup := by
  induction names using List.reverseRecOn with
  | nil => exact List.nodup_nil
  | append_singleton before name ih =>
    rw [eraseDups_concat]
    split
    · exact ih
    · rename_i h
      have hnew : name ∉ before.eraseDups := fun hm => h (List.mem_eraseDups.mp hm)
      rw [← List.concat_eq_append]
      exact ih.concat hnew

theorem length_eraseDups (names : List String) : names.eraseDups.length = names.toFinset.card := by
  have hsame : names.eraseDups.toFinset = names.toFinset := by
    ext name
    rw [List.mem_toFinset, List.mem_toFinset, List.mem_eraseDups]
  rw [← hsame, List.toFinset_card_of_nodup (nodup_eraseDups names)]

namespace Annotations

/-- The store after further writings, one after the other. -/
def writeAll (writes : List (AnnotationEntry Value)) (store : Annotations Value) :
    Annotations Value :=
  writes.foldl (fun store write => store.insert write.key write.value) store

/-- The keys of the store stand in the order in which the writings first name them, and under each
is found what was written to it last. -/
structure Gathers (store : Annotations Value) (writes : List (AnnotationEntry Value)) : Prop where
  keys : store.keys = (writes.map (·.key)).eraseDups
  values : ∀ key value, store.get? key = some value ↔ LastWritten writes key value

namespace Gathers

variable {store : Annotations Value} {writes : List (AnnotationEntry Value)}

theorem nothing : Gathers ({} : Annotations Value) [] where
  keys := rfl
  values key value := by
    constructor
    · intro h
      cases h
    · rintro ⟨before, after, h, -⟩
      cases before <;> cases h

theorem mem_keys (h : store.Gathers writes) {key : String} :
    key ∈ store.keys ↔ key ∈ writes.map (·.key) := by
  rw [h.keys, List.mem_eraseDups]

theorem insert (h : store.Gathers writes) (write : AnnotationEntry Value) :
    (store.insert write.key write.value).Gathers (writes ++ [write]) where
  keys := by
    rw [keys_insert, List.map_append, List.map_singleton, eraseDups_concat, ← h.keys]
    exact if_congr h.mem_keys rfl rfl
  values key value := by
    rw [get?_insert, lastWritten_concat]
    split
    · rw [Option.some_inj]
      exact eq_comm
    · exact h.values key value

/-- By the last writing: what came before is gathered already. -/
theorem writeAll (writes : List (AnnotationEntry Value)) :
    (Annotations.writeAll writes {}).Gathers writes := by
  induction writes using List.reverseRecOn with
  | nil => exact nothing
  | append_singleton before write ih =>
    rw [Annotations.writeAll, List.foldl_append]
    exact ih.insert write

end Gathers

/-! ## What a store answers -/

/-- The store is a map of the writings in order of insertion, and one more writing changes nothing
but what is found under its own key. -/
structure Reflects (store : Annotations Value) (writes : List (AnnotationEntry Value)) : Prop where
  order : store.keys = (writes.map (·.key)).eraseDups
  distinct : store.keys.Nodup
  listed : ∀ entry ∈ store.entries, LastWritten writes entry.key entry.value
  found : ∀ key value, store.get? key = some value ↔ LastWritten writes key value
  missing : ∀ key, store.get? key = none ↔ key ∉ writes.map (·.key)
  contains : ∀ key, store.contains key = true ↔ key ∈ writes.map (·.key)
  size : store.size = (writes.map (·.key)).toFinset.card
  isEmpty : store.isEmpty = true ↔ writes = []
  exchanged : ∀ key value, store.exchange key value = (store.get? key, store.insert key value)
  kept : ∀ (key : String) (value : Value) (entry : AnnotationEntry Value) (place : Nat),
    entry.key ≠ key →
      ((store.insert key value).entries[place]? = some entry ↔ store.entries[place]? = some entry)

theorem Gathers.reflects {store : Annotations Value} {writes : List (AnnotationEntry Value)}
    (h : store.Gathers writes) : store.Reflects writes := by
  have hdistinct : store.keys.Nodup := by
    rw [h.keys]
    exact nodup_eraseDups _
  have hmissing : ∀ key, store.get? key = none ↔ key ∉ writes.map (·.key) := by
    intro key
    rw [get?_eq_none_iff, h.mem_keys]
  exact
    { order := h.keys
      distinct := hdistinct
      listed := fun entry hm => (h.values _ _).mp (get?_of_mem hdistinct hm)
      found := h.values
      missing := hmissing
      contains := fun key => by
        rw [Annotations.contains, Option.isSome_iff_ne_none, ne_eq, hmissing, not_not]
      size := by
        rw [← length_eraseDups, ← h.keys, Annotations.keys, List.length_map]
        rfl
      isEmpty := by
        rw [Annotations.isEmpty, List.isEmpty_iff, ← List.map_eq_nil_iff (f := (·.key))]
        change store.keys = [] ↔ _
        rw [h.keys, List.eq_nil_iff_forall_not_mem]
        simp [List.eq_nil_iff_forall_not_mem]
      exchanged := fun _ _ => exchange_eq
      kept := fun _ _ _ place hne => AnnotationEntry.getElem?_put hne store.entries place }

end Annotations

end Writings

/-! ## Nodes and models -/

section Nodes

variable {α : Type} [MetadataNode α]

/-- The node with further annotations, one after the other. -/
def annotateAll (writes : List (AnnotationEntry AnnotationValue)) (node : α) : α :=
  writes.foldl (fun node write => annotate write.key write.value node) node

theorem annotations_annotateAll (writes : List (AnnotationEntry AnnotationValue)) (node : α) :
    MetadataNode.annotations (annotateAll writes node) =
      (MetadataNode.annotations node).writeAll writes := by
  induction writes generalizing node with
  | nil => rfl
  | cons write rest ih =>
    have hstep : MetadataNode.annotations (annotate write.key write.value node) =
        (MetadataNode.annotations node).insert write.key write.value :=
      MetadataNode.annotations_setAnnotations _ _
    rw [annotateAll, List.foldl_cons]
    change MetadataNode.annotations (annotateAll rest (annotate write.key write.value node)) = _
    rw [ih, hstep]
    rfl

end Nodes

/-- The annotation that a declaration writes to the model. -/
def Declaration.write? : Declaration → Option (AnnotationEntry AnnotationValue)
  | .annotate key value => some ⟨key, value⟩
  | _ => none

theorem Model.annotations_foldl_declare (declarations : List Declaration) (m : Model) :
    (declarations.foldl declare m).annotations =
      m.annotations.writeAll (declarations.filterMap Declaration.write?) := by
  induction declarations generalizing m with
  | nil => rfl
  | cons declaration rest ih =>
    rw [List.foldl_cons, ih]
    cases declaration with
    | annotate key value => rfl
    | version | ns | container => rfl

/-- What is written to a fresh store is reflected in order of insertion, whatever the values. So is
what is written to a node without annotations, or to a model under declaration. -/
theorem Annotations.reflects_writings :
    (∀ {Value : Type} (writes : List (AnnotationEntry Value)),
      (writeAll writes {}).Reflects writes) ∧
    ∀ writes : List (AnnotationEntry AnnotationValue),
      (∀ {α : Type} [MetadataNode α] (node : α), MetadataNode.annotations node = {} →
        (MetadataNode.annotations (annotateAll writes node)).Reflects writes ∧
          ((metadataItem (annotateAll writes node)).hasAnnotations = false ↔ writes = [])) ∧
      ∀ (name : String) (declarations : List Declaration),
        declarations.filterMap Declaration.write? = writes →
          (Model.assemble name declarations).annotations.Reflects writes ∧
            ((metadataItem (Model.assemble name declarations)).hasAnnotations = false ↔
              writes = []) := by
  have hwritten {Value : Type} (writes : List (AnnotationEntry Value)) :
      (writeAll writes {}).Reflects writes := (Gathers.writeAll writes).reflects
  have hempty {writes : List (AnnotationEntry AnnotationValue)}
      {store : Annotations AnnotationValue} (h : store.Reflects writes) :
      (!store.isEmpty) = false ↔ writes = [] := by
    rw [Bool.not_eq_false', h.isEmpty]
  refine ⟨hwritten, fun writes => ⟨?_, ?_⟩⟩
  · intro α _ node hnode
    have hnodes : (MetadataNode.annotations (annotateAll writes node)).Reflects writes := by
      rw [annotations_annotateAll, hnode]
      exact hwritten writes
    exact ⟨hnodes, hempty hnodes⟩
  · rintro name declarations rfl
    have hmodel : (Model.assemble name declarations).annotations.Reflects
        (declarations.filterMap Declaration.write?) := by
      rw [Model.assemble, Model.annotations_foldl_declare]
      exact hwritten _
    exact ⟨hmodel, hempty hmodel⟩

/-- Numbers in a store of their own; texts of a node and of a model. -/
theorem Annotations.reflects_writings_rewritten :
    let numbers : List (AnnotationEntry Nat) := [⟨"first", 1⟩, ⟨"second", 2⟩, ⟨"first", 3⟩]
    let text (content : String) : AnnotationValue := ⟨"&str", content⟩
    let writes : List (AnnotationEntry AnnotationValue) :=
      [⟨"first", text "x"⟩, ⟨"second", text "y"⟩, ⟨"first", text "z"⟩]
    let set : EntitySet := { name := "Customers", elementType := "Sales.Customer" }
    let declarations : List Declaration :=
      [.annotate "first" (text "x"), .annotate "second" (text "y"),
        .version defaultSchemaVersion, .annotate "first" (text "z")]
    (writeAll numbers {}).get? "first" = some 3 ∧
      set.annotations = {} ∧ declarations.filterMap Declaration.write? = writes ∧
      (annotateAll writes set).annotations.keys = ["first", "second"] ∧
      (Model.assemble "Shop" declarations).annotations.get? "third" = none ∧
      (Model.assemble "Shop" declarations).annotations.size = 2 := by
  intro numbers text writes set declarations
  have hwrites : declarations.filterMap Declaration.write? = writes := rfl
  obtain ⟨hstore, hwritten⟩ := reflects_writings
  obtain ⟨hnode, hmodel⟩ := hwritten writes
  have hset := (hnode set rfl).1
  have hshop := (hmodel "Shop" declarations hwrites).1
  refine ⟨?_, rfl, hwrites, ?_, ?_, ?_⟩
  · have hlast : LastWritten numbers "first" 3 :=
      ⟨[⟨"first", 1⟩, ⟨"second", 2⟩], [], rfl, fun _ h => absurd h List.not_mem_nil⟩
    exact ((hstore numbers).found "first" 3).mpr hlast
  · exact hset.order.trans (by decide)
  · exact (hshop.missing "third").mpr (by decide)
  · exact hshop.size.trans (by decide)

end EntityModel
