import EntityModel.Toml.Document

/-!
# EntityModel.Proofs.DistinctKeys

No table that a document describes has a key twice, at any depth.

* `Value.DistinctKeys`, `Table.DistinctKeys`: what is claimed of values and tables.
* `Draft.DistinctKeys`: the same of a table that is still being read, for the table as it stands.
  Every edit of a draft keeps it.
* `Yields`: what holds of all that a reader reads. `yields_value` is the induction on the depth of
  brackets and braces.
* `Table.distinctKeys_of_ofText?`: the tables of documents.
* `Parser.KeepsKeysDistinct`: what is expected of a parser. `keepsKeysDistinct_parse`: the one here
  does so.
-/

namespace EntityModel
namespace Toml

mutual

def Value.DistinctKeys : Value → Prop
  | .array items => Value.AllDistinctKeys items
  | .table entries => Table.DistinctKeys entries
  | _ => True

def Value.AllDistinctKeys : List Value → Prop
  | [] => True
  | value :: rest => value.DistinctKeys ∧ Value.AllDistinctKeys rest

def Table.DistinctKeys : List (String × Value) → Prop
  | [] => True
  | (key, value) :: rest =>
    (∀ e ∈ rest, e.1 ≠ key) ∧ value.DistinctKeys ∧ Table.DistinctKeys rest

end

theorem Value.allDistinctKeys_iff {items : List Value} :
    Value.AllDistinctKeys items ↔ ∀ value ∈ items, value.DistinctKeys := by
  induction items with
  | nil => simp [AllDistinctKeys]
  | cons value rest ih => rw [AllDistinctKeys, ih, List.forall_mem_cons]

theorem Table.distinctKeys_cons_iff {e : String × Value} {rest : Table} :
    Table.DistinctKeys (e :: rest) ↔
      (∀ e' ∈ rest, e'.1 ≠ e.1) ∧ e.2.DistinctKeys ∧ Table.DistinctKeys rest := by
  rw [DistinctKeys]

theorem Table.distinctKeys_iff {table : Table} :
    Table.DistinctKeys table ↔
      (table.map (·.1)).Nodup ∧ ∀ e ∈ table, e.2.DistinctKeys := by
  induction table with
  | nil => simp [DistinctKeys]
  | cons e rest ih =>
    rw [distinctKeys_cons_iff, ih, List.map_cons, List.nodup_cons, List.forall_mem_cons]
    simp only [List.mem_map, not_exists, not_and]
    exact ⟨fun ⟨hne, hvalue, hnodup, hrest⟩ => ⟨⟨hne, hnodup⟩, hvalue, hrest⟩,
      fun ⟨⟨hne, hnodup⟩, hvalue, hrest⟩ => ⟨hne, hvalue, hnodup, hrest⟩⟩

/-- What every step keeps holds after all of them, if none is refused. -/
theorem invariant_of_foldlM {α β : Type} {step : β → α → Option β} {items : List α} {I : β → Prop}
    (hstep : ∀ b b' : β, ∀ a ∈ items, I b → step b a = some b' → I b') {b b' : β} (hb : I b)
    (h : items.foldlM step b = some b') : I b' := by
  induction items generalizing b with
  | nil =>
    cases h
    exact hb
  | cons a rest ih =>
    rw [List.foldlM_cons] at h
    obtain ⟨next, hnext, hgo⟩ := Option.bind_eq_some_iff.mp h
    have hrest := fun b b' a ha => hstep b b' a (List.mem_cons_of_mem _ ha)
    exact ih hrest (hstep b next a List.mem_cons_self hb hnext) hgo

/-! ## Drafts -/

namespace Draft

def DistinctKeys (draft : Draft) : Prop :=
  Table.DistinctKeys draft.finish

theorem finish_eq (draft : Draft) : draft.finish = draft.map fun e => (e.1, e.2.finish) := by
  induction draft with
  | nil => rfl
  | cons e rest ih => rw [finish, ih, List.map_cons]

theorem distinctKeys_nil : DistinctKeys [] :=
  trivial

theorem distinctKeys_cons_iff {e : String × Entry} {rest : Draft} :
    DistinctKeys (e :: rest) ↔
      (∀ e' ∈ rest, e'.1 ≠ e.1) ∧ e.2.finish.DistinctKeys ∧ DistinctKeys rest := by
  rw [DistinctKeys, finish, Table.distinctKeys_cons_iff, finish_eq, List.forall_mem_map,
    DistinctKeys, finish_eq]

theorem mem_put {key : String} {entry : Entry} {e : String × Entry} {draft : Draft}
    (h : e ∈ draft.put key entry) : e = (key, entry) ∨ e ∈ draft := by
  induction draft with
  | nil => exact .inl (List.mem_singleton.mp h)
  | cons first rest ih =>
    rw [put] at h
    split at h
    · exact (List.mem_cons.mp h).imp_right (List.mem_cons_of_mem first)
    · obtain rfl | hrest := List.mem_cons.mp h
      · exact .inr List.mem_cons_self
      · exact (ih hrest).imp_right (List.mem_cons_of_mem first)

/-- The key takes the place of itself, or comes after keys which all differ from it. -/
theorem DistinctKeys.put {draft : Draft} (h : draft.DistinctKeys) {entry : Entry}
    (hentry : entry.finish.DistinctKeys) (key : String) : (draft.put key entry).DistinctKeys := by
  induction draft with
  | nil => exact distinctKeys_cons_iff.mpr ⟨fun _ he => absurd he List.not_mem_nil, hentry, trivial⟩
  | cons e rest ih =>
    obtain ⟨hne, hfirst, hrest⟩ := distinctKeys_cons_iff.mp h
    rw [Draft.put]
    split
    · next hkey =>
      rw [← hkey]
      exact distinctKeys_cons_iff.mpr ⟨hne, hentry, hrest⟩
    · next hkey =>
      refine distinctKeys_cons_iff.mpr ⟨fun e' he' => ?_, hfirst, ih hrest⟩
      obtain rfl | hmem := mem_put he'
      · exact Ne.symm hkey
      · exact hne e' hmem

theorem DistinctKeys.finish_of_entry? {draft : Draft} (h : draft.DistinctKeys) {key : String}
    {entry : Entry} (hentry : draft.entry? key = some entry) : entry.finish.DistinctKeys := by
  obtain ⟨e, hfind, rfl⟩ := Option.map_eq_some_iff.mp hentry
  rw [DistinctKeys, Table.distinctKeys_iff, finish_eq, List.forall_mem_map] at h
  exact h.2 e (List.mem_of_find?_eq_some hfind)

theorem distinctKeys_tables_iff {earlier : List Value} {last : Draft} :
    (Entry.tables earlier last).finish.DistinctKeys ↔
      (∀ value ∈ earlier, value.DistinctKeys) ∧ last.DistinctKeys := by
  rw [Entry.finish, Value.DistinctKeys, Value.allDistinctKeys_iff, List.forall_mem_append,
    List.forall_mem_singleton, Value.DistinctKeys, DistinctKeys]

theorem distinctKeys_table_iff {form : TableForm} {inner : Draft} :
    (Entry.table form inner).finish.DistinctKeys ↔ inner.DistinctKeys := by
  rw [Entry.finish, Value.DistinctKeys, DistinctKeys]

/-- An edit, if it is allowed, leaves distinct keys distinct. -/
def Keeps (edit : Draft → Option Draft) : Prop :=
  ∀ ⦃draft draft' : Draft⦄, draft.DistinctKeys → edit draft = some draft' → draft'.DistinctKeys

/-- The table under a key is edited, and put back or put in. -/
theorem DistinctKeys.edit_table {draft draft' inner : Draft} (h : draft.DistinctKeys)
    (hinner : inner.DistinctKeys) {edit : Draft → Option Draft} (hedit : Keeps edit) {key : String}
    {form : TableForm}
    (heq : (edit inner).map (fun inner => draft.put key (.table form inner)) = some draft') :
    draft'.DistinctKeys := by
  obtain ⟨inner', hedited, rfl⟩ := Option.map_eq_some_iff.mp heq
  exact h.put (distinctKeys_table_iff.mpr (hedit hinner hedited)) key

/-- The last table of the list under a key is edited. -/
theorem DistinctKeys.edit_tables {draft draft' last : Draft} (h : draft.DistinctKeys) {key : String}
    {earlier : List Value} (hentry : draft.entry? key = some (.tables earlier last))
    {edit : Draft → Option Draft} (hedit : Keeps edit)
    (heq : (edit last).map (fun last => draft.put key (.tables earlier last)) = some draft') :
    draft'.DistinctKeys := by
  obtain ⟨last', hedited, rfl⟩ := Option.map_eq_some_iff.mp heq
  obtain ⟨hearlier, hlast⟩ := distinctKeys_tables_iff.mp (h.finish_of_entry? hentry)
  exact h.put (distinctKeys_tables_iff.mpr ⟨hearlier, hedit hlast hedited⟩) key

theorem keeps_insertNew {key : String} {value : Value} (hvalue : value.DistinctKeys) :
    Keeps (insertNew key (.value value)) := by
  intro draft draft' hdraft h
  rw [insertNew] at h
  split at h
  · cases h
    have hentry : (Entry.value value).finish.DistinctKeys := by rwa [Entry.finish]
    exact hdraft.put hentry key
  · cases h

theorem Keeps.editUnder {edit : Draft → Option Draft} (hedit : Keeps edit) (key : String) :
    Keeps (Draft.editUnder key edit) := by
  intro draft draft' hdraft h
  rw [Draft.editUnder] at h
  split at h
  · exact hdraft.edit_table distinctKeys_nil hedit h
  · next hentry =>
    have hinner := distinctKeys_table_iff.mp (hdraft.finish_of_entry? hentry)
    exact hdraft.edit_table hinner hedit h
  · next hentry => exact hdraft.edit_tables hentry hedit h
  · cases h

theorem Keeps.editAt {edit : Draft → Option Draft} (hedit : Keeps edit) (keys : List String) :
    Keeps (Draft.editAt keys edit) := by
  induction keys with
  | nil => exact hedit
  | cons key rest ih => exact ih.editUnder key

theorem keeps_declare (path : KeyPath) : Keeps (declare path) := by
  refine Keeps.editAt (fun draft draft' hdraft h => ?_) path.parents
  split at h
  · cases h
    exact hdraft.put (distinctKeys_table_iff.mpr distinctKeys_nil) path.key
  · next inner hentry =>
    cases h
    have hold := distinctKeys_table_iff.mp (hdraft.finish_of_entry? hentry)
    exact hdraft.put (distinctKeys_table_iff.mpr hold) path.key
  · cases h

theorem keeps_append (path : KeyPath) : Keeps (append path) := by
  refine Keeps.editAt (fun draft draft' hdraft h => ?_) path.parents
  split at h
  · cases h
    have hnew := distinctKeys_tables_iff.mpr ⟨List.forall_mem_nil _, distinctKeys_nil⟩
    exact hdraft.put hnew path.key
  · next earlier last hentry =>
    cases h
    obtain ⟨hearlier, hlast⟩ := distinctKeys_tables_iff.mp (hdraft.finish_of_entry? hentry)
    refine hdraft.put (distinctKeys_tables_iff.mpr ⟨?_, distinctKeys_nil⟩) path.key
    exact List.forall_mem_append.mpr ⟨hearlier, List.forall_mem_singleton.mpr hlast⟩
  · cases h

theorem keeps_assignBelow {value : Value} (hvalue : value.DistinctKeys) (key : String)
    (parents : List String) : Keeps (assignBelow key value parents) := by
  induction parents with
  | nil =>
    intro draft draft' hdraft h
    exact keeps_insertNew hvalue hdraft h
  | cons parent rest ih =>
    intro draft draft' hdraft h
    rw [assignBelow] at h
    split at h
    · exact hdraft.edit_table distinctKeys_nil ih h
    · cases h
    · next hentry =>
      have hinner := distinctKeys_table_iff.mp (hdraft.finish_of_entry? hentry)
      exact hdraft.edit_table hinner ih h
    · next hentry =>
      split at h
      · cases h
      · exact hdraft.edit_tables hentry ih h
    · cases h

theorem keeps_assign {value : Value} (hvalue : value.DistinctKeys) (path : KeyPath) :
    Keeps (assign path value) :=
  keeps_assignBelow hvalue path.key path.parents

theorem distinctKeys_of_ofAssignments? {assignments : List (KeyPath × Value)} {draft : Draft}
    (hvalues : ∀ a ∈ assignments, a.2.DistinctKeys) (h : ofAssignments? assignments = some draft) :
    draft.DistinctKeys :=
  invariant_of_foldlM (fun _ _ a ha hdraft hnext => keeps_assign (hvalues a ha) a.1 hdraft hnext)
    distinctKeys_nil h

end Draft

/-! ## Readers -/

section Readers

variable {α : Type}

/-- What is read satisfies `P`, whatever the text. -/
def Yields (read : Reader α) (P : α → Prop) : Prop :=
  ∀ ⦃s rest : List Char⦄ ⦃x : α⦄, read s = some (x, rest) → P x

variable {P : α → Prop} {item : Reader α}

theorem Yields.separated (hitem : Yields item P) (next? : List Char → Option (List Char))
    (fuel : Nat) : Yields (Toml.separated item next? fuel) fun xs => ∀ x ∈ xs, P x := by
  induction fuel with
  | zero =>
    intro s rest xs h
    cases h
  | succ fuel ih =>
    intro s rest xs h
    rw [Toml.separated] at h
    split at h
    · cases h
    · next x after hx =>
      split at h
      · cases h
        exact List.forall_mem_singleton.mpr (hitem hx)
      · split at h
        · cases h
        · next xs' after' hxs =>
          cases h
          exact List.forall_mem_cons.mpr ⟨hitem hx, ih hxs⟩

theorem Yields.items (hitem : Yields item P) (next? : List Char → Option (List Char)) :
    Yields (Toml.items item next?) fun xs => ∀ x ∈ xs, P x :=
  fun s _ _ h => hitem.separated next? (s.length + 1) h

theorem Yields.bracketed (hitem : Yields item P) (close : Char) :
    Yields (Toml.bracketed close item) fun xs => ∀ x ∈ xs, P x := by
  intro s rest xs h
  rw [Toml.bracketed] at h
  split at h
  · cases h
    exact List.forall_mem_nil P
  · split at h
    · cases h
    · next xs' after hxs =>
      obtain ⟨after', -, heq⟩ := Option.map_eq_some_iff.mp h
      cases heq
      exact hitem.items _ hxs

theorem Yields.assignment {read : Reader Value} {P : Value → Prop} (hread : Yields read P)
    (skip : List Char → List Char) : Yields (Toml.assignment skip read) fun a => P a.2 := by
  intro s rest a h
  rw [Toml.assignment] at h
  split at h
  · cases h
  · split at h
    · obtain ⟨⟨value, after⟩, hvalue, heq⟩ := Option.map_eq_some_iff.mp h
      cases heq
      exact hread hvalue
    · cases h

end Readers

/-! ## Documents -/

theorem distinctKeys_of_number? {word : List Char} {value : Value} (h : number? word = some value) :
    value.DistinctKeys := by
  rw [number?] at h
  split at h
  · cases h
    trivial
  · split at h
    · cases h
      cases integerValue? word <;> trivial
    · split at h
      · cases h
        cases floatValue? word <;> trivial
      · cases h

theorem distinctKeys_of_word? {word : List Char} {value : Value} (h : word? word = some value) :
    value.DistinctKeys := by
  rw [word?] at h
  split at h
  · cases h
    trivial
  · split at h
    · cases h
      trivial
    · split at h
      · cases h
        trivial
      · exact distinctKeys_of_number? h

theorem yields_scalar : Yields scalar Value.DistinctKeys := by
  intro s rest value h
  rw [scalar] at h
  split at h
  · obtain ⟨text, -, heq⟩ := Option.map_eq_some_iff.mp h
    cases heq
    trivial
  · obtain ⟨text, -, heq⟩ := Option.map_eq_some_iff.mp h
    cases heq
    trivial
  · obtain ⟨value', hword, heq⟩ := Option.map_eq_some_iff.mp h
    cases heq
    exact distinctKeys_of_word? hword

theorem yields_value (depth : Nat) : Yields (value depth) Value.DistinctKeys := by
  induction depth with
  | zero =>
    intro s rest x h
    exact yields_scalar h
  | succ depth ih =>
    intro s rest x h
    rw [value.eq_def] at h
    split at h
    · cases ‹_ + 1 = 0›
    · next heq =>
      cases heq
      split at h
      · obtain ⟨⟨xs, after⟩, hxs, heq⟩ := Option.map_eq_some_iff.mp h
        cases heq
        exact Value.allDistinctKeys_iff.mpr (ih.bracketed _ hxs)
      · split at h
        · cases h
        · next assignments after hassignments =>
          obtain ⟨draft, hdraft, heq⟩ := Option.map_eq_some_iff.mp h
          cases heq
          have hvalues := (ih.assignment skipGap).bracketed _ hassignments
          exact Draft.distinctKeys_of_ofAssignments? hvalues hdraft
      · exact yields_scalar h

/-- No table in the value that a statement assigns has a key twice. -/
def Statement.DistinctKeys : Statement → Prop
  | .assign _ value => value.DistinctKeys
  | _ => True

theorem yields_statement : Yields statement Statement.DistinctKeys := by
  intro s rest x h
  rw [statement.eq_def] at h
  split at h
  · split at h
    · cases h
      trivial
    · cases h
  · split at h
    · cases h
      trivial
    · cases h
  · obtain ⟨⟨a, after⟩, ha, heq⟩ := Option.map_eq_some_iff.mp h
    cases heq
    exact (yields_value maxDepth).assignment skipBlanks ha

theorem yields_line : Yields line fun found => ∀ x ∈ found, x.DistinctKeys := by
  intro s rest found h
  rw [line] at h
  split at h
  · cases h
    exact fun x hx => nomatch hx
  · obtain ⟨⟨x, after⟩, hx, heq⟩ := Option.map_eq_some_iff.mp h
    cases heq
    intro y hy
    cases hy
    exact yields_statement hx

theorem distinctKeys_of_statements? {text : String} {statements : List Statement}
    (h : statements? text = some statements) : ∀ x ∈ statements, x.DistinctKeys := by
  rw [statements?] at h
  split at h
  · split at h
    · next lines hlines =>
      cases h
      intro x hx
      obtain ⟨found, hfound, hid⟩ := List.mem_filterMap.mp hx
      exact yields_line.items nextLine? hlines found hfound x hid
    · cases h
  · cases h

theorem Progress.distinctKeys_of_perform {p p' : Progress} {x : Statement}
    (hp : p.root.DistinctKeys) (hx : x.DistinctKeys) (h : p.perform x = some p') :
    p'.root.DistinctKeys := by
  cases x with
  | declare path =>
    obtain ⟨root, hroot, rfl⟩ := Option.map_eq_some_iff.mp h
    exact Draft.keeps_declare path hp hroot
  | append path =>
    obtain ⟨root, hroot, rfl⟩ := Option.map_eq_some_iff.mp h
    exact Draft.keeps_append path hp hroot
  | assign path value =>
    obtain ⟨root, hroot, rfl⟩ := Option.map_eq_some_iff.mp h
    exact (Draft.keeps_assign hx path).editAt p.current hp hroot

/-- No table of a document has a key twice. -/
theorem Table.distinctKeys_of_ofText? {text : String} {table : Table}
    (h : Table.ofText? text = some table) : Table.DistinctKeys table := by
  rw [Table.ofText?] at h
  split at h
  · cases h
  · next statements hstatements =>
    obtain ⟨p, hp, rfl⟩ := Option.map_eq_some_iff.mp h
    have hall := distinctKeys_of_statements? hstatements
    exact invariant_of_foldlM (I := fun p : Progress => p.root.DistinctKeys)
      (fun _ _ x hx hroot hnext => Progress.distinctKeys_of_perform hroot (hall x hx) hnext)
      Draft.distinctKeys_nil hp

/-! ## Parsers -/

/-- No table that the parser makes has a key twice, at any depth. -/
def Parser.KeepsKeysDistinct (parse : Parser) : Prop :=
  ∀ text table, parse text = .ok table → Table.DistinctKeys table

theorem keepsKeysDistinct_parse : Parser.KeepsKeysDistinct parse := by
  intro text table h
  rw [parse] at h
  split at h
  · next hread =>
    cases h
    exact Table.distinctKeys_of_ofText? hread
  · cases h

end Toml
end EntityModel
