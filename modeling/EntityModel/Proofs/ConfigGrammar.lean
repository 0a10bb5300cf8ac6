import EntityModel.Config
import EntityModel.Proofs.DistinctKeys
import EntityModel.Proofs.FunctionPoints
import EntityModel.Proofs.FunctionSurface
import Mathlib

/-!
# EntityModel.Proofs.ConfigGrammar

Which documents are configurations, and what is reported of the others.

* `Configures`: the tables that are configurations, with what each says of functions.
* `Refuses`: why an entry is refused, for either table. `RejectsSettings`, `RejectsSwitch`: which
  values the key of the root and that of the settings cannot have.
* `FirstRefused`: the error of the refused entry whose key comes first.
* `Reads`: a result which is the configuration that a table holds, or else the error of its first
  refused entry.
* `TraversalConfig.readKnown_ok_iff`, `readKnown_error_iff`: both levels are read by one function,
  of which this is shown once.
* `TraversalConfig.reads_grammar`: documents of plain values as any parser reads them, the switch
  that is set last, and when a log has entries of functions.
-/

namespace EntityModel

/-! ## Plain values -/

namespace Toml

mutual

/-- Booleans, numbers, texts, and tables of such. -/
def Value.isPlain : Value → Bool
  | .boolean _ | .integer _ | .float _ | .string _ => true
  | .dateTime | .unreadable | .array _ => false
  | .table entries => Table.isPlain entries

def Table.isPlain : List (String × Value) → Bool
  | [] => true
  | (_, value) :: rest => value.isPlain && Table.isPlain rest

end

theorem Table.isPlain_cons_iff {e : String × Value} {rest : Table} :
    Table.isPlain (e :: rest) = true ↔ e.2.isPlain = true ∧ Table.isPlain rest = true := by
  rw [isPlain, Bool.and_eq_true]

theorem Table.isPlain_iff {table : Table} :
    Table.isPlain table = true ↔ ∀ e ∈ table, e.2.isPlain = true := by
  induction table with
  | nil => simp [isPlain]
  | cons e rest ih => rw [isPlain_cons_iff, ih, List.forall_mem_cons]

end Toml

/-! ## The grammar -/

/-- The tables that are configurations, and whether they enable functions. -/
inductive Configures : Toml.Table → Bool → Prop where
  | empty : Configures [] false
  | unset : Configures [("functions", .table [])] false
  | set (on : Bool) : Configures [("functions", .table [("enabled", .boolean on)])] on

/-- Of the refused entries one has a key before those of all others. The error is its error. -/
def FirstRefused (R : String × Toml.Value → ConfigError → Prop) (table : Toml.Table)
    (error : ConfigError) : Prop :=
  ∃ e ∈ table, R e error ∧ ∀ e' ∈ table, ∀ error', R e' error' → e.1 ≤ e'.1

/-- Why a table refuses an entry: it knows one key only, and rejects some values of that. -/
inductive Refuses (known : ConfigKey) (Rejects : Toml.Value → ConfigError → Prop) :
    String × Toml.Value → ConfigError → Prop where
  | unknown {key : String} {value : Toml.Value} :
      key ≠ known.name → Refuses known Rejects (key, value) (.unknownKey key known)
  | value {value : Toml.Value} {error : ConfigError} :
      Rejects value error → Refuses known Rejects (known.name, value) error

inductive RejectsSwitch : Toml.Value → ConfigError → Prop where
  | wrong {value : Toml.Value} :
      (∀ on, value ≠ .boolean on) → RejectsSwitch value (.wrongValue .enabled value)

/-- What is refused among the settings is the reason why the settings are rejected. -/
inductive RejectsSettings : Toml.Value → ConfigError → Prop where
  | wrong {value : Toml.Value} :
      (∀ entries, value ≠ .table entries) → RejectsSettings value (.wrongValue .functions value)
  | first {entries : Toml.Table} {error : ConfigError} :
      FirstRefused (Refuses .enabled RejectsSwitch) entries error →
      RejectsSettings (.table entries) error

structure Reads (table : Toml.Table) (result : Except ConfigError TraversalConfig) : Prop where
  accepted : ∀ config, result = .ok config ↔ Configures table config.functionsEnabled
  refused : ∀ error, result = .error error ↔
    FirstRefused (Refuses .functions RejectsSettings) table error

theorem firstRefused_singleton {R : String × Toml.Value → ConfigError → Prop}
    {e : String × Toml.Value} {error : ConfigError} (h : R e error) : FirstRefused R [e] error :=
  ⟨e, List.mem_singleton_self e, h, List.forall_mem_singleton.mpr fun _ _ => String.le_refl e.1⟩

theorem firstRefused_congr {R R' : String × Toml.Value → ConfigError → Prop} {table : Toml.Table}
    (h : ∀ e ∈ table, ∀ error, R e error ↔ R' e error) {error : ConfigError} :
    FirstRefused R table error ↔ FirstRefused R' table error := by
  constructor
  · rintro ⟨e, he, hrefused, hfirst⟩
    exact ⟨e, he, (h e he error).mp hrefused,
      fun e' he' error' h' => hfirst e' he' error' ((h e' he' error').mpr h')⟩
  · rintro ⟨e, he, hrefused, hfirst⟩
    exact ⟨e, he, (h e he error).mpr hrefused,
      fun e' he' error' h' => hfirst e' he' error' ((h e' he' error').mp h')⟩

theorem firstRefused_cons_of_accepted {R : String × Toml.Value → ConfigError → Prop}
    {e : String × Toml.Value} {rest : Toml.Table} (h : ∀ error, ¬ R e error) {error : ConfigError} :
    FirstRefused R (e :: rest) error ↔ FirstRefused R rest error := by
  constructor
  · rintro ⟨e', he', hrefused, hfirst⟩
    obtain rfl | hmem := List.mem_cons.mp he'
    · exact absurd hrefused (h error)
    · exact ⟨e', hmem, hrefused, fun other hother => hfirst other (List.mem_cons_of_mem e hother)⟩
  · rintro ⟨e', hmem, hrefused, hfirst⟩
    refine ⟨e', List.mem_cons_of_mem e hmem, hrefused, fun other hother error' h' => ?_⟩
    obtain rfl | hother := List.mem_cons.mp hother
    · exact absurd h' (h error')
    · exact hfirst other hother error' h'

/-- No entry comes before one whose key is less than all others. -/
theorem firstRefused_cons_of_refused {R : String × Toml.Value → ConfigError → Prop}
    {e : String × Toml.Value} {rest : Toml.Table} {first : ConfigError} (h : R e first)
    (hlt : ∀ e' ∈ rest, e.1 ≤ e'.1 ∧ e'.1 ≠ e.1) {error : ConfigError} :
    FirstRefused R (e :: rest) error ↔ R e error := by
  constructor
  · rintro ⟨e', he', hrefused, hfirst⟩
    obtain rfl | hmem := List.mem_cons.mp he'
    · exact hrefused
    · obtain ⟨hle, hne⟩ := hlt e' hmem
      exact absurd (String.le_antisymm (hfirst e List.mem_cons_self first h) hle) hne
  · intro hrefused
    refine ⟨e, List.mem_cons_self, hrefused, fun other hother _ _ => ?_⟩
    obtain rfl | hother := List.mem_cons.mp hother
    · exact String.le_refl _
    · exact (hlt other hother).1

/-! ## Reading -/

namespace TraversalConfig

section Known

variable {α : Type} {known : ConfigKey} {read : Toml.Value → Except ConfigError α} {absent x : α}
  {table : Toml.Table} {error : ConfigError}

def readEntry (known : ConfigKey) (read : Toml.Value → Except ConfigError α)
    (e : String × Toml.Value) : Except ConfigError α :=
  if e.1 = known.name then read e.2 else .error (.unknownKey e.1 known)

theorem readEntry_known (value : Toml.Value) :
    readEntry known read (known.name, value) = read value :=
  if_pos rfl

theorem readKnown_eq : readKnown known read absent table =
    (inKeyOrder table).foldlM (fun _ e => readEntry known read e) absent :=
  rfl

theorem inKeyOrder_perm (table : Toml.Table) : (inKeyOrder table).Perm table :=
  List.mergeSort_perm ..

theorem pairwise_inKeyOrder (table : Toml.Table) :
    (inKeyOrder table).Pairwise fun a b => a.1 ≤ b.1 := by
  have h : (inKeyOrder table).Pairwise fun a b => decide (a.1 ≤ b.1) = true := by
    refine List.pairwise_mergeSort (fun a b c hab hbc => ?_) (fun a b => ?_) table
    · exact decide_eq_true (String.le_trans (of_decide_eq_true hab) (of_decide_eq_true hbc))
    · simpa using String.le_total a.1 b.1
  exact h.imp of_decide_eq_true

/-- The loop stops at the first entry that is refused. As the keys ascend, no other refused entry
has a key before it. -/
theorem foldlM_readEntry_error_iff (hsorted : table.Pairwise fun a b => a.1 ≤ b.1)
    (hnodup : (table.map (·.1)).Nodup) :
    table.foldlM (fun _ e => readEntry known read e) absent = .error error ↔
      FirstRefused (fun e error => readEntry known read e = .error error) table error := by
  induction table generalizing absent with
  | nil => simp [FirstRefused, pure, Except.pure]
  | cons e rest ih =>
    obtain ⟨hle, hsorted⟩ := List.pairwise_cons.mp hsorted
    rw [List.map_cons, List.nodup_cons] at hnodup
    obtain ⟨hnew, hnodup⟩ := hnodup
    rw [List.foldlM_cons]
    cases hread : readEntry known read e with
    | error first =>
      have hlt : ∀ e' ∈ rest, e.1 ≤ e'.1 ∧ e'.1 ≠ e.1 := fun e' he' =>
        ⟨hle e' he', fun heq => hnew (heq ▸ List.mem_map_of_mem he')⟩
      rw [firstRefused_cons_of_refused hread hlt, hread]
      rfl
    | ok y =>
      have hnot : ∀ error, readEntry known read e ≠ .error error := fun error h => by
        cases hread.symm.trans h
      rw [firstRefused_cons_of_accepted hnot]
      exact ih hsorted hnodup

theorem readEntry_error_iff {Rejects : Toml.Value → ConfigError → Prop} {e : String × Toml.Value}
    (hread : read e.2 = .error error ↔ Rejects e.2 error) :
    readEntry known read e = .error error ↔ Refuses known Rejects e error := by
  obtain ⟨key, value⟩ := e
  by_cases hkey : key = known.name
  · subst hkey
    rw [readEntry_known, hread]
    constructor
    · exact .value
    · rintro (hne | hrejects)
      · exact absurd rfl hne
      · exact hrejects
  · rw [readEntry, if_neg hkey]
    constructor
    · rintro ⟨⟩
      exact .unknown hkey
    · rintro (_ | _)
      · rfl
      · exact absurd rfl hkey

theorem readKnown_error_iff {Rejects : Toml.Value → ConfigError → Prop}
    (hnodup : (table.map (·.1)).Nodup)
    (hread : ∀ e ∈ table, ∀ error, read e.2 = .error error ↔ Rejects e.2 error) :
    readKnown known read absent table = .error error ↔
      FirstRefused (Refuses known Rejects) table error := by
  have hperm := inKeyOrder_perm table
  have hentries : ∀ e ∈ inKeyOrder table, ∀ error,
      readEntry known read e = .error error ↔ Refuses known Rejects e error :=
    fun e he error => readEntry_error_iff (hread e (hperm.mem_iff.mp he) error)
  rw [readKnown_eq, foldlM_readEntry_error_iff (pairwise_inKeyOrder table)
    ((hperm.map (·.1)).nodup_iff.mpr hnodup), firstRefused_congr hentries]
  simp only [FirstRefused, hperm.mem_iff]

theorem forall_key_of_foldlM_ok
    (h : table.foldlM (fun _ e => readEntry known read e) absent = .ok x) :
    ∀ e ∈ table, e.1 = known.name := by
  induction table generalizing absent with
  | nil => exact List.forall_mem_nil _
  | cons e rest ih =>
    rw [List.foldlM_cons] at h
    cases hread : readEntry known read e with
    | error first =>
      rw [hread] at h
      cases h
    | ok y =>
      rw [hread] at h
      refine List.forall_mem_cons.mpr ⟨Decidable.byContradiction fun hne => ?_, ih h⟩
      rw [readEntry, if_neg hne] at hread
      cases hread

theorem readKnown_nil : readKnown known read absent [] = .ok absent := by
  rw [readKnown, inKeyOrder, List.mergeSort_nil]
  rfl

theorem readKnown_singleton (e : String × Toml.Value) :
    readKnown known read absent [e] = readEntry known read e := by
  rw [readKnown_eq, inKeyOrder, List.mergeSort_singleton, List.foldlM_cons]
  cases readEntry known read e <;> rfl

/-- A table that is accepted has the known key only, so that there is one entry at most. -/
theorem readKnown_ok_iff (hnodup : (table.map (·.1)).Nodup) :
    readKnown known read absent table = .ok x ↔
      (table = [] ∧ x = absent) ∨ ∃ value, table = [(known.name, value)] ∧ read value = .ok x := by
  constructor
  · intro h
    have hkeys : ∀ e ∈ table, e.1 = known.name := fun e he =>
      forall_key_of_foldlM_ok h e ((inKeyOrder_perm table).mem_iff.mpr he)
    match table with
    | [] =>
      rw [readKnown_nil] at h
      cases h
      exact .inl ⟨rfl, rfl⟩
    | [(key, value)] =>
      obtain rfl : key = known.name := hkeys _ List.mem_cons_self
      rw [readKnown_singleton, readEntry_known] at h
      exact .inr ⟨value, rfl, h⟩
    | first :: second :: rest =>
      have hfirst := hkeys first List.mem_cons_self
      have hsecond := hkeys second (List.mem_cons_of_mem _ List.mem_cons_self)
      simp [hfirst, hsecond] at hnodup
  · rintro (⟨rfl, rfl⟩ | ⟨value, rfl, h⟩)
    · exact readKnown_nil
    · rw [readKnown_singleton, readEntry_known, h]

end Known

/-! ### Both levels -/

theorem readEnabled_ok_iff {value : Toml.Value} {on : Bool} :
    readEnabled value = .ok on ↔ value = .boolean on := by
  cases value <;> simp [readEnabled]

theorem readEnabled_error_iff {value : Toml.Value} {error : ConfigError} :
    readEnabled value = .error error ↔ RejectsSwitch value error := by
  constructor
  · intro h
    cases value
    case boolean on => cases h
    all_goals
      cases h
      exact .wrong nofun
  · rintro ⟨hwrong⟩
    cases value
    case boolean on => exact absurd rfl (hwrong on)
    all_goals rfl

section Functions

variable {value : Toml.Value} (hplain : value.isPlain = true) (hkeys : value.DistinctKeys)
include hplain hkeys

theorem readFunctions_ok_iff {on : Bool} :
    readFunctions value = .ok on ↔
      (value = .table [] ∧ on = false) ∨ value = .table [("enabled", .boolean on)] := by
  cases value with
  | dateTime | unreadable | array => cases hplain
  | boolean | integer | float | string => simp [readFunctions]
  | table entries =>
    rw [readFunctions, readKnown_ok_iff (Toml.Table.distinctKeys_iff.mp hkeys).1]
    simp [readEnabled_ok_iff, ConfigKey.name]

theorem readFunctions_error_iff {error : ConfigError} :
    readFunctions value = .error error ↔ RejectsSettings value error := by
  cases value with
  | dateTime | unreadable | array => cases hplain
  | boolean | integer | float | string =>
    constructor
    · rintro ⟨⟩
      exact .wrong nofun
    · rintro ⟨⟩
      rfl
  | table entries =>
    rw [readFunctions, readKnown_error_iff (Toml.Table.distinctKeys_iff.mp hkeys).1
      fun _ _ _ => readEnabled_error_iff]
    constructor
    · exact .first
    · rintro (hwrong | hfirst)
      · exact absurd rfl (hwrong entries)
      · exact hfirst

end Functions

section Root

variable {table : Toml.Table} (hplain : Toml.Table.isPlain table = true)
  (hkeys : Toml.Table.DistinctKeys table)
include hplain hkeys

theorem readKnown_functions_ok_iff {on : Bool} :
    readKnown .functions readFunctions false table = .ok on ↔ Configures table on := by
  obtain ⟨hnodup, hvalues⟩ := Toml.Table.distinctKeys_iff.mp hkeys
  rw [readKnown_ok_iff hnodup]
  constructor
  · rintro (⟨rfl, rfl⟩ | ⟨value, rfl, hread⟩)
    · exact .empty
    · have hmem := List.mem_singleton_self (ConfigKey.functions.name, value)
      have hvalue := Toml.Table.isPlain_iff.mp hplain _ hmem
      obtain ⟨rfl, rfl⟩ | rfl := (readFunctions_ok_iff hvalue (hvalues _ hmem)).mp hread
      · exact .unset
      · exact .set on
  · rintro (_ | _ | _)
    · exact .inl ⟨rfl, rfl⟩
    · refine .inr ⟨.table [], rfl, ?_⟩
      rw [readFunctions, readKnown_nil]
    · refine .inr ⟨.table [("enabled", .boolean on)], rfl, ?_⟩
      rw [readFunctions, readKnown_singleton]
      rfl

theorem readKnown_functions_error_iff {error : ConfigError} :
    readKnown .functions readFunctions false table = .error error ↔
      FirstRefused (Refuses .functions RejectsSettings) table error := by
  obtain ⟨hnodup, hvalues⟩ := Toml.Table.distinctKeys_iff.mp hkeys
  exact readKnown_error_iff hnodup fun e he _ =>
    readFunctions_error_iff (Toml.Table.isPlain_iff.mp hplain e he) (hvalues e he)

theorem reads_ofTable : Reads table (ofTable table) := by
  constructor
  · intro config
    obtain ⟨on⟩ := config
    rw [← readKnown_functions_ok_iff hplain hkeys, ofTable]
    cases readKnown .functions readFunctions false table <;> simp
  · intro error
    rw [← readKnown_functions_error_iff hplain hkeys, ofTable]
    cases readKnown .functions readFunctions false table <;> simp

end Root

/-- The table that a parser makes is read as a table that was given is. -/
theorem reads_ofToml {parse : Toml.Parser} (hdistinct : parse.KeepsKeysDistinct) {text : String}
    {table : Toml.Table} (htext : parse text = .ok table)
    (hplain : Toml.Table.isPlain table = true) : Reads table (ofToml parse text) := by
  rw [ofToml, htext]
  exact reads_ofTable hplain (hdistinct text table htext)

theorem foldl_withFunctions (switches : List Bool) (config : TraversalConfig) :
    switches.foldl withFunctions config = ⟨switches.getLastD config.functionsEnabled⟩ := by
  induction switches generalizing config with
  | nil => rfl
  | cons on rest ih => rw [List.foldl_cons, ih, List.getLastD_cons, withFunctions]

theorem exists_log_functional_iff {m : Model} (h : (Call.model m).Sound)
    (config : TraversalConfig) :
    ∃ log, traverse DispatchLog.visitor m { config } = (.ok (), log) ∧
      ((∃ entry ∈ log.entries, entry.point.isFunctional = true) ↔
        config.functionsEnabled = true ∧ m.DeclaresFunctions) := by
  refine ⟨_, DispatchLog.traverse_of_sound h { config }, ?_⟩
  rw [← Model.exists_functional_iff h]
  simp [DispatchLog.append]

example : (ConfigError.unknownKey "enable" .enabled).message =
    "invalid traversal config: unknown field \x60enable\x60, expected \x60enabled\x60" := by
  decide

end TraversalConfig

end EntityModel
