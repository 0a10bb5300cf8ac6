import EntityModel.Proofs.Dispatches
import EntityModel.Visit.Log

/-!
# EntityModel.Proofs.LogRun

Runs of the dispatch log.

* `DispatchLog.visitor_follows`: the log does all its work before the descent and skips nothing.
* `DispatchLog.visit_eq`: a run ends with the first broken reference, and appends the entries of the
  dispatches before it.
* `Call.entries`: those of all that is opened below a call. If no reference is broken, a run appends
  all of them: `DispatchLog.visit_of_sound`.
* `DispatchLog.traverse_result`: a logged traversal ends with the first broken reference of the
  model, whatever the log held before and whether it takes functions or not.
-/

namespace EntityModel

/-- The entry that a log makes of a call. -/
def Call.entry (c : Call) : Dispatch :=
  ⟨c.point, c.name?⟩

/-- The entries that a log makes of what is opened below a call, or by a step. -/
def Call.entries (on : Bool) (c : Call) : List Dispatch :=
  (c.opened { functions := on }).map Call.entry

def Step.entries (on : Bool) (step : Step) : List Dispatch :=
  (step.opened { functions := on }).map Call.entry

theorem Call.entries_eq {on : Bool} (c : Call) :
    c.entries on = c.entry :: c.steps.flatMap (Step.entries on) := by
  rw [entries, opened_eq fun _ => rfl, List.map_cons, List.map_flatMap]
  rfl

theorem Step.entries_call {on : Bool} (target : Call) :
    (call target).entries on = target.entries on := rfl

theorem Step.entries_functions {on : Bool} (target : Call) :
    (functions target).entries on = if on then target.entries on else [] := by
  cases on <;> rfl

namespace DispatchLog

/-- The log with further entries at its end. -/
def append (log : DispatchLog) (entries : List Dispatch) : DispatchLog :=
  { log with entries := log.entries ++ entries.toArray }

@[simp] theorem append_nil (log : DispatchLog) : log.append [] = log := by
  simp [append]

theorem append_cons (log : DispatchLog) (c : Call) (entries : List Dispatch) :
    log.append (c.entry :: entries) = (log.record c).append entries := by
  have harray : (c.entry :: entries).toArray = #[c.entry] ++ entries.toArray := by simp
  rw [append, append, harray, ← Array.append_assoc]
  simp [record, Call.entry]

@[simp] theorem toList_entries_append (log : DispatchLog) (entries : List Dispatch) :
    (log.append entries).entries.toList = log.entries.toList ++ entries := by
  simp [append]

@[simp] theorem size_entries_record (log : DispatchLog) (c : Call) :
    (log.record c).entries.size = log.entries.size + 1 := by
  simp [record]

theorem foldl_record (log : DispatchLog) (calls : List Call) :
    calls.foldl (fun log c => log.record c) log = log.append (calls.map Call.entry) := by
  induction calls generalizing log with
  | nil => exact log.append_nil.symm
  | cons c rest ih => rw [List.foldl_cons, ih, List.map_cons, append_cons]

theorem answers_iff {on : Bool} {log : DispatchLog} :
    visitor.Answers on log ↔ log.config.functionsEnabled = on := by
  simp [Visitor.Answers, visitor]

theorem visitor_follows (on : Bool) :
    visitor.Follows { functions := on } (fun c => Effect.update (·.record c))
      (fun _ => Effect.succeed) where
  dispatch c walk := by
    rw [Effect.andThen_succeed]
    rfl
  before_keeps c log h := by
    have hon : log.config.functionsEnabled = on := answers_iff.mp h
    exact answers_iff.mpr hon
  after_keeps c log h := h
  observe_keeps line log h := h

theorem visit_eq (log : DispatchLog) (c : Call) :
    visit visitor c log =
      (Effect.verdict
          (c.brokenReferences { functions := log.config.functionsEnabled }).head?,
        log.append
          ((c.dispatches { functions := log.config.functionsEnabled }).map Call.entry)) := by
  have hbroken (references : List BrokenReference) :
      references.map visitor.ofBroken = references := List.map_id _
  rw [(visitor_follows log.config.functionsEnabled).visit_eq_foldl (fun _ _ => rfl) c
    (answers_iff.mpr rfl), foldl_record, hbroken]

theorem traverse_result (log : DispatchLog) (m : Model) :
    (traverse visitor m log).1 = Effect.verdict m.brokenReferences.head? := by
  have h := (visitor_follows log.config.functionsEnabled).traverse_result (fun _ _ => rfl)
    (fun _ _ => rfl) m (answers_iff.mpr rfl)
  rw [Call.brokenReferences_model fun _ => rfl] at h
  rw [h]
  congr 2
  exact List.map_id _

/-- Below a sound call a run succeeds and appends all entries. -/
theorem visit_of_sound {c : Call} (h : c.Sound) (log : DispatchLog) :
    visit visitor c log = (.ok (), log.append (c.entries log.config.functionsEnabled)) := by
  have hnone := h.brokenReferences_eq_nil { functions := log.config.functionsEnabled }
  rw [visit_eq, Call.dispatches_of_sound hnone, hnone]
  rfl

theorem traverse_of_sound {m : Model} (h : (Call.model m).Sound) (log : DispatchLog) :
    traverse visitor m log =
      (.ok (), log.append ((Call.model m).entries log.config.functionsEnabled)) := by
  rw [traverse_eq_visit fun _ _ => rfl, visit_of_sound h]

end DispatchLog

end EntityModel
