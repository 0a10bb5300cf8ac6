import EntityModel.Error
import EntityModel.Proofs.LogRun
import EntityModel.Proofs.Transcripts

/-!
# EntityModel.Proofs.Extensions

Visitors that do something of their own before and after the default descent, and always take it.

* `Extension`: at the points that it overrides it updates a state of its own, descends, and if that
  succeeded updates the state again.
* `Extension.replay`: the notes of a run lead its first state to its last.
* `DispatchLog.extension`: the dispatch log is such a visitor.
* `Extension.watched_agree`: two extensions that take functions alike leave the same notes.
* `Paired`: every mark that opens is closed by one of the same call, and the pairs are nested.
* `Extension.mirrors_log`: an extension that takes functions as the dispatch log does makes the
  dispatches of the log and ends like it.
-/

namespace EntityModel

variable {σ τ ε δ : Type}

/-- Overrides that extend the default descent. `functions` is the answer to being asked for
functions, with the state after it. -/
structure Extension (σ : Type) where
  overrides : Point → Bool
  before : Call → σ → σ
  after : Call → σ → σ
  functions : σ → Bool × σ

namespace Extension

/-- What is done before the descent: nothing at a point that is not overridden. -/
def opening (x : Extension σ) (c : Call) : σ → σ :=
  if x.overrides c.point then x.before c else id

def closing (x : Extension σ) (c : Call) : σ → σ :=
  if x.overrides c.point then x.after c else id

/-- Hooks that never leave out the descent and never fail. -/
def hooks (x : Extension σ) : Hooks σ ε where
  before c s := (.descend, x.opening c s)
  after c s := (none, x.closing c s)
  functions := x.functions

def visitor (x : Extension σ) (ofBroken : BrokenReference → ε) : Visitor σ ε :=
  x.hooks.visitor ofBroken

def watched (x : Extension σ) (ofBroken : BrokenReference → ε) : Visitor (Watched σ) ε :=
  x.hooks.watched.visitor ofBroken

theorem dispatch_eq (x : Extension σ) (ofBroken : BrokenReference → ε) (c : Call)
    (walk : Effect σ ε) :
    (x.visitor ofBroken).dispatch c walk =
      (Effect.update (x.opening c)).andThen (walk.andThen (Effect.update (x.closing c))) := rfl

theorem watched_dispatch_eq (x : Extension σ) (ofBroken : BrokenReference → ε) (c : Call)
    (walk : Effect (Watched σ) ε) :
    (x.watched ofBroken).dispatch c walk =
      (Effect.update fun w => w.note (x.opening c w.state) (.opened c)).andThen
        (walk.andThen (Effect.update fun w => w.note (x.closing c w.state) (.closed c))) := rfl

/-! ## Replaying the notes -/

/-- What an extension does at a note. -/
def apply (x : Extension σ) (s : σ) : Note → σ
  | .opened c => x.opening c s
  | .skipped _ | .failed _ => s
  | .asked _ => (x.functions s).2
  | .closed c => x.closing c s

def replay (x : Extension σ) (notes : List Note) (s : σ) : σ :=
  notes.foldl x.apply s

theorem replay_note (x : Extension σ) (notes : List Note) (entry : Note) (s : σ) :
    x.replay (notes ++ [entry]) s = x.apply (x.replay notes s) entry := by
  rw [replay, List.foldl_append]
  rfl

/-- Watching changes neither how a run ends nor the state, and the state is what the notes say. -/
theorem watched_simulates (x : Extension σ) (ofBroken : BrokenReference → ε) (start : σ) :
    (x.watched ofBroken).Simulates (x.visitor ofBroken)
      (fun w s => w.state = s ∧ s = x.replay w.notes start) id where
  dispatch c walk walk' h := by
    rw [watched_dispatch_eq, dispatch_eq]
    refine Effect.Related.andThen (.update ?_) (h.andThen (.update ?_))
    · rintro w _ ⟨rfl, hreplay⟩
      exact ⟨rfl, by rw [Watched.note, replay_note, ← hreplay, apply]⟩
    · rintro w _ ⟨rfl, hreplay⟩
      exact ⟨rfl, by rw [Watched.note, replay_note, ← hreplay, apply]⟩
  functions := by
    rintro w _ ⟨rfl, hreplay⟩
    refine ⟨rfl, rfl, ?_⟩
    change (x.functions w.state).2 = x.replay (w.notes ++ [_]) start
    rw [replay_note, ← hreplay, apply]
  ofBroken _ := rfl
  observe _ _ _ h := h

/-! ## The same notes -/

/-- In states with the invariant the extension answers the question for functions by `on`, and it
keeps the invariant. -/
structure Answers (x : Extension σ) (on : Bool) (inv : σ → Prop) : Prop where
  functions : ∀ s, inv s → (x.functions s).1 = on ∧ inv (x.functions s).2
  before : ∀ c s, inv s → inv (x.before c s)
  after : ∀ c s, inv s → inv (x.after c s)

namespace Answers

variable {x : Extension σ} {on : Bool} {inv : σ → Prop}

theorem opening (h : x.Answers on inv) (c : Call) {s : σ} (hs : inv s) : inv (x.opening c s) := by
  unfold Extension.opening
  split
  · exact h.before c s hs
  · exact hs

theorem closing (h : x.Answers on inv) (c : Call) {s : σ} (hs : inv s) : inv (x.closing c s) := by
  unfold Extension.closing
  split
  · exact h.after c s hs
  · exact hs

end Answers

theorem watched_agree {x : Extension σ} {y : Extension τ} {on : Bool} {inv : σ → Prop}
    {inv' : τ → Prop} (hx : x.Answers on inv) (hy : y.Answers on inv')
    (ofBroken : BrokenReference → ε) :
    (x.watched ofBroken).Simulates (y.watched id)
      (fun w w' => w.notes = w'.notes ∧ inv w.state ∧ inv' w'.state) ofBroken where
  dispatch c walk walk' h := by
    rw [watched_dispatch_eq, watched_dispatch_eq]
    refine Effect.Related.andThen (.update ?_) (h.andThen (.update ?_))
    · rintro w w' ⟨hnotes, hs, hs'⟩
      exact ⟨congrArg (· ++ [_]) hnotes, hx.opening c hs, hy.opening c hs'⟩
    · rintro w w' ⟨hnotes, hs, hs'⟩
      exact ⟨congrArg (· ++ [_]) hnotes, hx.closing c hs, hy.closing c hs'⟩
  functions := by
    rintro w w' ⟨hnotes, hs, hs'⟩
    obtain ⟨hanswer, hkeep⟩ := hx.functions w.state hs
    obtain ⟨hanswer', hkeep'⟩ := hy.functions w'.state hs'
    have hsame : (x.functions w.state).1 = (y.functions w'.state).1 := hanswer.trans hanswer'.symm
    refine ⟨hsame, ?_, hkeep, hkeep'⟩
    change w.notes ++ [.asked (x.functions w.state).1] =
      w'.notes ++ [.asked (y.functions w'.state).1]
    rw [hnotes, hsame]
  ofBroken _ := rfl
  observe _ _ _ h := h

end Extension

/-! ## The dispatch log as an extension -/

namespace DispatchLog

def extension : Extension DispatchLog where
  overrides _ := true
  before c log := log.record c
  after _ log := log
  functions log := (log.config.functionsEnabled, log)

theorem extension_visitor : extension.visitor id = visitor := by
  have hdispatch (c : Call) (walk : Effect DispatchLog BrokenReference) :
      (extension.visitor id).dispatch c walk = visitor.dispatch c walk := by
    rw [Extension.dispatch_eq]
    exact congrArg _ (Effect.andThen_succeed walk)
  have hall : (extension.visitor id).dispatch = visitor.dispatch :=
    funext fun c => funext fun walk => hdispatch c walk
  rw [← show { visitor with dispatch := (extension.visitor id).dispatch } = visitor by rw [hall]]
  rfl

theorem extension_answers (config : TraversalConfig) :
    extension.Answers config.functionsEnabled (fun log => log.config = config) where
  functions := by
    rintro log rfl
    exact ⟨rfl, rfl⟩
  before _ _ h := h
  after _ _ h := h

theorem replay_extension (notes : List Note) (log : DispatchLog) :
    extension.replay notes log = log.append ((Note.calls notes).map Call.entry) := by
  induction notes generalizing log with
  | nil => exact log.append_nil.symm
  | cons entry rest ih =>
    rw [Extension.replay, List.foldl_cons]
    cases entry with
    | opened c =>
      rw [Note.calls_opened, List.map_cons, append_cons]
      exact ih (log.record c)
    | skipped c | failed c | asked answer | closed c => exact ih log

end DispatchLog

/-! ## Marks -/

/-- Marks that open and close, every one closed by a mark of the same call. -/
inductive Paired : List Note → Prop where
  | nil : Paired []
  | pair {c : Call} {inner rest : List Note} :
      Paired inner → Paired rest → Paired (.opened c :: (inner ++ .closed c :: rest))

theorem Paired.append {first second : List Note} (h : Paired first) (h' : Paired second) :
    Paired (first ++ second) := by
  induction h with
  | nil => exact h'
  | pair hinner _ _ ih =>
    rw [List.cons_append, List.append_assoc]
    exact .pair hinner ih

namespace Extension

def isMark (x : Extension σ) : Note → Bool
  | .opened c | .closed c => x.overrides c.point
  | .skipped _ | .failed _ | .asked _ => false

/-- Where the extension did something of its own. -/
def marks (x : Extension σ) (notes : List Note) : List Note :=
  notes.filter x.isMark

theorem paired_marks (x : Extension σ) {calls : List Call} {notes : List Note}
    (h : Transcript calls notes) : Paired (x.marks notes) := by
  -- A call at a point that is not overridden leaves no marks, but there are marks below it.
  have around {c : Call} {inner after : List Note} (hinner : Paired (x.marks inner))
      (hafter : Paired (x.marks after)) :
      Paired (x.marks (.opened c :: (inner ++ .closed c :: after))) := by
    cases ho : x.overrides c.point with
    | true => simpa [marks, isMark, ho] using Paired.pair hinner hafter
    | false => simpa [marks, isMark, ho] using hinner.append hafter
  induction h with
  | nil => exact .nil
  | skipped _ ih => exact ih
  | plain _ _ _ ihinner ih => exact around ihinner ih
  | @declined c _ _ inner after _ _ _ ihinner ih =>
    have hasked : Paired (x.marks (inner ++ [.asked false])) := by
      simpa [marks, isMark] using ihinner
    simpa using around hasked ih
  | @accepted c _ _ inner below after _ _ _ _ ihinner ihbelow ih =>
    have hasked : Paired (x.marks (inner ++ .asked true :: below)) := by
      simpa [marks, isMark] using ihinner.append ihbelow
    simpa using around hasked ih

/-! ## Extensions and the dispatch log -/

/-- Run over the same graph, the extension ends as the dispatch log does, up to the conversion of a
broken reference. Watched, both leave the same notes: these are the entries of the log, and lead the
extension from its first state to its last. -/
structure Mirrors (x : Extension σ) (ofBroken : BrokenReference → ε)
    (run : ∀ {τ δ : Type}, Visitor τ δ → Effect τ δ) (s : σ) (log : DispatchLog) : Prop where
  result : (run (x.visitor ofBroken) s).1 = (run DispatchLog.visitor log).1.mapError ofBroken
  notes : ∃ notes,
    run (x.watched ofBroken) ⟨s, []⟩ =
      ((run (x.visitor ofBroken) s).1, ⟨(run (x.visitor ofBroken) s).2, notes⟩) ∧
    run (DispatchLog.extension.watched id) ⟨log, []⟩ =
      ((run DispatchLog.visitor log).1, ⟨(run DispatchLog.visitor log).2, notes⟩) ∧
    (run (x.visitor ofBroken) s).2 = x.replay notes s ∧
    (run DispatchLog.visitor log).2 = log.append ((Note.calls notes).map Call.entry) ∧
    ((run (x.visitor ofBroken) s).1 = .ok () → Paired (x.marks notes))

/-- A watched run ends like the run itself, and its notes lead to the last state. -/
theorem watched_visit_eq (x : Extension σ) (ofBroken : BrokenReference → ε) (c : Call) (s : σ) :
    ∃ notes,
      visit (x.watched ofBroken) c ⟨s, []⟩ =
        ((visit (x.visitor ofBroken) c s).1, ⟨(visit (x.visitor ofBroken) c s).2, notes⟩) ∧
      (visit (x.visitor ofBroken) c s).2 = x.replay notes s := by
  obtain ⟨hresult, hstate, hreplay⟩ :=
    (x.watched_simulates ofBroken s).visit c ⟨s, []⟩ s ⟨rfl, rfl⟩
  rw [Effect.mapError_id] at hresult
  refine ⟨(visit (x.watched ofBroken) c ⟨s, []⟩).2.notes, ?_, hreplay⟩
  rw [← hresult, ← hstate]

variable {x : Extension σ} {inv : σ → Prop} {log : DispatchLog}

theorem mirrors_log_below (h : x.Answers log.config.functionsEnabled inv)
    (ofBroken : BrokenReference → ε) (c : Call) {s : σ} (hs : inv s) :
    x.Mirrors ofBroken (fun v => visit v c) s log := by
  obtain ⟨notes, hown, hreplay⟩ := x.watched_visit_eq ofBroken c s
  obtain ⟨notes', hlogged, hreplay'⟩ := DispatchLog.extension.watched_visit_eq id c log
  rw [DispatchLog.extension_visitor] at hlogged hreplay'
  obtain ⟨hresult, hnotes, -, -⟩ :=
    (watched_agree h (DispatchLog.extension_answers log.config) ofBroken).visit c ⟨s, []⟩ ⟨log, []⟩
      ⟨rfl, hs, rfl⟩
  rw [hown, hlogged] at hresult hnotes
  cases show notes = notes' from hnotes
  refine ⟨hresult, notes, hown, hlogged, hreplay, ?_, ?_⟩
  · rw [hreplay', DispatchLog.replay_extension]
  · intro hok
    obtain ⟨_, hadded, ht⟩ := Hooks.transcribes_visit c _ _ (hown.trans (congrArg (·, _) hok))
    rw [List.nil_append] at hadded
    cases hadded
    exact x.paired_marks ht

theorem mirrors_log (h : x.Answers log.config.functionsEnabled inv) {s : σ} (hs : inv s)
    (ofBroken : BrokenReference → ε) :
    (∀ c, x.Mirrors ofBroken (fun v => visit v c) s log) ∧
      ∀ m, x.Mirrors ofBroken (fun v => traverse v m) s log := by
  refine ⟨fun c => mirrors_log_below h ofBroken c hs, ?_⟩
  intro m
  obtain ⟨hresult, hnotes⟩ := mirrors_log_below h ofBroken (.model m) hs
  exact ⟨hresult, hnotes⟩

/-- Counts the dispatches at a point. -/
def counter (point : Point) : Extension Nat where
  overrides p := p == point
  before _ n := n + 1
  after _ n := n
  functions n := (false, n)

/-- Counted in a shop without clients, the run ends with the reference that the log ends with. -/
theorem mirrors_log_shop :
    (counter .entityType).Answers false (fun _ => True) ∧
      (counter .entityType).Mirrors Error.visit
        (fun v => traverse v (.assemble "Shop" (Model.shop "Customers"))) 0 {} ∧
      (traverse ((counter .entityType).visitor Error.visit)
          (.assemble "Shop" (Model.shop "Clients")) 0).1 =
        .error (.visit ⟨.associationSet, "OrdersPlaced", .sourceSet, "Clients"⟩) := by
  have hanswers : (counter .entityType).Answers false (fun _ => True) :=
    ⟨fun _ _ => ⟨rfl, trivial⟩, fun _ _ _ => trivial, fun _ _ _ => trivial⟩
  have hmirrors (m : Model) :
      (counter .entityType).Mirrors Error.visit (fun v => traverse v m) 0 {} :=
    (mirrors_log hanswers trivial Error.visit).2 m
  refine ⟨hanswers, hmirrors _, ?_⟩
  rw [(hmirrors _).result, DispatchLog.traverse_result]
  rfl

end Extension

end EntityModel
