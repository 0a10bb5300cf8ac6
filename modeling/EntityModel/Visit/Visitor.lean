import EntityModel.Trace
import EntityModel.Visit.Descent
import EntityModel.Visit.Effect

/-!
# EntityModel.Visit.Visitor

Visitors and the traversal. A `Visitor` steps in at every dispatch: it is given the call and the
default descent below it, which it may run, run around, run twice or leave out.

* `visit`: one dispatch. `walk`: the default descent below a call, without dispatching the call.
* `traverse`: a whole model, inside a span that is left also on failure.
* `visit_eq`, `walk_eq`: the two equations between dispatch and descent.
-/

namespace EntityModel

/-- A visitor over states `σ` with failures `ε`.

* `dispatch` is called at every point with the call and the default descent below it.
* `functions` says whether the visitor takes functions; it is asked anew each time.
* `ofBroken` turns a reference that does not resolve into a failure of the visitor.
* `observe` sees the trace. -/
structure Visitor (σ ε : Type) where
  dispatch : Call → Effect σ ε → Effect σ ε
  functions : σ → Bool × σ
  ofBroken : BrokenReference → ε
  observe : TraceLine → σ → σ := fun _ s => s

section Traversal

variable {σ ε : Type}

/-- What a step does, given what a dispatch does. -/
def Step.perform (v : Visitor σ ε) (visit : Call → Effect σ ε) : Step → Effect σ ε
  | .enter kind name? => Effect.update (v.observe (.visited kind name?))
  | .call target => visit target
  | .functions target => fun s =>
    match v.functions s with
    | (true, s') => visit target s'
    | (false, s') => (.ok (), s')
  | .broken reference => Effect.fail (v.ofBroken reference)

/-- Dispatches a call. -/
def visit (v : Visitor σ ε) (c : Call) : Effect σ ε :=
  v.dispatch c <| visitEach (fun step : { step // step ∈ c.steps } =>
    match step with
    | ⟨.enter kind name?, _⟩ => Effect.update (v.observe (.visited kind name?))
    | ⟨.call target, _⟩ => visit v target
    | ⟨.functions target, _⟩ => fun s =>
      match v.functions s with
      | (true, s') => visit v target s'
      | (false, s') => (.ok (), s')
    | ⟨.broken reference, _⟩ => Effect.fail (v.ofBroken reference)) c.steps.attach
termination_by c.rank
decreasing_by
  all_goals exact Call.rank_lt_of_mem_steps (by assumption) rfl

/-- The default descent below a call. -/
def walk (v : Visitor σ ε) (c : Call) : Effect σ ε :=
  visitEach (Step.perform v (visit v)) c.steps

theorem walk_eq (v : Visitor σ ε) (c : Call) :
    walk v c = visitEach (Step.perform v (visit v)) c.steps := rfl

/-- A dispatch hands the visitor the call and the descent below it. -/
theorem visit_eq (v : Visitor σ ε) (c : Call) : visit v c = v.dispatch c (walk v c) := by
  rw [visit, walk_eq, ← visitEach_attach _ c.steps]
  congr 2
  funext ⟨step, _⟩
  cases step <;> rfl

/-- Runs a visitor over a whole model. -/
def traverse (v : Visitor σ ε) (m : Model) : Effect σ ε := fun s =>
  match visit v (.model m) (v.observe .entered (v.observe (.spanOpened m.name) s)) with
  | (result, s') => (result, v.observe .exited s')

end Traversal

end EntityModel
