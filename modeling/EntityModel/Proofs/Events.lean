import EntityModel.Proofs.Loops
import EntityModel.Visit.Visitor
import Mathlib.Data.List.Flatten

/-!
# EntityModel.Proofs.Events

What happens in a run, as a list that does not depend on the visitor.

* `Call.stepInduction`: induction along the descent. What holds of a call if it holds of all that
  its steps dispatch holds of every call.
* `Call.events`: the dispatches below a call, each opened and closed, with the nodes entered and the
  broken references met. A `Route` says where there is no descent and whether functions are taken.
* `Visitor.Follows`: a visitor that does something before and after the descent of each dispatch and
  leaves the descent out exactly where the route does.
* `visit_eq_visitEach_events`: a run of such a visitor is one loop over the events.
-/

namespace EntityModel

/-! ## Induction along the descent -/

@[elab_as_elim]
theorem Call.stepInduction {motive : Call → Prop}
    (h : ∀ c : Call, (∀ step ∈ c.steps, ∀ target, step.target? = some target → motive target) →
      motive c) (c : Call) : motive c := by
  apply h c
  intro step hstep target ht
  exact Call.stepInduction h target
termination_by c.rank
decreasing_by exact Call.rank_lt_of_mem_steps hstep ht

/-! ## Events -/

inductive Event where
  | opened (c : Call)
  | entered (kind : NodeKind) (name? : Option String)
  | broken (reference : BrokenReference)
  | closed (c : Call)

/-- How a run goes through a graph: the points at which it does not descend, and whether it takes
functions. -/
structure Route where
  skips : Point → Bool := fun _ => false
  functions : Bool := false

/-- The events of the dispatch of a call, as if no reference were broken for good: the events after
a broken reference are listed too. -/
def Call.events (route : Route) (c : Call) : List Event :=
  .opened c ::
    (if route.skips c.point then []
      else c.steps.attach.flatMap fun (step : { step // step ∈ c.steps }) =>
        match step with
        | ⟨.enter kind name?, _⟩ => [.entered kind name?]
        | ⟨.call target, _⟩ => target.events route
        | ⟨.functions target, _⟩ => if route.functions then target.events route else []
        | ⟨.broken reference, _⟩ => [.broken reference]) ++
    [.closed c]
termination_by c.rank
decreasing_by
  all_goals exact Call.rank_lt_of_mem_steps (by assumption) rfl

/-- The events of one step. -/
def Step.events (route : Route) : Step → List Event
  | .enter kind name? => [.entered kind name?]
  | .call target => target.events route
  | .functions target => if route.functions then target.events route else []
  | .broken reference => [.broken reference]

/-- The events below a call, without its own. -/
def Call.inner (route : Route) (c : Call) : List Event :=
  if route.skips c.point then [] else c.steps.flatMap (Step.events route)

theorem Call.events_eq (route : Route) (c : Call) :
    c.events route = .opened c :: (c.inner route ++ [.closed c]) := by
  have hsteps : c.steps.flatMap (Step.events route) =
      c.steps.attach.flatMap fun (step : { step // step ∈ c.steps }) => step.val.events route := by
    conv => lhs; rw [← List.attach_map_subtype_val c.steps]
    exact List.flatMap_map _ _ _
  rw [Call.events, Call.inner, hsteps, List.cons_append]
  -- What is left is the `match` in the recursive definition, step by step.
  congr 5
  funext ⟨step, _⟩
  cases step <;> rfl

/-! ## Wider routes -/

/-- A route that skips less, and takes functions if the other does. -/
structure Route.Within (route wide : Route) : Prop where
  skips : ∀ point, wide.skips point = true → route.skips point = true
  functions : route.functions = true → wide.functions = true

theorem Step.events_sublist {route wide : Route} (h : route.Within wide) {step : Step}
    (ih : ∀ target, step.target? = some target →
      (target.events route).Sublist (target.events wide)) :
    (step.events route).Sublist (step.events wide) := by
  cases step with
  | enter kind name? => exact List.Sublist.refl _
  | broken reference => exact List.Sublist.refl _
  | call target => exact ih target rfl
  | functions target =>
    simp only [Step.events]
    by_cases hf : route.functions = true
    · rw [if_pos hf, if_pos (h.functions hf)]
      exact ih target rfl
    · rw [if_neg hf]
      exact List.nil_sublist _

/-- A run along a wider route meets the same and more. -/
theorem Call.events_sublist {route wide : Route} (h : route.Within wide) (c : Call) :
    (c.events route).Sublist (c.events wide) := by
  induction c using Call.stepInduction with
  | h c ih =>
    have hinner : (c.inner route).Sublist (c.inner wide) := by
      unfold Call.inner
      by_cases hs : route.skips c.point = true
      · rw [if_pos hs]
        exact List.nil_sublist _
      · rw [if_neg hs, if_neg fun hw => hs (h.skips _ hw)]
        exact List.Sublist.flatMap_right _ fun step hstep =>
          Step.events_sublist h (ih step hstep)
    rw [Call.events_eq, Call.events_eq]
    exact (hinner.append (List.Sublist.refl _)).cons_cons _

/-! ## Runs along a route -/

section Runs

variable {σ ε : Type}

/-- In this state the visitor answers the question for functions by `on`, and stays in it. -/
def Visitor.Answers (v : Visitor σ ε) (on : Bool) (s : σ) : Prop :=
  v.functions s = (on, s)

/-- The visitor does `before` and `after` the descent of each dispatch and keeps to the route. -/
structure Visitor.Follows (v : Visitor σ ε) (route : Route) (before after : Call → Effect σ ε) :
    Prop where
  dispatch : ∀ c walk, v.dispatch c walk =
    (before c).andThen ((if route.skips c.point then Effect.succeed else walk).andThen (after c))
  before_keeps : ∀ c, Effect.Keeps (v.Answers route.functions) (before c)
  after_keeps : ∀ c, Effect.Keeps (v.Answers route.functions) (after c)
  observe_keeps : ∀ line s, v.Answers route.functions s →
    v.Answers route.functions (v.observe line s)

/-- What a visitor does at an event. -/
def Event.perform (v : Visitor σ ε) (before after : Call → Effect σ ε) : Event → Effect σ ε
  | .opened c => before c
  | .entered kind name? => Effect.update (v.observe (.visited kind name?))
  | .broken reference => Effect.fail (v.ofBroken reference)
  | .closed c => after c

theorem Step.perform_functions_of_declined {v : Visitor σ ε} {visit : Call → Effect σ ε}
    {target : Call} {s : σ} (h : (v.functions s).1 = false) :
    (functions target).perform v visit s = (.ok (), (v.functions s).2) := by
  have hv : v.functions s = (false, (v.functions s).2) := Prod.ext h rfl
  simp only [perform]
  rw [hv]

theorem Step.perform_functions_of_accepted {v : Visitor σ ε} {visit : Call → Effect σ ε}
    {target : Call} {s : σ} (h : (v.functions s).1 = true) :
    (functions target).perform v visit s = visit target (v.functions s).2 := by
  have hv : v.functions s = (true, (v.functions s).2) := Prod.ext h rfl
  simp only [perform]
  rw [hv]

/-- If the dispatches of a step run along their events, so does the step. -/
theorem Step.perform_eq_visitEach_events {v : Visitor σ ε} {route : Route}
    {before after : Call → Effect σ ε} {step : Step} {s : σ}
    (hs : v.Answers route.functions s)
    (ih : ∀ target, step.target? = some target → visit v target s =
      visitEach (Event.perform v before after) (target.events route) s) :
    step.perform v (visit v) s =
      visitEach (Event.perform v before after) (step.events route) s := by
  cases step with
  | enter kind name? => rfl
  | broken reference => rfl
  | call target => exact ih target rfl
  | functions target =>
    have hanswer : (v.functions s).1 = route.functions := congrArg Prod.fst hs
    have hstate : (v.functions s).2 = s := congrArg Prod.snd hs
    rw [Step.events]
    cases hf : route.functions with
    | true =>
      rw [Step.perform_functions_of_accepted (hanswer.trans hf), hstate, if_pos rfl]
      exact ih target rfl
    | false =>
      rw [Step.perform_functions_of_declined (hanswer.trans hf), hstate,
        if_neg Bool.false_ne_true]
      rfl

namespace Visitor.Follows

variable {v : Visitor σ ε} {route : Route} {before after : Call → Effect σ ε}

theorem perform_keeps (h : v.Follows route before after) (event : Event) :
    Effect.Keeps (v.Answers route.functions) (event.perform v before after) := by
  cases event with
  | opened c => exact h.before_keeps c
  | entered kind name? => exact fun s hs => h.observe_keeps _ s hs
  | broken reference => exact fun _ hs => hs
  | closed c => exact h.after_keeps c

/-- A run of a visitor that keeps to a route is one loop over the events along the route. -/
theorem visit_eq_visitEach_events (h : v.Follows route before after) (c : Call) {s : σ}
    (hs : v.Answers route.functions s) :
    visit v c s = visitEach (Event.perform v before after) (c.events route) s := by
  induction c using Call.stepInduction generalizing s with
  | h c ih =>
    rw [visit_eq, h.dispatch, Call.events_eq, visitEach_cons, visitEach_append]
    -- The state changes on the way; that the visitor answers as the route says does not.
    refine Effect.andThen_apply_congr rfl ?_
    intro s₁ h₁
    have hs₁ := h.before_keeps c s hs
    rw [Event.perform] at h₁
    rw [h₁] at hs₁
    have hinner : (if route.skips c.point then Effect.succeed else walk v c) s₁ =
        visitEach (Event.perform v before after) (c.inner route) s₁ := by
      rw [Call.inner]
      cases route.skips c.point with
      | true => rfl
      | false =>
        rw [if_neg Bool.false_ne_true, if_neg Bool.false_ne_true, walk_eq, visitEach_flatMap]
        refine visitEach_apply_congr ?_ ?_ hs₁
        · intro step hstep s₂ hs₂
          exact Step.perform_eq_visitEach_events hs₂ fun target ht => ih step hstep target ht hs₂
        · intro step _
          exact visitEach_keeps fun event _ => h.perform_keeps event
    refine Effect.andThen_apply_congr hinner ?_
    intro s₂ _
    rw [visitEach_cons, visitEach_nil, Effect.andThen_succeed]
    rfl

end Visitor.Follows

end Runs

end EntityModel
