import EntityModel.Proofs.MetReferences

/-!
# EntityModel.Proofs.Dispatches

The dispatches of a run, each with its arguments.

* `Call.opened`: those of a call along a route, read off the events, those after a broken reference
  included. `Call.dispatches`: those before the first broken reference.
* `Point.isTier`: the points of the tiers and of annotations, below which there is nothing else.
* `Visitor.Follows.visit_eq_foldl`: a visitor that only notes each dispatch in its state and then
  descends ends with the first broken reference, and has noted the dispatches before it in order.
* `CallLog`: the visitor that keeps every dispatch with its arguments.
-/

namespace EntityModel

/-! ## Lists of events -/

def Event.opened? : Event → Option Call
  | .opened c => some c
  | _ => none

/-- The calls opened before the first broken reference. -/
def Event.dispatches : List Event → List Call
  | [] => []
  | .opened c :: rest => c :: dispatches rest
  | .entered _ _ :: rest => dispatches rest
  | .broken _ :: _ => []
  | .closed _ :: rest => dispatches rest

namespace Event

theorem dispatches_of_sound {events : List Event} (h : events.filterMap broken? = []) :
    dispatches events = events.filterMap opened? := by
  induction events with
  | nil => rfl
  | cons event rest ih =>
    cases event with
    | opened c =>
      have hopened : opened? (.opened c) = some c := rfl
      rw [List.filterMap_cons_none rfl] at h
      rw [dispatches, ih h, List.filterMap_cons_some hopened]
    | entered kind name? | closed c =>
      rw [List.filterMap_cons_none rfl] at h
      rw [dispatches, ih h, List.filterMap_cons_none rfl]
    | broken reference => cases h

theorem dispatches_append_of_sound {first : List Event} (h : first.filterMap broken? = [])
    (second : List Event) :
    dispatches (first ++ second) = dispatches first ++ dispatches second := by
  induction first with
  | nil => rfl
  | cons event rest ih =>
    cases event with
    | opened c =>
      rw [List.filterMap_cons_none rfl] at h
      rw [List.cons_append, dispatches, dispatches, ih h, List.cons_append]
    | entered kind name? | closed c =>
      rw [List.filterMap_cons_none rfl] at h
      rw [List.cons_append, dispatches, dispatches, ih h]
    | broken reference => cases h

/-- After a broken reference nothing is dispatched. -/
theorem dispatches_append_of_broken {first : List Event} (h : first.filterMap broken? ≠ [])
    (second : List Event) : dispatches (first ++ second) = dispatches first := by
  induction first with
  | nil => exact absurd rfl h
  | cons event rest ih =>
    cases event with
    | opened c =>
      rw [List.filterMap_cons_none rfl] at h
      rw [List.cons_append, dispatches, dispatches, ih h]
    | entered kind name? | closed c =>
      rw [List.filterMap_cons_none rfl] at h
      rw [List.cons_append, dispatches, dispatches, ih h]
    | broken reference => rfl

theorem dispatches_concat_closed (events : List Event) (c : Call) :
    dispatches (events ++ [.closed c]) = dispatches events := by
  by_cases h : events.filterMap broken? = []
  · rw [dispatches_append_of_sound h]
    exact List.append_nil _
  · exact dispatches_append_of_broken h _

end Event

/-! ## Dispatches below a call -/

section Calls

variable {route : Route}

def Call.opened (route : Route) (c : Call) : List Call :=
  (c.events route).filterMap Event.opened?

def Step.opened (route : Route) (step : Step) : List Call :=
  (step.events route).filterMap Event.opened?

def Call.dispatches (route : Route) (c : Call) : List Call :=
  Event.dispatches (c.events route)

@[simp] theorem Step.opened_enter (kind : NodeKind) (name? : Option String) :
    (enter kind name?).opened route = [] := rfl

@[simp] theorem Step.opened_call (target : Call) :
    (call target).opened route = target.opened route := rfl

theorem Call.opened_eq (hr : ∀ point, route.skips point = false) (c : Call) :
    c.opened route = c :: c.steps.flatMap (Step.opened route) := by
  have hopened : Event.opened? (.opened c) = some c := rfl
  rw [opened, events_eq, List.filterMap_cons_some hopened, List.filterMap_append,
    List.filterMap_cons_none rfl, List.filterMap_nil, List.append_nil, inner, hr,
    if_neg Bool.false_ne_true, List.filterMap_flatMap]
  rfl

/-- What holds of a call and passes on to what its steps dispatch holds of all that is opened. -/
theorem Call.forall_mem_opened (hr : ∀ point, route.skips point = false) {P : Call → Prop}
    (hsteps : ∀ c, P c → ∀ step ∈ c.steps, ∀ target, step.target? = some target → P target)
    {c : Call} (h : P c) : ∀ d ∈ c.opened route, P d := by
  induction c using Call.stepInduction with
  | h c ih =>
    intro d hd
    rw [opened_eq hr] at hd
    rcases List.mem_cons.mp hd with rfl | hd
    · exact h
    · obtain ⟨step, hs, hd⟩ := List.mem_flatMap.mp hd
      have htarget : ∀ target, step.target? = some target → d ∈ target.opened route → P d :=
        fun target ht => ih step hs target ht (hsteps c h step hs target ht) d
      cases step with
      | enter | broken => cases hd
      | call target => exact htarget target rfl hd
      | functions target =>
        rw [Step.opened, Step.events] at hd
        split at hd
        · exact htarget target rfl hd
        · cases hd

/-- Annotations and the tiers above them, through which every node passes. -/
def Point.isTier : Point → Bool
  | .dataModelItem | .metadataItem | .namedItem | .namespaceItem | .annotations
  | .annotationEntry => true
  | _ => false

theorem Call.isTier_of_mem_steps {c : Call} (h : c.point.isTier = true) {step : Step}
    (hs : step ∈ c.steps) {target : Call} (ht : step.target? = some target) :
    target.point.isTier = true := by
  cases c with
  | dataModelItem | annotationEntry => cases hs
  | metadataItem item =>
    have hstore : ∀ s ∈ Step.unlessEmpty item.annotations.entries
        (.call (.annotations item item.annotations)),
        s.target? = some target → target.point.isTier = true := by
      refine Step.forall_mem_unlessEmpty fun ht => ?_
      cases ht
      rfl
    rw [steps] at hs
    rcases List.mem_cons.mp hs with rfl | hs
    · cases ht
      rfl
    · exact hstore step hs ht
  | namedItem | namespaceItem =>
    rw [steps, List.mem_singleton] at hs
    rw [hs] at ht
    cases ht
    rfl
  | annotations item store =>
    obtain ⟨entry, _, rfl⟩ := List.mem_map.mp hs
    cases ht
    rfl
  | _ => cases h

theorem Call.isTier_of_mem_opened (hr : ∀ point, route.skips point = false) {c : Call}
    (h : c.point.isTier = true) : ∀ d ∈ c.opened route, d.point.isTier = true :=
  forall_mem_opened hr (fun _ h _ hs _ ht => isTier_of_mem_steps h hs ht) h

theorem Call.dispatches_eq (c : Call) :
    c.dispatches route = c :: Event.dispatches (c.inner route) := by
  rw [dispatches, events_eq, Event.dispatches, Event.dispatches_concat_closed]

theorem Call.dispatches_of_sound {c : Call} (h : c.brokenReferences route = []) :
    c.dispatches route = c.opened route :=
  Event.dispatches_of_sound h

end Calls

/-! ## Visitors that note each dispatch -/

section Runs

variable {σ ε : Type} {v : Visitor σ ε} {f : Call → σ → σ}
  (hobserve : ∀ line s, v.observe line s = s)
include hobserve

theorem traverse_eq_visit (m : Model) (s : σ) : traverse v m s = visit v (.model m) s := by
  simp only [traverse, hobserve]

theorem visitEach_perform_eq_foldl (events : List Event) (s : σ) :
    visitEach (Event.perform v (fun c => Effect.update (f c)) fun _ => Effect.succeed) events s =
      (Effect.verdict ((events.filterMap Event.broken?).map v.ofBroken).head?,
        (Event.dispatches events).foldl (fun s c => f c s) s) := by
  induction events generalizing s with
  | nil => rfl
  | cons event rest ih =>
    rw [visitEach_cons]
    cases event with
    | opened c => exact ih (f c s)
    | entered kind name? =>
      have hstep : Event.perform v (fun c => Effect.update (f c)) (fun _ => Effect.succeed)
          (.entered kind name?) s = (.ok (), s) := Prod.ext rfl (hobserve _ s)
      rw [Effect.andThen_of_ok hstep, ih]
      rfl
    | broken reference => rfl
    | closed c => exact ih s

theorem Visitor.Follows.visit_eq_foldl {route : Route}
    (h : v.Follows route (fun c => Effect.update (f c)) fun _ => Effect.succeed) (c : Call) {s : σ}
    (hs : v.Answers route.functions s) :
    visit v c s = (Effect.verdict ((c.brokenReferences route).map v.ofBroken).head?,
      (c.dispatches route).foldl (fun s c => f c s) s) := by
  rw [h.visit_eq_visitEach_events c hs, visitEach_perform_eq_foldl hobserve]
  rfl

end Runs

/-! ## Calls as they come -/

/-- Keeps every dispatch with its arguments. -/
structure CallLog where
  functionsEnabled : Bool := false
  calls : List Call := []

namespace CallLog

def record (log : CallLog) (c : Call) : CallLog :=
  { log with calls := log.calls ++ [c] }

def clear (log : CallLog) : CallLog :=
  { log with calls := [] }

def visitor : Visitor CallLog BrokenReference where
  dispatch c walk := (Effect.update (·.record c)).andThen walk
  functions log := (log.functionsEnabled, log)
  ofBroken reference := reference

theorem answers_self (log : CallLog) : visitor.Answers log.functionsEnabled log := rfl

theorem visitor_follows (on : Bool) :
    visitor.Follows { functions := on } (fun c => Effect.update (·.record c))
      (fun _ => Effect.succeed) where
  dispatch c walk := by
    rw [Effect.andThen_succeed]
    rfl
  before_keeps c log h := by
    have hon : log.functionsEnabled = on := congrArg Prod.fst h
    rw [← hon]
    exact answers_self (log.record c)
  after_keeps c log h := h
  observe_keeps line log h := h

theorem foldl_record (log : CallLog) (calls : List Call) :
    calls.foldl (fun log c => log.record c) log = { log with calls := log.calls ++ calls } := by
  induction calls generalizing log with
  | nil => rw [List.append_nil]; rfl
  | cons c rest ih =>
    rw [List.foldl_cons, ih]
    simp only [record, List.append_assoc, List.singleton_append]

theorem visit_eq (log : CallLog) (c : Call) :
    (visit visitor c log).2 =
      { log with calls := log.calls ++ c.dispatches { functions := log.functionsEnabled } } := by
  rw [(visitor_follows log.functionsEnabled).visit_eq_foldl (fun _ _ => rfl) c (answers_self log),
    foldl_record]

end CallLog

end EntityModel
