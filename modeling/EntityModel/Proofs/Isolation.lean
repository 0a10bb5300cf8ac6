import EntityModel.Proofs.MetReferences

/-!
# EntityModel.Proofs.Isolation

Leaving out the descent at some points takes away what is below them and nothing else.

* `bracketing`: the visitor that leaves a mark before and after each dispatch, and descends in
  between unless its route skips the point.
* `Nested`: the marks of a list pair up, opened and closed with the same point and name.
* `elide`: deletes what stands strictly inside each outermost pair at a point of a set.
* `Model.build_isolates`: on a built model, skipping a set of points gives the full trace elided.
-/

namespace EntityModel

inductive Bracket where
  | opened (point : Point) (name? : Option String)
  | closed (point : Point) (name? : Option String)
deriving DecidableEq

/-- Leaves a mark before and after each dispatch. -/
def bracketing (route : Route) : Visitor (List Bracket) BrokenReference where
  dispatch c walk :=
    (Effect.update (· ++ [.opened c.point c.name?])).andThen
      ((if route.skips c.point then Effect.succeed else walk).andThen
        (Effect.update (· ++ [.closed c.point c.name?])))
  functions trace := (route.functions, trace)
  ofBroken reference := reference

/-! ## Pairs of marks -/

inductive Nested : List Bracket → Prop where
  | nil : Nested []
  | pair {point : Point} {name? : Option String} {inner rest : List Bracket} :
      Nested inner → Nested rest →
      Nested (.opened point name? :: (inner ++ .closed point name? :: rest))

theorem Nested.append {first second : List Bracket} (h : Nested first) (h' : Nested second) :
    Nested (first ++ second) := by
  induction h with
  | nil => exact h'
  | pair hinner _ _ ih =>
    rw [List.cons_append, List.append_assoc, List.cons_append]
    exact .pair hinner ih

theorem Nested.flatMap {α : Type} {items : List α} {f : α → List Bracket}
    (h : ∀ item ∈ items, Nested (f item)) : Nested (items.flatMap f) := by
  induction items with
  | nil => exact .nil
  | cons item rest ih =>
    rw [List.flatMap_cons]
    exact (h item List.mem_cons_self).append (ih fun x hx => h x (List.mem_cons_of_mem _ hx))

/-- Keeps the outermost pairs at the points of `inside` and deletes what stands strictly inside
them. The number says how many pairs are open, counted from such an outermost pair on. -/
def elide (inside : Point → Bool) : Nat → List Bracket → List Bracket
  | _, [] => []
  | 0, .opened point name? :: rest =>
    .opened point name? :: elide inside (if inside point then 1 else 0) rest
  | 0, .closed point name? :: rest => .closed point name? :: elide inside 0 rest
  | depth + 1, .opened _ _ :: rest => elide inside (depth + 2) rest
  | 1, .closed point name? :: rest => .closed point name? :: elide inside 0 rest
  | depth + 2, .closed _ _ :: rest => elide inside (depth + 1) rest

section Elide

variable {inside : Point → Bool}

/-- Inside a pair, whole pairs are deleted. -/
theorem elide_deeper {inner : List Bracket} (h : Nested inner) (depth : Nat)
    (rest : List Bracket) :
    elide inside (depth + 1) (inner ++ rest) = elide inside (depth + 1) rest := by
  induction h generalizing depth rest with
  | nil => rfl
  | pair _ _ ihinner ihrest =>
    rw [List.cons_append, List.append_assoc, List.cons_append, elide, ihinner (depth + 1), elide,
      ihrest depth]

/-- Outside of all pairs, whole pairs are elided one after the other. -/
theorem elide_append {first : List Bracket} (h : Nested first) (second : List Bracket) :
    elide inside 0 (first ++ second) = elide inside 0 first ++ elide inside 0 second := by
  induction h generalizing second with
  | nil => rfl
  | @pair point name? inner rest hinner _ ihinner ihrest =>
    rw [List.cons_append, List.append_assoc, List.cons_append, elide, elide]
    cases inside point with
    | true =>
      rw [if_pos rfl, elide_deeper hinner, elide_deeper hinner, elide, elide, ihrest]
      rfl
    | false =>
      rw [if_neg Bool.false_ne_true, ihinner, ihinner, elide, elide, ihrest]
      simp

theorem elide_pair {inner : List Bracket} (h : Nested inner) (point : Point)
    (name? : Option String) :
    elide inside 0 (.opened point name? :: (inner ++ [.closed point name?])) =
      .opened point name? ::
        ((if inside point then [] else elide inside 0 inner) ++ [.closed point name?]) := by
  rw [elide]
  cases inside point with
  | true =>
    rw [if_pos rfl, if_pos rfl, elide_deeper h]
    rfl
  | false =>
    rw [if_neg Bool.false_ne_true, if_neg Bool.false_ne_true, elide_append h]
    rfl

example : elide (· == .enumType) 0
    [.opened .ns none, .opened .enumType none, .opened .enumMember none, .closed .enumMember none,
      .closed .enumType none, .closed .ns none] =
    [.opened .ns none, .opened .enumType none, .closed .enumType none, .closed .ns none] := by
  decide

theorem elide_flatMap {α : Type} {items : List α} {f g : α → List Bracket}
    (hf : ∀ item ∈ items, Nested (f item))
    (hg : ∀ item ∈ items, elide inside 0 (f item) = g item) :
    elide inside 0 (items.flatMap f) = items.flatMap g := by
  induction items with
  | nil => rfl
  | cons item rest ih =>
    rw [List.flatMap_cons, List.flatMap_cons, elide_append (hf item List.mem_cons_self),
      hg item List.mem_cons_self, ih (fun x hx => hf x (List.mem_cons_of_mem _ hx))
        fun x hx => hg x (List.mem_cons_of_mem _ hx)]

end Elide

/-! ## The marks of a run -/

def Event.mark? : Event → Option Bracket
  | .opened c => some (.opened c.point c.name?)
  | .closed c => some (.closed c.point c.name?)
  | _ => none

def Call.marks (route : Route) (c : Call) : List Bracket :=
  (c.events route).filterMap Event.mark?

def Step.marks (route : Route) (step : Step) : List Bracket :=
  (step.events route).filterMap Event.mark?

section Marks

variable {route : Route}

theorem Call.marks_eq (c : Call) :
    c.marks route = .opened c.point c.name? ::
      ((if route.skips c.point then [] else c.steps.flatMap (Step.marks route)) ++
        [.closed c.point c.name?]) := by
  have hinner : (c.inner route).filterMap Event.mark? =
      if route.skips c.point then [] else c.steps.flatMap (Step.marks route) := by
    rw [Call.inner]
    split
    · rfl
    · exact List.filterMap_flatMap
  have hopened : Event.mark? (.opened c) = some (.opened c.point c.name?) := rfl
  rw [marks, events_eq, List.filterMap_cons_some hopened, List.filterMap_append, hinner]
  rfl

theorem Step.nested_marks {step : Step}
    (ih : ∀ target, step.target? = some target → Nested (target.marks route)) :
    Nested (step.marks route) := by
  cases step with
  | enter kind name? => exact .nil
  | broken reference => exact .nil
  | call target => exact ih target rfl
  | functions target =>
    rw [marks, events]
    split
    · exact ih target rfl
    · exact .nil

theorem Call.nested_marks (c : Call) : Nested (c.marks route) := by
  induction c using Call.stepInduction with
  | h c ih =>
    rw [marks_eq]
    refine .pair ?_ .nil
    split
    · exact .nil
    · exact Nested.flatMap fun step hs => Step.nested_marks (ih step hs)

theorem Step.elide_marks {step : Step}
    (ih : ∀ target, step.target? = some target →
      elide route.skips 0 (target.marks { functions := route.functions }) = target.marks route) :
    elide route.skips 0 (step.marks { functions := route.functions }) = step.marks route := by
  cases step with
  | enter kind name? => rfl
  | broken reference => rfl
  | call target => exact ih target rfl
  | functions target =>
    simp only [marks, events]
    split
    · exact ih target rfl
    · rfl

/-- Going along a route leaves the marks of a run that skips nothing, elided at the points which the
route skips. -/
theorem Call.elide_marks (route : Route) (c : Call) :
    elide route.skips 0 (c.marks { functions := route.functions }) = c.marks route := by
  induction c using Call.stepInduction with
  | h c ih =>
    have hnested : ∀ step ∈ c.steps, Nested (step.marks { functions := route.functions }) :=
      fun step _ => Step.nested_marks fun target _ => target.nested_marks
    rw [marks_eq, marks_eq, if_neg Bool.false_ne_true, elide_pair (Nested.flatMap hnested),
      elide_flatMap hnested fun step hs => Step.elide_marks (ih step hs)]

end Marks

/-! ## Runs -/

theorem bracketing_follows (route : Route) :
    (bracketing route).Follows route
      (fun c => Effect.update (· ++ [.opened c.point c.name?]))
      (fun c => Effect.update (· ++ [.closed c.point c.name?])) where
  dispatch _ _ := rfl
  before_keeps _ _ _ := rfl
  after_keeps _ _ _ := rfl
  observe_keeps _ _ _ := rfl

/-- Unless a reference is broken, an event leaves its mark if it has one. -/
theorem perform_bracketing {route : Route} {event : Event} (h : event.broken? = none)
    (trace : List Bracket) :
    event.perform (bracketing route)
        (fun c => Effect.update (· ++ [.opened c.point c.name?]))
        (fun c => Effect.update (· ++ [.closed c.point c.name?])) trace =
      (.ok (), trace ++ event.mark?.toList) := by
  cases event with
  | opened c => rfl
  | entered kind name? => exact Prod.ext rfl (List.append_nil trace).symm
  | broken reference => cases h
  | closed c => rfl

theorem traverse_bracketing {m : Model} (hm : (Call.model m).Sound) (route : Route)
    (trace : List Bracket) :
    traverse (bracketing route) m trace = (.ok (), trace ++ (Call.model m).marks route) := by
  have hvisit : visit (bracketing route) (.model m) trace =
      (.ok (), trace ++ (Call.model m).marks route) := by
    have hnil : ((Call.model m).events route).filterMap Event.broken? = [] :=
      hm.brokenReferences_eq_nil route
    rw [(bracketing_follows route).visit_eq_visitEach_events (.model m) rfl]
    exact visitEach_appends
      (fun event he => perform_bracketing (List.filterMap_eq_nil_iff.mp hnil event he)) trace
  unfold traverse
  exact hvisit

/-- Leaving out the descent at any set of points deletes from the full trace what stands strictly
inside the outermost pairs at these points, and nothing else. -/
theorem Model.build_isolates {name : String} {declarations : List Declaration} {m : Model}
    (h : build name declarations = .ok m) (functions : Bool) (points : Point → Bool) :
    ∃ full, Nested full ∧
      traverse (bracketing { functions := functions }) m [] = (.ok (), full) ∧
      traverse (bracketing { skips := points, functions := functions }) m [] =
        (.ok (), elide points 0 full) := by
  have hm := sound_of_build h
  refine ⟨(Call.model m).marks { functions := functions }, (Call.model m).nested_marks, ?_, ?_⟩
  · exact traverse_bracketing hm _ []
  · have helide := (Call.model m).elide_marks { skips := points, functions := functions }
    rw [traverse_bracketing hm, List.nil_append, ← helide]

/-- Points below which the shop is not of interest. -/
def outlined (point : Point) : Bool :=
  [Point.namedItem, .ns, .entitySets, .associationSet].contains point

/-- Of the marks that a shop leaves, twenty are its outline. -/
theorem Model.build_isolates_shop :
    build "Shop" (shop "Customers") = .ok (assemble "Shop" (shop "Customers")) ∧
      ∃ full, Nested full ∧ full.length = 228 ∧
        traverse (bracketing { functions := true }) (assemble "Shop" (shop "Customers")) [] =
          (.ok (), full) ∧
        elide outlined 0 full =
          [.opened .model (some "Shop"),
            .opened .namedItem (some "Shop"), .closed .namedItem (some "Shop"),
            .opened .namespaces (some "Shop"),
              .opened .ns (some "Sales"), .closed .ns (some "Sales"),
            .closed .namespaces (some "Shop"),
            .opened .entityContainers (some "Shop"),
              .opened .entityContainer (some "Store"),
                .opened .namedItem (some "Store"), .closed .namedItem (some "Store"),
                .opened .entitySets (some "Store"), .closed .entitySets (some "Store"),
                .opened .associationSets (some "Store"),
                  .opened .associationSet (some "OrdersPlaced"),
                  .closed .associationSet (some "OrdersPlaced"),
                .closed .associationSets (some "Store"),
              .closed .entityContainer (some "Store"),
            .closed .entityContainers (some "Shop"),
          .closed .model (some "Shop")] ∧
        traverse (bracketing { skips := outlined, functions := true })
          (assemble "Shop" (shop "Customers")) [] = (.ok (), elide outlined 0 full) := by
  have hbuild : build "Shop" (shop "Customers") = .ok (assemble "Shop" (shop "Customers")) := rfl
  obtain ⟨full, hnested, hfull, hskipped⟩ := build_isolates hbuild true outlined
  have hmarks : full = (traverse (bracketing { functions := true })
      (assemble "Shop" (shop "Customers")) []).2 := by
    rw [hfull]
  refine ⟨hbuild, full, hnested, ?_, hfull, ?_, hskipped⟩
  · rw [hmarks]
    decide +kernel
  · rw [hmarks]
    decide +kernel

end EntityModel
