import EntityModel.Proofs.Loops

/-!
# EntityModel.Proofs.FailFast

Which items a loop visits, and how it ends.

* `noting`: an operation that also keeps the items it is called on, each with the state it finds.
* `stateAfter`, `resultAfter`, `withStates`: operations on several items in turn, none left out.
  They say nothing yet of where a loop stops.
* `Cut`: the shortest beginning of a list whose last item fails in the state that the items before
  it leave, or all of the list if there is none, and the result that goes with it.
* `visitEach_fails_fast`: a loop visits exactly that beginning, and ends with that result in the
  state that the last visit leaves.
-/

namespace EntityModel

section FailFast

variable {α σ ε : Type}

/-- Keeps what the operation is called on, in the order of the calls. -/
def noting (visit : α → Effect σ ε) (item : α) : Effect (σ × List (α × σ)) ε := fun s =>
  ((visit item s.1).1, (visit item s.1).2, s.2 ++ [(item, s.1)])

/-- The state that operations on the items leave, each in the state left by the one before. -/
def stateAfter (visit : α → Effect σ ε) (items : List α) (s : σ) : σ :=
  items.foldl (fun s item => (visit item s).2) s

/-- How the operation on an item ends in the state that those before it leave. -/
def resultAfter (visit : α → Effect σ ε) (before : List α) (item : α) (s : σ) : Except ε Unit :=
  (visit item (stateAfter visit before s)).1

/-- The items, each with the state that those before it leave. -/
def withStates (visit : α → Effect σ ε) : List α → σ → List (α × σ)
  | [], _ => []
  | item :: rest, s => (item, s) :: withStates visit rest (visit item s).2

/-- Every item of the list succeeds in the state that those before it leave. -/
def AllSucceed (visit : α → Effect σ ε) (s : σ) (items : List α) : Prop :=
  ∀ before item after, items = before ++ item :: after → resultAfter visit before item s = .ok ()

/-- The shortest beginning of the list that ends in a failure, with that failure, or else all of the
list with success. -/
inductive Cut (visit : α → Effect σ ε) (s : σ) (items : List α) :
    List α → Except ε Unit → Prop where
  | whole : AllSucceed visit s items → Cut visit s items items (.ok ())
  | short {before after : List α} {item : α} {error : ε} :
      items = before ++ item :: after → AllSucceed visit s before →
      resultAfter visit before item s = .error error →
      Cut visit s items (before ++ [item]) (.error error)

variable {visit : α → Effect σ ε} {item : α} {items rest : List α} {s : σ}

theorem allSucceed_nil : AllSucceed visit s [] := by
  intro before item after h
  cases before <;> cases h

theorem AllSucceed.cons (hitem : (visit item s).1 = .ok ())
    (hrest : AllSucceed visit (visit item s).2 rest) : AllSucceed visit s (item :: rest) := by
  intro before x after h
  cases before with
  | nil =>
    cases h
    exact hitem
  | cons first before =>
    cases h
    exact hrest before x after rfl

theorem Cut.cons {called : List α} {result : Except ε Unit} (hitem : (visit item s).1 = .ok ())
    (h : Cut visit (visit item s).2 rest called result) :
    Cut visit s (item :: rest) (item :: called) result := by
  cases h with
  | whole hall => exact .whole (hall.cons hitem)
  | short heq hbefore herror =>
    rw [heq]
    exact .short (List.cons_append ..).symm (hbefore.cons hitem) herror

/-- By the first item: the loop goes on with the others only if it succeeds. -/
theorem exists_cut (visit : α → Effect σ ε) (items : List α) (s : σ) (notes : List (α × σ)) :
    ∃ called result, Cut visit s items called result ∧
      visitEach visit items s = (result, stateAfter visit called s) ∧
      visitEach (noting visit) items (s, notes) =
        (result, stateAfter visit called s, notes ++ withStates visit called s) := by
  induction items generalizing s notes with
  | nil =>
    refine ⟨[], .ok (), .whole allSucceed_nil, rfl, ?_⟩
    rw [withStates, List.append_nil]
    rfl
  | cons item rest ih =>
    cases hresult : (visit item s).1 with
    | ok _ =>
      have hvisit : visit item s = (.ok (), (visit item s).2) := Prod.ext hresult rfl
      have hnoting : noting visit item (s, notes) =
          (.ok (), (visit item s).2, notes ++ [(item, s)]) := Prod.ext hresult rfl
      obtain ⟨called, result, hcut, hrun, hnotes⟩ :=
        ih (visit item s).2 (notes ++ [(item, s)])
      refine ⟨item :: called, result, hcut.cons hresult, ?_, ?_⟩
      · rw [visitEach_cons, Effect.andThen_of_ok hvisit, hrun]
        rfl
      · rw [visitEach_cons, Effect.andThen_of_ok hnoting, hnotes, List.append_assoc]
        rfl
    | error error =>
      have hvisit : visit item s = (.error error, (visit item s).2) := Prod.ext hresult rfl
      have hnoting : noting visit item (s, notes) =
          (.error error, (visit item s).2, notes ++ [(item, s)]) := Prod.ext hresult rfl
      have hcut : Cut visit s (item :: rest) ([] ++ [item]) (.error error) :=
        .short rfl allSucceed_nil hresult
      refine ⟨[item], .error error, hcut, ?_, ?_⟩
      · rw [visitEach_cons, Effect.andThen_of_error hvisit]
        rfl
      · rw [visitEach_cons, Effect.andThen_of_error hnoting]
        rfl

/-- A loop visits the items up to the first that fails, each once, in order and in the state that
the visit before it leaves. It ends like the last visit and in the state left by it. So a loop over
two lists is the loop over the first, and if that succeeds the loop over the second. -/
theorem visitEach_fails_fast (visit : α → Effect σ ε) (items : List α) (s : σ) :
    (∃ called result, Cut visit s items called result ∧
      visitEach visit items s = (result, stateAfter visit called s) ∧
      visitEach (noting visit) items (s, []) =
        (result, stateAfter visit called s, withStates visit called s)) ∧
    ∀ more, visitEach visit (items ++ more) s =
      match visitEach visit items s with
      | (.ok _, s') => visitEach visit more s'
      | (.error error, s') => (.error error, s') := by
  refine ⟨exists_cut visit items s [], fun more => ?_⟩
  rw [visitEach_append]
  rfl

end FailFast

/-- An item fails that was visited before, and the last one is never visited. -/
example :
    let visit (name : String) : Effect (List String) String := fun seen =>
      (if seen.contains name then .error name else .ok (), seen ++ [name])
    visitEach visit ["a", "b", "a", "c"] [] = (.error "a", ["a", "b", "a"]) := by rfl

end EntityModel
