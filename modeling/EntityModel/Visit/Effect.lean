/-!
# EntityModel.Visit.Effect

Operations on a state that may fail. The state that a failing operation leaves is kept: what was
recorded before the failure stays recorded.

* `Effect.andThen`: the second operation runs only if the first succeeded.
* `visitEach`: one operation for each item of a list in order, up to the first failure.
-/

namespace EntityModel

/-- An operation on states `σ` that may fail with an error `ε`. -/
abbrev Effect (σ ε : Type) := σ → Except ε Unit × σ

namespace Effect

variable {σ ε : Type}

def succeed : Effect σ ε := fun s => (.ok (), s)

def fail (error : ε) : Effect σ ε := fun s => (.error error, s)

def update (f : σ → σ) : Effect σ ε := fun s => (.ok (), f s)

/-- Runs the second operation in the state left by the first, unless the first failed. -/
def andThen (first second : Effect σ ε) : Effect σ ε := fun s =>
  match first s with
  | (.ok _, s') => second s'
  | (.error error, s') => (.error error, s')

@[simp] theorem succeed_andThen (second : Effect σ ε) : succeed.andThen second = second := rfl

@[simp] theorem fail_andThen (error : ε) (second : Effect σ ε) :
    (fail error).andThen second = fail error := rfl

@[simp] theorem andThen_succeed (first : Effect σ ε) : first.andThen succeed = first := by
  funext s
  unfold andThen succeed
  cases h : first s with
  | mk result s' => cases result <;> rfl

theorem andThen_assoc (first second third : Effect σ ε) :
    (first.andThen second).andThen third = first.andThen (second.andThen third) := by
  funext s
  unfold andThen
  cases h : first s with
  | mk result s' => cases result <;> rfl

theorem andThen_of_ok {first second : Effect σ ε} {s s' : σ} (h : first s = (.ok (), s')) :
    first.andThen second s = second s' := by
  simp only [andThen, h]

theorem andThen_of_error {first second : Effect σ ε} {s s' : σ} {error : ε}
    (h : first s = (.error error, s')) : first.andThen second s = (.error error, s') := by
  simp only [andThen, h]

end Effect

/-! ## Collections -/

section Collections

variable {α σ ε : Type}

/-- Visits the items in order and stops at the first failure. -/
def visitEach (visit : α → Effect σ ε) : List α → Effect σ ε
  | [] => Effect.succeed
  | item :: rest => (visit item).andThen (visitEach visit rest)

@[simp] theorem visitEach_nil (visit : α → Effect σ ε) : visitEach visit [] = Effect.succeed := rfl

@[simp] theorem visitEach_cons (visit : α → Effect σ ε) (item : α) (rest : List α) :
    visitEach visit (item :: rest) = (visit item).andThen (visitEach visit rest) := rfl

theorem visitEach_append (visit : α → Effect σ ε) (first second : List α) :
    visitEach visit (first ++ second) =
      (visitEach visit first).andThen (visitEach visit second) := by
  induction first with
  | nil => rfl
  | cons item rest ih => simp [ih, Effect.andThen_assoc]

theorem visitEach_map {β : Type} (visit : β → Effect σ ε) (f : α → β) (items : List α) :
    visitEach visit (items.map f) = visitEach (fun item => visit (f item)) items := by
  induction items with
  | nil => rfl
  | cons item rest ih => simp [ih]

theorem visitEach_attach (visit : α → Effect σ ε) (items : List α) :
    visitEach (fun item : { x // x ∈ items } => visit item.val) items.attach =
      visitEach visit items := by
  have h := visitEach_map visit (Subtype.val (p := (· ∈ items))) items.attach
  rw [List.attach_map_subtype_val] at h
  exact h.symm

end Collections

end EntityModel
