import EntityModel.Visit.Effect

/-!
# EntityModel.Proofs.Loops

Laws of `Effect.andThen` and of the loop `visitEach`.

* `visitEach_eq_error_iff`: a loop fails exactly if one of its operations fails in the state that
  the operations before it leave; nothing after it runs.
* `visitEach_result`: how a loop ends if the failures do not depend on the state.
* `visitEach_flatMap`: a loop of loops is one loop.
* `visitEach_apply_congr`: two loops agree from states with an invariant that their operations keep,
  if the operations agree there.
-/

namespace EntityModel

namespace Effect

variable {σ ε : Type}

theorem andThen_eq_error_iff {first second : Effect σ ε} {s s' : σ} {error : ε} :
    first.andThen second s = (.error error, s') ↔
      first s = (.error error, s') ∨
        ∃ s₁, first s = (.ok (), s₁) ∧ second s₁ = (.error error, s') := by
  cases h : first s with
  | mk result s₁ =>
    cases result with
    | ok _ => simp [andThen, h]
    | error e => simp [andThen, h]

theorem andThen_eq_ok_iff {first second : Effect σ ε} {s s' : σ} :
    first.andThen second s = (.ok (), s') ↔
      ∃ s₁, first s = (.ok (), s₁) ∧ second s₁ = (.ok (), s') := by
  cases h : first s with
  | mk result s₁ =>
    cases result with
    | ok _ => simp [andThen, h]
    | error e => simp [andThen, h]

/-- Both operations may be replaced by ones that agree where they run. -/
theorem andThen_apply_congr {first first' second second' : Effect σ ε} {s : σ}
    (hf : first s = first' s)
    (hs : ∀ s₁, first' s = (.ok (), s₁) → second s₁ = second' s₁) :
    first.andThen second s = first'.andThen second' s := by
  unfold andThen
  rw [hf]
  cases h : first' s with
  | mk result s₁ =>
    cases result with
    | ok _ => exact hs s₁ h
    | error e => rfl

/-- How an operation ends that fails with the given error, if there is one. -/
def verdict : Option ε → Except ε Unit
  | none => .ok ()
  | some error => .error error

theorem verdict_eq_ok_iff {error? : Option ε} : verdict error? = .ok () ↔ error? = none := by
  cases error? <;> simp [verdict]

theorem verdict_eq_error_iff {error? : Option ε} {error : ε} :
    verdict error? = .error error ↔ error? = some error := by
  cases error? <;> simp [verdict]

theorem verdict_injective {error? other? : Option ε} (h : verdict error? = verdict other?) :
    error? = other? := by
  cases error? <;> cases other? <;> cases h <;> rfl

/-- An operation succeeds in every state. -/
def Infallible (effect : Effect σ ε) : Prop :=
  ∀ s, (effect s).1 = .ok ()

/-- An operation keeps an invariant, whether it succeeds or fails. -/
def Keeps (inv : σ → Prop) (effect : Effect σ ε) : Prop :=
  ∀ s, inv s → inv (effect s).2

theorem Keeps.succeed {inv : σ → Prop} : Keeps inv (Effect.succeed : Effect σ ε) :=
  fun _ hs => hs

theorem Keeps.andThen {inv : σ → Prop} {first second : Effect σ ε} (hf : Keeps inv first)
    (hs : Keeps inv second) : Keeps inv (first.andThen second) := by
  intro s h
  have h₁ := hf s h
  unfold Effect.andThen
  cases hr : first s with
  | mk result s₁ =>
    rw [hr] at h₁
    cases result with
    | ok _ => exact hs s₁ h₁
    | error e => exact h₁

end Effect

section Loops

open Effect

variable {α β σ ε : Type}

theorem visitEach_flatMap (visit : β → Effect σ ε) (f : α → List β) (items : List α) :
    visitEach visit (items.flatMap f) = visitEach (fun item => visitEach visit (f item)) items := by
  induction items with
  | nil => rfl
  | cons item rest ih => rw [List.flatMap_cons, visitEach_append, ih, visitEach_cons]

theorem visitEach_congr {visit visit' : α → Effect σ ε} {items : List α}
    (h : ∀ item ∈ items, visit item = visit' item) :
    visitEach visit items = visitEach visit' items := by
  induction items with
  | nil => rfl
  | cons item rest ih =>
    rw [visitEach_cons, visitEach_cons, h item List.mem_cons_self,
      ih fun x hx => h x (List.mem_cons_of_mem _ hx)]

theorem visitEach_keeps {inv : σ → Prop} {visit : α → Effect σ ε} {items : List α}
    (h : ∀ item ∈ items, Keeps inv (visit item)) : Keeps inv (visitEach visit items) := by
  induction items with
  | nil => exact Keeps.succeed
  | cons item rest ih =>
    exact (h item List.mem_cons_self).andThen (ih fun x hx => h x (List.mem_cons_of_mem _ hx))

theorem visitEach_apply_congr {inv : σ → Prop} {visit visit' : α → Effect σ ε} {items : List α}
    (heq : ∀ item ∈ items, ∀ s, inv s → visit item s = visit' item s)
    (hkeep : ∀ item ∈ items, Keeps inv (visit' item)) {s : σ} (hs : inv s) :
    visitEach visit items s = visitEach visit' items s := by
  induction items generalizing s with
  | nil => rfl
  | cons item rest ih =>
    refine andThen_apply_congr (heq item List.mem_cons_self s hs) ?_
    intro s₁ h₁
    have hs₁ := hkeep item List.mem_cons_self s hs
    rw [h₁] at hs₁
    exact ih (fun x hx => heq x (List.mem_cons_of_mem _ hx))
      (fun x hx => hkeep x (List.mem_cons_of_mem _ hx)) hs₁

/-- Operations whose failure does not depend on the state: the loop ends with the first failure. -/
theorem visitEach_result {visit : α → Effect σ ε} {error? : α → Option ε}
    (h : ∀ item s, (visit item s).1 = verdict (error? item)) (items : List α) (s : σ) :
    (visitEach visit items s).1 = verdict (items.filterMap error?).head? := by
  induction items generalizing s with
  | nil => rfl
  | cons item rest ih =>
    have hitem := h item s
    cases he : error? item with
    | none =>
      rw [he] at hitem
      have hok : visit item s = (.ok (), (visit item s).2) := Prod.ext hitem rfl
      rw [visitEach_cons, andThen_of_ok hok, ih, List.filterMap_cons_none he]
    | some error =>
      rw [he] at hitem
      have herror : visit item s = (.error error, (visit item s).2) := Prod.ext hitem rfl
      rw [visitEach_cons, andThen_of_error herror, List.filterMap_cons_some he]
      rfl

/-- Operations that only append to a list: what they append stands there in their order. -/
theorem visitEach_appends {visit : α → Effect (List β) ε} {output? : α → Option β}
    {items : List α}
    (h : ∀ item ∈ items, ∀ s, visit item s = (.ok (), s ++ (output? item).toList))
    (s : List β) : visitEach visit items s = (.ok (), s ++ items.filterMap output?) := by
  induction items generalizing s with
  | nil => rw [List.filterMap_nil, List.append_nil]; rfl
  | cons item rest ih =>
    have hrest := ih fun x hx => h x (List.mem_cons_of_mem _ hx)
    rw [visitEach_cons, andThen_of_ok (h item List.mem_cons_self s), hrest]
    cases ho : output? item with
    | none => rw [List.filterMap_cons_none ho, Option.toList_none, List.append_nil]
    | some output =>
      rw [List.filterMap_cons_some ho, Option.toList_some, List.append_assoc,
        List.singleton_append]

theorem visitEach_eq_error_iff {visit : α → Effect σ ε} {items : List α} {s s' : σ} {error : ε} :
    visitEach visit items s = (.error error, s') ↔
      ∃ before item after s₁, items = before ++ item :: after ∧
        visitEach visit before s = (.ok (), s₁) ∧ visit item s₁ = (.error error, s') := by
  induction items generalizing s with
  | nil =>
    constructor
    · intro h
      cases h
    · rintro ⟨before, item, after, s₁, h, -, -⟩
      cases before <;> cases h
  | cons first rest ih =>
    rw [visitEach_cons, andThen_eq_error_iff]
    constructor
    · rintro (h | ⟨s₁, h₁, h⟩)
      · exact ⟨[], first, rest, s, rfl, rfl, h⟩
      · obtain ⟨before, item, after, s₂, rfl, hb, hi⟩ := ih.mp h
        refine ⟨first :: before, item, after, s₂, rfl, ?_, hi⟩
        rw [visitEach_cons, andThen_of_ok h₁, hb]
    · rintro ⟨before, item, after, s₁, h, hb, hi⟩
      cases before with
      | nil =>
        cases h
        cases hb
        exact .inl hi
      | cons x before =>
        cases h
        rw [visitEach_cons] at hb
        cases hx : visit first s with
        | mk result s₂ =>
          cases result with
          | ok _ =>
            rw [andThen_of_ok hx] at hb
            exact .inr ⟨s₂, rfl, ih.mpr ⟨before, item, after, s₁, rfl, hb, hi⟩⟩
          | error e =>
            rw [andThen_of_error hx] at hb
            cases hb

end Loops

end EntityModel
