import EntityModel.Proofs.Events

/-!
# EntityModel.Proofs.Simulation

Two visitors side by side on one graph.

* `Effect.Related`: from related states two operations end in related states, and either both
  succeed or the first fails with the translation of the second's error.
* `Visitor.Simulates`: the overrides of two visitors are related whenever the descents are that they
  are given, and the visitors answer alike when they are asked for functions.
* `Visitor.Simulates.visit`, `Visitor.Simulates.traverse`: then all their runs are related.
-/

namespace EntityModel

variable {α σ τ ε δ : Type}

/-- The operations end alike, up to the translation of errors, and keep the relation between their
states, whether they succeed or fail. -/
def Effect.Related (related : σ → τ → Prop) (translate : δ → ε) (first : Effect σ ε)
    (second : Effect τ δ) : Prop :=
  ∀ s t, related s t →
    (first s).1 = (second t).1.mapError translate ∧ related (first s).2 (second t).2

theorem Effect.mapError_id (result : Except ε Unit) : result.mapError id = result := by
  cases result <;> rfl

namespace Effect.Related

variable {related : σ → τ → Prop} {translate : δ → ε}

theorem succeed : Related related translate Effect.succeed Effect.succeed :=
  fun _ _ h => ⟨rfl, h⟩

theorem fail (error : δ) : Related related translate (Effect.fail (translate error))
    (Effect.fail error) :=
  fun _ _ h => ⟨rfl, h⟩

theorem update {f : σ → σ} {g : τ → τ} (h : ∀ s t, related s t → related (f s) (g t)) :
    Related related translate (Effect.update f) (Effect.update g) :=
  fun s t hst => ⟨rfl, h s t hst⟩

theorem andThen {first second : Effect σ ε} {first' second' : Effect τ δ}
    (hf : Related related translate first first')
    (hs : Related related translate second second') :
    Related related translate (first.andThen second) (first'.andThen second') := by
  intro s t hst
  obtain ⟨hresult, hstate⟩ := hf s t hst
  unfold Effect.andThen
  cases h : first s with
  | mk result s₁ =>
    cases h' : first' t with
    | mk result' t₁ =>
      rw [h, h'] at hresult hstate
      cases result' with
      | ok _ =>
        rw [show result = .ok () from hresult]
        exact hs s₁ t₁ hstate
      | error error =>
        rw [show result = .error (translate error) from hresult]
        exact ⟨rfl, hstate⟩

theorem visitEach {visit : α → Effect σ ε} {visit' : α → Effect τ δ} {items : List α}
    (h : ∀ item ∈ items, Related related translate (visit item) (visit' item)) :
    Related related translate (EntityModel.visitEach visit items)
      (EntityModel.visitEach visit' items) := by
  induction items with
  | nil => exact succeed
  | cons item rest ih =>
    rw [visitEach_cons, visitEach_cons]
    exact (h item List.mem_cons_self).andThen (ih fun x hx => h x (List.mem_cons_of_mem _ hx))

end Effect.Related

/-- Step by step the first visitor does what the second does, on a state of its own. -/
structure Visitor.Simulates (v : Visitor σ ε) (w : Visitor τ δ) (related : σ → τ → Prop)
    (translate : δ → ε) : Prop where
  dispatch : ∀ c walk walk', Effect.Related related translate walk walk' →
    Effect.Related related translate (v.dispatch c walk) (w.dispatch c walk')
  functions : ∀ s t, related s t →
    (v.functions s).1 = (w.functions t).1 ∧ related (v.functions s).2 (w.functions t).2
  ofBroken : ∀ reference, v.ofBroken reference = translate (w.ofBroken reference)
  observe : ∀ line s t, related s t → related (v.observe line s) (w.observe line t)

namespace Visitor.Simulates

variable {v : Visitor σ ε} {w : Visitor τ δ} {related : σ → τ → Prop} {translate : δ → ε}

/-- If the dispatches of a step are related, so is the step. -/
theorem perform (h : v.Simulates w related translate) {step : Step}
    (ih : ∀ target, step.target? = some target →
      Effect.Related related translate (EntityModel.visit v target) (EntityModel.visit w target)) :
    Effect.Related related translate (step.perform v (EntityModel.visit v))
      (step.perform w (EntityModel.visit w)) := by
  cases step with
  | enter kind name? => exact .update (h.observe _)
  | call target => exact ih target rfl
  | broken reference =>
    simp only [Step.perform, h.ofBroken]
    exact .fail _
  | functions target =>
    intro s t hst
    obtain ⟨hanswer, hstate⟩ := h.functions s t hst
    cases hw : (w.functions t).1 with
    | true =>
      rw [Step.perform_functions_of_accepted (hanswer.trans hw),
        Step.perform_functions_of_accepted hw]
      exact ih target rfl _ _ hstate
    | false =>
      rw [Step.perform_functions_of_declined (hanswer.trans hw),
        Step.perform_functions_of_declined hw]
      exact ⟨rfl, hstate⟩

theorem visit (h : v.Simulates w related translate) (c : Call) :
    Effect.Related related translate (EntityModel.visit v c) (EntityModel.visit w c) := by
  induction c using Call.stepInduction with
  | h c ih =>
    rw [visit_eq, visit_eq]
    refine h.dispatch c _ _ ?_
    rw [walk_eq, walk_eq]
    exact .visitEach fun step hs => h.perform (ih step hs)

theorem traverse (h : v.Simulates w related translate) (m : Model) :
    Effect.Related related translate (EntityModel.traverse v m) (EntityModel.traverse w m) := by
  intro s t hst
  have hentered := h.observe .entered _ _ (h.observe (.spanOpened m.name) s t hst)
  obtain ⟨hresult, hstate⟩ := h.visit (.model m) _ _ hentered
  exact ⟨hresult, h.observe .exited _ _ hstate⟩

end Visitor.Simulates

end EntityModel
