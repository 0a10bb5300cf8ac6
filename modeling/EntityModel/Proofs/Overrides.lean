import EntityModel.Proofs.LogRun
import EntityModel.Visit.KindLog

/-!
# EntityModel.Proofs.Overrides

Visitors that decide at each dispatch whether to take the default descent.

* `Overrides`: at each dispatch the state is updated, and then the descent is taken, left out, or
  given up with an error of the visitor's own. Whether functions are taken may differ each time.
* `Overrides.Reaches`: the dispatches to which a run comes, each with the state it finds.
* `Model.build_traverses`: through a built model every such run succeeds, or ends with an error that
  one of its overrides raised at a dispatch it came to. It never converts a broken reference.
-/

namespace EntityModel

/-- What an override does once it has updated the state. -/
inductive Decision (ε : Type) where
  | descend
  | skip
  | raise (error : ε)

structure Overrides (σ ε : Type) where
  decide : Call → σ → Decision ε × σ
  functions : σ → Bool × σ
  observe : TraceLine → σ → σ

/-- A step dispatches a call, if need be after asking for functions. -/
inductive Step.Leads {σ : Type} (functions : σ → Bool × σ) : Step → σ → Call → σ → Prop where
  | call {target : Call} {s : σ} : Leads functions (.call target) s target s
  | functions {target : Call} {s s' : σ} :
      functions s = (true, s') → Leads functions (.functions target) s target s'

namespace Overrides

variable {σ ε : Type}

def dispatch (o : Overrides σ ε) (c : Call) (walk : Effect σ ε) : Effect σ ε := fun s =>
  match o.decide c s with
  | (.descend, s') => walk s'
  | (.skip, s') => (.ok (), s')
  | (.raise error, s') => (.error error, s')

def visitor (o : Overrides σ ε) (ofBroken : BrokenReference → ε) : Visitor σ ε where
  dispatch := o.dispatch
  functions := o.functions
  ofBroken := ofBroken
  observe := o.observe

/-- The dispatch of a call in a state is the dispatch of another, or comes to it: the descent is
taken, and the steps before the one that leads there succeed. -/
inductive Reaches (o : Overrides σ ε) (ofBroken : BrokenReference → ε) :
    Call → σ → Call → σ → Prop where
  | here {c : Call} {s : σ} : Reaches o ofBroken c s c s
  | deeper {c target found : Call} {s s₁ s₂ s₃ s₄ : σ} {before after : List Step} {step : Step} :
      o.decide c s = (.descend, s₁) →
      c.steps = before ++ step :: after →
      visitEach (Step.perform (o.visitor ofBroken) (visit (o.visitor ofBroken))) before s₁ =
        (.ok (), s₂) →
      step.Leads o.functions s₂ target s₃ →
      Reaches o ofBroken target s₃ found s₄ →
      Reaches o ofBroken c s found s₄

/-- An override raises the error at a dispatch to which the run through the model comes, and the run
ends there. -/
def Raises (o : Overrides σ ε) (ofBroken : BrokenReference → ε) (m : Model) (s : σ) (error : ε) :
    Prop :=
  ∃ c before after,
    o.Reaches ofBroken (.model m) (o.observe .entered (o.observe (.spanOpened m.name) s))
      c before ∧
    o.decide c before = (.raise error, after) ∧
    traverse (o.visitor ofBroken) m s = (.error error, o.observe .exited after)

variable {o : Overrides σ ε}

theorem visit_apply (ofBroken : BrokenReference → ε) (c : Call) (s : σ) :
    visit (o.visitor ofBroken) c s = o.dispatch c (walk (o.visitor ofBroken) c) s :=
  congrFun (visit_eq _ c) s

/-- Below a sound call no broken reference is converted. -/
theorem visit_eq_of_sound (ofBroken other : BrokenReference → ε) {c : Call} (hc : c.Sound) :
    visit (o.visitor ofBroken) c = visit (o.visitor other) c := by
  induction c using Call.stepInduction with
  | h c ih =>
    have hwalk : walk (o.visitor ofBroken) c = walk (o.visitor other) c := by
      rw [walk_eq, walk_eq]
      apply visitEach_congr
      intro step hs
      have htarget : ∀ target, step.target? = some target →
          visit (o.visitor ofBroken) target = visit (o.visitor other) target :=
        fun target ht => ih step hs target ht (hc.target hs ht)
      cases step with
      | enter kind name? => rfl
      | broken reference => exact absurd hs (hc.not_broken reference)
      | call target => exact htarget target rfl
      | functions target =>
        simp only [Step.perform, htarget target rfl]
        rfl
    rw [visit_eq, visit_eq, hwalk]
    rfl

/-- A step of a sound call fails only in a dispatch that it leads to. -/
theorem leads_of_perform_error {ofBroken : BrokenReference → ε} {c : Call} (hc : c.Sound)
    {step : Step} (hs : step ∈ c.steps) {s s' : σ} {error : ε}
    (h : step.perform (o.visitor ofBroken) (visit (o.visitor ofBroken)) s = (.error error, s')) :
    ∃ target s₁, step.target? = some target ∧ step.Leads o.functions s target s₁ ∧
      visit (o.visitor ofBroken) target s₁ = (.error error, s') := by
  cases step with
  | enter kind name? => cases h
  | broken reference => exact absurd hs (hc.not_broken reference)
  | call target => exact ⟨target, s, rfl, .call, h⟩
  | functions target =>
    simp only [Step.perform, visitor] at h
    cases hf : o.functions s with
    | mk taken s₁ =>
      rw [hf] at h
      cases taken with
      | true => exact ⟨target, s₁, rfl, .functions hf, h⟩
      | false => cases h

theorem reaches_of_visit_error {ofBroken : BrokenReference → ε} {c : Call} (hc : c.Sound)
    {s s' : σ} {error : ε} (h : visit (o.visitor ofBroken) c s = (.error error, s')) :
    ∃ found before, o.Reaches ofBroken c s found before ∧
      o.decide found before = (.raise error, s') := by
  induction c using Call.stepInduction generalizing s with
  | h c ih =>
    rw [visit_apply, dispatch] at h
    cases hd : o.decide c s with
    | mk decision s₁ =>
      rw [hd] at h
      cases decision with
      | skip => cases h
      | raise e =>
        cases h
        exact ⟨c, s, .here, hd⟩
      | descend =>
        rw [walk_eq] at h
        obtain ⟨before, step, after, s₂, hsteps, hbefore, hstep⟩ := visitEach_eq_error_iff.mp h
        have hs : step ∈ c.steps := by
          rw [hsteps]
          exact List.mem_append_right _ List.mem_cons_self
        obtain ⟨target, s₃, ht, hlead, hvisit⟩ := leads_of_perform_error hc hs hstep
        obtain ⟨found, s₄, hreach, hraise⟩ := ih step hs target ht (hc.target hs ht) hvisit
        exact ⟨found, s₄, .deeper hd hsteps hbefore hlead hreach, hraise⟩

section Models

variable {m : Model} (hm : (Call.model m).Sound)
include hm

theorem traverse_eq_of_sound (ofBroken other : BrokenReference → ε) (s : σ) :
    traverse (o.visitor ofBroken) m s = traverse (o.visitor other) m s := by
  unfold traverse
  rw [visit_eq_of_sound ofBroken other hm]
  rfl

theorem traverse_ok_or_raises (ofBroken : BrokenReference → ε) (s : σ) :
    (traverse (o.visitor ofBroken) m s).1 = .ok () ∨ ∃ error, o.Raises ofBroken m s error := by
  cases hr : visit (o.visitor ofBroken) (.model m)
      (o.observe .entered (o.observe (.spanOpened m.name) s)) with
  | mk result s' =>
    have htraverse : traverse (o.visitor ofBroken) m s = (result, o.observe .exited s') := by
      unfold traverse
      simp only [visitor] at hr ⊢
      rw [hr]
    cases result with
    | ok _ =>
      left
      rw [htraverse]
    | error error =>
      right
      obtain ⟨c, before, hreach, hraise⟩ := reaches_of_visit_error hm hr
      exact ⟨error, c, before, s', hreach, hraise, htraverse⟩

end Models

end Overrides

theorem traceVisitor_follows :
    traceVisitor.Follows {} (fun _ => Effect.succeed) (fun _ => Effect.succeed) where
  dispatch _ walk := (Effect.andThen_succeed walk).symm
  before_keeps _ _ h := h
  after_keeps _ _ h := h
  observe_keeps _ _ _ := rfl

/-- Through a built model every run of overrides ends as they decide, and so the log and a visitor
that never steps in always succeed. -/
theorem Model.build_traverses {name : String} {declarations : List Declaration} {m : Model}
    (h : build name declarations = .ok m) :
    (∀ {σ ε : Type} (o : Overrides σ ε) (ofBroken : BrokenReference → ε) (s : σ),
      (∀ other, traverse (o.visitor ofBroken) m s = traverse (o.visitor other) m s) ∧
      ((traverse (o.visitor ofBroken) m s).1 = .ok () ∨
        ∃ error, o.Raises ofBroken m s error)) ∧
    (∀ log, (traverse DispatchLog.visitor m log).1 = .ok ()) ∧
    ∀ trace, (traverse traceVisitor m trace).1 = .ok () := by
  have hm := sound_of_build h
  refine ⟨?_, ?_, ?_⟩
  · intro σ ε o ofBroken s
    constructor
    · intro other
      exact Overrides.traverse_eq_of_sound hm ofBroken other s
    · exact Overrides.traverse_ok_or_raises hm ofBroken s
  · intro log
    rw [DispatchLog.traverse_result, Effect.verdict_eq_ok_iff, List.head?_eq_none_iff,
      m.brokenReferences_eq_nil_iff]
    exact Call.sound_model_iff.mp hm
  · intro trace
    rw [traceVisitor_follows.traverse_result (fun _ _ => rfl) (fun _ _ => rfl) m rfl,
      hm.brokenReferences_eq_nil]
    rfl

theorem Model.build_traverses_shop :
    build "Shop" (shop "Customers") = .ok (assemble "Shop" (shop "Customers")) ∧
      (∀ log,
        (traverse DispatchLog.visitor (assemble "Shop" (shop "Customers")) log).1 = .ok ()) ∧
      ∀ trace, (traverse traceVisitor (assemble "Shop" (shop "Customers")) trace).1 = .ok () := by
  have hbuild : build "Shop" (shop "Customers") = .ok (assemble "Shop" (shop "Customers")) := rfl
  obtain ⟨-, hlog, htrace⟩ := build_traverses hbuild
  exact ⟨hbuild, hlog, htrace⟩

end EntityModel
