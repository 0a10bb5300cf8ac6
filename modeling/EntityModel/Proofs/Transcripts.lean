import EntityModel.Proofs.Children
import EntityModel.Proofs.Overrides
import EntityModel.Proofs.Simulation

/-!
# EntityModel.Proofs.Transcripts

What is noted of a run, dispatch by dispatch.

* `Hooks`: overrides that act before and after the default descent. They may leave it out, and they
  may fail.
* `Hooks.watched`: the same hooks on a state with a list of notes: a call is opened and closed,
  or skipped, or its hook has failed, and a question for functions has been answered.
* `Transcript`: the notes of a run that succeeds. Below each open call come its children, and last,
  if the call has functions to offer, one question.
* `Transcript.questions_eq`: so there are as many questions as open calls with functions to offer.
* `Hooks.transcribes_visit`: every run of watched hooks that succeeds leaves a transcript.
* `Hooks.failed_of_visit_error`: where no reference is broken, a run fails only if a hook does.
-/

namespace EntityModel

variable {σ ε : Type}

/-! ## Hooks -/

structure Hooks (σ ε : Type) where
  before : Call → σ → Decision ε × σ
  /-- Runs only if the descent has succeeded. -/
  after : Call → σ → Option ε × σ
  functions : σ → Bool × σ

namespace Hooks

def finish (h : Hooks σ ε) (c : Call) : Effect σ ε := fun s =>
  (Effect.verdict (h.after c s).1, (h.after c s).2)

def dispatch (h : Hooks σ ε) (c : Call) (walk : Effect σ ε) : Effect σ ε := fun s =>
  match h.before c s with
  | (.descend, s') => walk.andThen (h.finish c) s'
  | (.skip, s') => (.ok (), s')
  | (.raise error, s') => (.error error, s')

def visitor (h : Hooks σ ε) (ofBroken : BrokenReference → ε) : Visitor σ ε where
  dispatch := h.dispatch
  functions := h.functions
  ofBroken := ofBroken

section Dispatch

variable {h : Hooks σ ε} {c : Call} {walk : Effect σ ε} {s : σ}

theorem dispatch_of_descend (hd : (h.before c s).1 = .descend) :
    h.dispatch c walk s = walk.andThen (h.finish c) (h.before c s).2 := by
  rw [dispatch, show h.before c s = (.descend, (h.before c s).2) from Prod.ext hd rfl]

theorem dispatch_of_skip (hd : (h.before c s).1 = .skip) :
    h.dispatch c walk s = (.ok (), (h.before c s).2) := by
  rw [dispatch, show h.before c s = (.skip, (h.before c s).2) from Prod.ext hd rfl]

theorem dispatch_of_raise {error : ε} (hd : (h.before c s).1 = .raise error) :
    h.dispatch c walk s = (.error error, (h.before c s).2) := by
  rw [dispatch, show h.before c s = (.raise error, (h.before c s).2) from Prod.ext hd rfl]

end Dispatch

theorem visit_apply (h : Hooks σ ε) (ofBroken : BrokenReference → ε) (c : Call) (s : σ) :
    visit (h.visitor ofBroken) c s = h.dispatch c (walk (h.visitor ofBroken) c) s :=
  congrFun (visit_eq _ c) s

end Hooks

/-! ## Watching a run -/

inductive Note where
  | opened (c : Call)
  | skipped (c : Call)
  | failed (c : Call)
  | asked (answer : Bool)
  | closed (c : Call)

/-- What is noted at the beginning of a dispatch. -/
def Note.ofDecision (c : Call) : Decision ε → Note
  | .descend => .opened c
  | .skip => .skipped c
  | .raise _ => .failed c

/-- What is noted at its end. -/
def Note.ofError? (c : Call) : Option ε → Note
  | none => .closed c
  | some _ => .failed c

structure Watched (σ : Type) where
  state : σ
  notes : List Note := []

def Watched.note (w : Watched σ) (s : σ) (entry : Note) : Watched σ :=
  ⟨s, w.notes ++ [entry]⟩

namespace Hooks

/-- The hooks with a note of what they do. -/
def watched (h : Hooks σ ε) : Hooks (Watched σ) ε where
  before c w :=
    ((h.before c w.state).1, w.note (h.before c w.state).2 (.ofDecision c (h.before c w.state).1))
  after c w :=
    ((h.after c w.state).1, w.note (h.after c w.state).2 (.ofError? c (h.after c w.state).1))
  functions w :=
    ((h.functions w.state).1, w.note (h.functions w.state).2 (.asked (h.functions w.state).1))

theorem notes_watched_before {h : Hooks σ ε} {c : Call} {w : Watched σ} {decision : Decision ε}
    (hd : (h.before c w.state).1 = decision) :
    (h.watched.before c w).2.notes = w.notes ++ [.ofDecision c decision] := by
  rw [← hd]
  rfl

theorem notes_watched_finish {h : Hooks σ ε} {c : Call} {w w' : Watched σ} {error? : Option ε}
    (hf : h.watched.finish c w = (Effect.verdict error?, w')) :
    w'.notes = w.notes ++ [.ofError? c error?] := by
  have herror : (h.after c w.state).1 = error? := Effect.verdict_injective (congrArg Prod.fst hf)
  have hnotes : w'.notes = w.notes ++ [.ofError? c (h.after c w.state).1] :=
    congrArg (Watched.notes ∘ Prod.snd) hf.symm
  rw [hnotes, herror]

/-- Watching changes neither how a run ends nor the state of the hooks. -/
theorem watched_simulates (h : Hooks σ ε) (ofBroken : BrokenReference → ε) :
    (h.watched.visitor ofBroken).Simulates (h.visitor ofBroken) (fun w s => w.state = s) id where
  dispatch c walk walk' hwalk := by
    rintro w _ rfl
    have hfinish :
        Effect.Related (fun w s => w.state = s) id (h.watched.finish c) (h.finish c) := by
      rintro w _ rfl
      exact ⟨(Effect.mapError_id _).symm, rfl⟩
    change (h.watched.dispatch c walk w).1 = (h.dispatch c walk' w.state).1.mapError id ∧
      (h.watched.dispatch c walk w).2.state = (h.dispatch c walk' w.state).2
    cases hd : (h.before c w.state).1 with
    | descend =>
      rw [dispatch_of_descend hd, dispatch_of_descend (h := h.watched) hd]
      exact hwalk.andThen hfinish _ _ rfl
    | skip =>
      rw [dispatch_of_skip hd, dispatch_of_skip (h := h.watched) hd]
      exact ⟨rfl, rfl⟩
    | raise error =>
      rw [dispatch_of_raise hd, dispatch_of_raise (h := h.watched) hd]
      exact ⟨rfl, rfl⟩
  functions := by
    rintro w _ rfl
    exact ⟨rfl, rfl⟩
  ofBroken _ := rfl
  observe _ _ _ hw := hw

end Hooks

/-! ## Transcripts -/

/-- The notes of a run that visits the calls in turn and succeeds. -/
inductive Transcript : List Call → List Note → Prop where
  | nil : Transcript [] []
  | skipped {c : Call} {rest : List Call} {after : List Note} :
      Transcript rest after → Transcript (c :: rest) (.skipped c :: after)
  | plain {c : Call} {rest : List Call} {inner after : List Note} :
      c.functionChild? = none → Transcript c.children inner → Transcript rest after →
      Transcript (c :: rest) (.opened c :: (inner ++ .closed c :: after))
  | declined {c child : Call} {rest : List Call} {inner after : List Note} :
      c.functionChild? = some child → Transcript c.children inner → Transcript rest after →
      Transcript (c :: rest) (.opened c :: (inner ++ .asked false :: .closed c :: after))
  | accepted {c child : Call} {rest : List Call} {inner below after : List Note} :
      c.functionChild? = some child → Transcript c.children inner → Transcript [child] below →
      Transcript rest after →
      Transcript (c :: rest)
        (.opened c :: (inner ++ .asked true :: (below ++ .closed c :: after)))

def Note.opened? : Note → Option Call
  | .opened c => some c
  | _ => none

def Note.isQuestion : Note → Bool
  | .asked _ => true
  | _ => false

/-- The calls that are opened, in order. -/
def Note.calls (notes : List Note) : List Call :=
  notes.filterMap opened?

/-- How often functions are asked for. -/
def Note.questions (notes : List Note) : Nat :=
  notes.countP isQuestion

namespace Note

theorem calls_append (first second : List Note) :
    calls (first ++ second) = calls first ++ calls second :=
  List.filterMap_append

theorem questions_append (first second : List Note) :
    questions (first ++ second) = questions first + questions second :=
  List.countP_append

@[simp] theorem calls_opened (c : Call) (rest : List Note) :
    calls (.opened c :: rest) = c :: calls rest := rfl

@[simp] theorem calls_asked (answer : Bool) (rest : List Note) :
    calls (.asked answer :: rest) = calls rest := rfl

@[simp] theorem calls_closed (c : Call) (rest : List Note) :
    calls (.closed c :: rest) = calls rest := rfl

@[simp] theorem questions_opened (c : Call) (rest : List Note) :
    questions (.opened c :: rest) = questions rest := rfl

@[simp] theorem questions_asked (answer : Bool) (rest : List Note) :
    questions (.asked answer :: rest) = questions rest + 1 :=
  List.countP_cons_of_pos rfl

@[simp] theorem questions_closed (c : Call) (rest : List Note) :
    questions (.closed c :: rest) = questions rest := rfl

end Note

/-- The call has functions to offer. -/
def Call.offers (c : Call) : Bool :=
  c.functionChild?.isSome

namespace Transcript

theorem append {first second : List Call} {notes after : List Note} (h : Transcript first notes)
    (h' : Transcript second after) : Transcript (first ++ second) (notes ++ after) := by
  induction h with
  | nil => exact h'
  | skipped _ ih => exact .skipped ih
  | plain hc hinner _ _ ih =>
    rw [List.cons_append, List.cons_append, List.append_assoc]
    exact .plain hc hinner ih
  | declined hc hinner _ _ ih =>
    rw [List.cons_append, List.cons_append, List.append_assoc]
    exact .declined hc hinner ih
  | accepted hc hinner hbelow _ _ _ ih =>
    rw [List.cons_append, List.cons_append, List.append_assoc, List.cons_append, List.append_assoc]
    exact .accepted hc hinner hbelow ih

/-- Every open call that has functions to offer asks once, and no other does. -/
theorem questions_eq {calls : List Call} {notes : List Note} (h : Transcript calls notes) :
    Note.questions notes = (Note.calls notes).countP Call.offers := by
  induction h with
  | nil => rfl
  | skipped _ ih => exact ih
  | @plain c _ _ _ hc _ _ ihinner ih =>
    have hoffers : ¬ c.offers = true := by simp [Call.offers, hc]
    simp only [Note.questions_opened, Note.questions_append, Note.questions_closed,
      Note.calls_opened, Note.calls_append, Note.calls_closed, List.countP_append, ihinner, ih,
      List.countP_cons_of_neg hoffers]
  | @declined c _ _ _ _ hc _ _ ihinner ih =>
    have hoffers : c.offers = true := by simp [Call.offers, hc]
    simp only [Note.questions_opened, Note.questions_append, Note.questions_asked,
      Note.questions_closed, Note.calls_opened, Note.calls_append, Note.calls_asked,
      Note.calls_closed, List.countP_append, ihinner, ih, List.countP_cons_of_pos hoffers]
    omega
  | @accepted c _ _ _ _ _ hc _ _ _ ihinner ihbelow ih =>
    have hoffers : c.offers = true := by simp [Call.offers, hc]
    simp only [Note.questions_opened, Note.questions_append, Note.questions_asked,
      Note.questions_closed, Note.calls_opened, Note.calls_append, Note.calls_asked,
      Note.calls_closed, List.countP_append, ihinner, ihbelow, ih,
      List.countP_cons_of_pos hoffers]
    omega

end Transcript

/-! ## Runs leave transcripts -/

/-- From any state, if the operation succeeds it adds a transcript of the calls to the notes. -/
def Transcribes (calls : List Call) (effect : Effect (Watched σ) ε) : Prop :=
  ∀ w w', effect w = (.ok (), w') →
    ∃ notes, w'.notes = w.notes ++ notes ∧ Transcript calls notes

namespace Transcribes

theorem of_notes_eq {effect : Effect (Watched σ) ε}
    (h : ∀ w, (effect w).2.notes = w.notes) : Transcribes [] effect := by
  intro w w' hok
  refine ⟨[], ?_, .nil⟩
  rw [List.append_nil, ← h w, hok]

theorem andThen {first second : List Call} {effect effect' : Effect (Watched σ) ε}
    (h : Transcribes first effect) (h' : Transcribes second effect') :
    Transcribes (first ++ second) (effect.andThen effect') := by
  intro w w' hok
  obtain ⟨w₁, hfirst, hsecond⟩ := Effect.andThen_eq_ok_iff.mp hok
  obtain ⟨notes, hnotes, ht⟩ := h w w₁ hfirst
  obtain ⟨notes', hnotes', ht'⟩ := h' w₁ w' hsecond
  refine ⟨notes ++ notes', ?_, ht.append ht'⟩
  rw [hnotes', hnotes, List.append_assoc]

theorem visitEach {α : Type} {visit : α → Effect (Watched σ) ε} {calls : α → List Call}
    {items : List α} (h : ∀ item ∈ items, Transcribes (calls item) (visit item)) :
    Transcribes (items.flatMap calls) (EntityModel.visitEach visit items) := by
  induction items with
  | nil => exact of_notes_eq fun _ => rfl
  | cons item rest ih =>
    rw [List.flatMap_cons, visitEach_cons]
    exact (h item List.mem_cons_self).andThen (ih fun x hx => h x (List.mem_cons_of_mem _ hx))

end Transcribes

namespace Hooks

variable {h : Hooks σ ε} {ofBroken : BrokenReference → ε}

/-- A step that asks for nothing leads to its child, if it has one. -/
theorem transcribes_perform {step : Step} (hs : step.Unasked)
    (ih : ∀ target, step.target? = some target →
      Transcribes [target] (visit (h.watched.visitor ofBroken) target)) :
    Transcribes step.child?.toList
      (step.perform (h.watched.visitor ofBroken) (visit (h.watched.visitor ofBroken))) := by
  cases step with
  | enter kind name? => exact .of_notes_eq fun _ => rfl
  | broken reference => exact .of_notes_eq fun _ => rfl
  | call target => exact ih target rfl
  | functions target => exact absurd rfl (hs target)

/-- The question for functions, and what it leads to, completes the transcript of a call. -/
theorem transcript_of_offer {c : Call} {inner : List Note} {w w' : Watched σ}
    (hinner : Transcript c.children inner)
    (ih : ∀ child, c.functionChild? = some child →
      Transcribes [child] (visit (h.watched.visitor ofBroken) child))
    (hok : EntityModel.visitEach
      (Step.perform (h.watched.visitor ofBroken) (visit (h.watched.visitor ofBroken)))
      (c.functionChild?.toList.map .functions) w = (.ok (), w')) :
    ∃ notes, w'.notes = w.notes ++ notes ∧
      Transcript [c] (.opened c :: (inner ++ (notes ++ [.closed c]))) := by
  cases hc : c.functionChild? with
  | none =>
    rw [hc] at hok
    cases hok
    exact ⟨[], (List.append_nil _).symm, .plain hc hinner .nil⟩
  | some child =>
    rw [hc, Option.toList_some, List.map_singleton, visitEach_cons, visitEach_nil,
      Effect.andThen_succeed] at hok
    cases hanswer : (h.functions w.state).1 with
    | false =>
      rw [Step.perform_functions_of_declined (by exact hanswer)] at hok
      cases hok
      refine ⟨[.asked false], ?_, .declined hc hinner .nil⟩
      rw [← hanswer]
      rfl
    | true =>
      rw [Step.perform_functions_of_accepted (by exact hanswer)] at hok
      obtain ⟨below, hbelow, ht⟩ := ih child hc _ _ hok
      refine ⟨.asked true :: below, ?_, .accepted hc hinner ht .nil⟩
      rw [hbelow, ← List.singleton_append, ← List.append_assoc, ← hanswer]
      rfl

theorem transcribes_walk {c : Call} (ih : ∀ step ∈ c.steps, ∀ target,
      step.target? = some target → Transcribes [target] (visit (h.watched.visitor ofBroken) target))
    {w w' : Watched σ} (hok : walk (h.watched.visitor ofBroken) c w = (.ok (), w')) :
    ∃ notes, w'.notes = w.notes ++ notes ∧
      Transcript [c] (.opened c :: (notes ++ [.closed c])) := by
  obtain ⟨others, hsteps, hothers⟩ := c.exists_steps_eq
  have hchildren : c.children = others.flatMap fun step => step.child?.toList := by
    rw [Call.children_of_steps_eq hsteps, List.filterMap_eq_flatMap_toList]
  rw [walk_eq, hsteps, visitEach_append] at hok
  obtain ⟨w₁, hfirst, hsecond⟩ := Effect.andThen_eq_ok_iff.mp hok
  have hinner : Transcribes c.children (EntityModel.visitEach (Step.perform
      (h.watched.visitor ofBroken) (visit (h.watched.visitor ofBroken))) others) := by
    rw [hchildren]
    refine .visitEach fun step hs => transcribes_perform (hothers step hs) (ih step ?_)
    rw [hsteps]
    exact List.mem_append_left _ hs
  obtain ⟨inner, hnotes, ht⟩ := hinner w w₁ hfirst
  obtain ⟨notes, hnotes', ht'⟩ := transcript_of_offer ht
    (fun child hc => ih (.functions child) (by simp [hsteps, hc]) child rfl) hsecond
  refine ⟨inner ++ notes, ?_, ?_⟩
  · rw [hnotes', hnotes, List.append_assoc]
  · rw [List.append_assoc]
    exact ht'

theorem transcribes_visit (c : Call) :
    Transcribes [c] (visit (h.watched.visitor ofBroken) c) := by
  induction c using Call.stepInduction with
  | h c ih =>
    intro w w' hok
    rw [visit_apply] at hok
    cases hd : (h.before c w.state).1 with
    | descend =>
      rw [dispatch_of_descend (h := h.watched) hd] at hok
      obtain ⟨w₁, hwalk, hfinish⟩ := Effect.andThen_eq_ok_iff.mp hok
      obtain ⟨notes, hnotes, ht⟩ := transcribes_walk ih hwalk
      refine ⟨.opened c :: (notes ++ [.closed c]), ?_, ht⟩
      have hclosed : w'.notes = w₁.notes ++ [.ofError? c (none : Option ε)] :=
        notes_watched_finish hfinish
      rw [hclosed, hnotes, notes_watched_before hd, List.append_assoc, List.append_assoc]
      rfl
    | skip =>
      rw [dispatch_of_skip (h := h.watched) hd] at hok
      cases hok
      exact ⟨[.skipped c], notes_watched_before hd, .skipped .nil⟩
    | raise error =>
      rw [dispatch_of_raise (h := h.watched) hd] at hok
      cases hok

/-! ## Failures -/

/-- Below a sound call a run fails only if a hook does. -/
theorem failed_of_visit_error {c : Call} (hc : c.Sound) {w w' : Watched σ} {error : ε}
    (herror : visit (h.watched.visitor ofBroken) c w = (.error error, w')) :
    ∃ d, .failed d ∈ w'.notes := by
  induction c using Call.stepInduction generalizing w with
  | h c ih =>
    rw [visit_apply] at herror
    cases hd : (h.before c w.state).1 with
    | skip =>
      rw [dispatch_of_skip (h := h.watched) hd] at herror
      cases herror
    | raise raised =>
      rw [dispatch_of_raise (h := h.watched) hd] at herror
      cases herror
      refine ⟨c, ?_⟩
      rw [notes_watched_before hd]
      exact List.mem_append_right _ List.mem_cons_self
    | descend =>
      rw [dispatch_of_descend (h := h.watched) hd, Effect.andThen_eq_error_iff] at herror
      rcases herror with hwalk | ⟨w₁, -, hfinish⟩
      · rw [walk_eq] at hwalk
        obtain ⟨before, step, after, w₁, hsteps, -, hstep⟩ := visitEach_eq_error_iff.mp hwalk
        have hs : step ∈ c.steps := by
          rw [hsteps]
          exact List.mem_append_right _ List.mem_cons_self
        cases step with
        | enter kind name? => cases hstep
        | broken reference => exact absurd hs (hc.not_broken reference)
        | call target => exact ih _ hs target rfl (hc.target hs rfl) hstep
        | functions target =>
          cases hanswer : (h.functions w₁.state).1 with
          | false =>
            rw [Step.perform_functions_of_declined (by exact hanswer)] at hstep
            cases hstep
          | true =>
            rw [Step.perform_functions_of_accepted (by exact hanswer)] at hstep
            exact ih _ hs target rfl (hc.target hs rfl) hstep
      · have hfailed : w'.notes = w₁.notes ++ [.ofError? c (some error)] :=
          notes_watched_finish hfinish
        refine ⟨c, ?_⟩
        rw [hfailed]
        exact List.mem_append_right _ List.mem_cons_self

end Hooks

end EntityModel
