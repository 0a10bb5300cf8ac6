import EntityModel.Proofs.TierChains
import Mathlib.Algebra.Ring.Nat
import Mathlib.Data.List.DropRight

/-!
# EntityModel.Proofs.FreshLogs

What a log records depends on nothing that it holds already.

* `LogStart`: what can be run on a log: a traversal, a single dispatch, or the descent below a call
  without the dispatch of the call itself. `LogStart.fresh`: the log that a fresh log becomes.
* `Effect.AppendsOnly`: an operation that adds entries at the end of a log, which entries and with
  which result the configuration alone decides. So do all of the above: `LogStart.appendsOnly`.
* `DispatchLog.Continues`: a log after another one. `DispatchLog.Joins`: a log that is several logs
  one after the other.
* `LogCommand.sinceClear`: what was run since a log was last cleared.
* `DispatchLog.joins_fresh_logs`: after any sequence of runs a log is the fresh logs of those since
  it was last cleared, one after the other. That of a whole model is put together from its own
  entries and the fresh logs of its namespaces and of its containers.
-/

namespace EntityModel

/-! ## Logs one after the other -/

namespace DispatchLog

/-- The first log with what the second holds at its end. -/
structure Continues (log fresh result : DispatchLog) : Prop where
  config : result.config = log.config
  entries : result.entries.toList = log.entries.toList ++ fresh.entries.toList
  count : ∀ point, result.count point = log.count point + fresh.count point
  names : ∀ point, result.names point = log.names point ++ fresh.names point

/-- Nothing but what the logs hold, one after the other. -/
structure Joins (log : DispatchLog) (config : TraversalConfig) (logs : List DispatchLog) :
    Prop where
  config : log.config = config
  entries : log.entries.toList = logs.flatMap fun fresh => fresh.entries.toList
  count : ∀ point, log.count point = (logs.map fun fresh => fresh.count point).sum
  names : ∀ point, log.names point = logs.flatMap fun fresh => fresh.names point

theorem append_append (log : DispatchLog) (first second : List Dispatch) :
    (log.append first).append second = log.append (first ++ second) := by
  simp [append]

theorem continues_append (log fresh : DispatchLog) :
    log.Continues fresh (log.append fresh.entries.toList) where
  config := rfl
  entries := by simp
  count point := by simp [count]
  names point := by simp [names]

theorem joins_nothing {log : DispatchLog} (h : log.entries = #[]) : log.Joins log.config [] where
  config := rfl
  entries := by rw [h]; rfl
  count point := by rw [count, h]; rfl
  names point := by rw [names, h]; rfl

theorem Joins.concat {log fresh result : DispatchLog} {config : TraversalConfig}
    {logs : List DispatchLog} (h : log.Joins config logs) (hc : log.Continues fresh result) :
    result.Joins config (logs ++ [fresh]) where
  config := hc.config.trans h.config
  entries := by rw [hc.entries, h.entries, List.flatMap_append, List.flatMap_singleton]
  count point := by
    rw [hc.count, h.count, List.map_append, List.sum_append, List.map_singleton, List.sum_singleton]
  names point := by rw [hc.names, h.names, List.flatMap_append, List.flatMap_singleton]

end DispatchLog

/-! ## Operations that only append -/

namespace Effect

/-- Entries are added at the end of the log. Neither they nor the result depend on what is there. -/
def AppendsOnly (effect : Effect DispatchLog BrokenReference) : Prop :=
  ∀ config, ∃ result entries, ∀ log : DispatchLog, log.config = config →
    effect log = (result, log.append entries)

namespace AppendsOnly

variable {effect first second : Effect DispatchLog BrokenReference}

/-- What a fresh log becomes tells what any other does. -/
theorem eq_fresh (h : effect.AppendsOnly) (log : DispatchLog) :
    effect log = ((effect { config := log.config }).1,
      log.append (effect { config := log.config }).2.entries.toList) := by
  obtain ⟨result, entries, heq⟩ := h log.config
  rw [heq log rfl, heq { config := log.config } rfl]
  simp

theorem succeed : (Effect.succeed : Effect DispatchLog BrokenReference).AppendsOnly :=
  fun _ => ⟨.ok (), [], fun log _ => by rw [log.append_nil]; rfl⟩

theorem fail (reference : BrokenReference) :
    (Effect.fail reference : Effect DispatchLog BrokenReference).AppendsOnly :=
  fun _ => ⟨.error reference, [], fun log _ => by rw [log.append_nil]; rfl⟩

theorem andThen (hf : first.AppendsOnly) (hs : second.AppendsOnly) :
    (first.andThen second).AppendsOnly := by
  intro config
  obtain ⟨result, entries, hf⟩ := hf config
  obtain ⟨result', entries', hs⟩ := hs config
  cases result with
  | ok _ =>
    refine ⟨result', entries ++ entries', fun log hlog => ?_⟩
    have hmore : (log.append entries).config = config := hlog
    rw [Effect.andThen_of_ok (hf log hlog), hs _ hmore, DispatchLog.append_append]
  | error reference =>
    exact ⟨.error reference, entries, fun log hlog => Effect.andThen_of_error (hf log hlog)⟩

theorem visitEach {α : Type} {visit : α → Effect DispatchLog BrokenReference} {items : List α}
    (h : ∀ item ∈ items, (visit item).AppendsOnly) :
    (EntityModel.visitEach visit items).AppendsOnly := by
  induction items with
  | nil => exact succeed
  | cons item rest ih =>
    exact (h item List.mem_cons_self).andThen (ih fun x hx => h x (List.mem_cons_of_mem _ hx))

theorem visit (c : Call) : (EntityModel.visit DispatchLog.visitor c).AppendsOnly :=
  fun _ => ⟨_, _, fun log hlog => by rw [DispatchLog.visit_eq, hlog]⟩

theorem perform (step : Step) :
    (step.perform DispatchLog.visitor (EntityModel.visit DispatchLog.visitor)).AppendsOnly := by
  cases step with
  | enter kind name? => exact succeed
  | call target => exact visit target
  | broken reference => exact fail reference
  | functions target =>
    intro config
    cases hon : config.functionsEnabled with
    | true =>
      obtain ⟨result, entries, hvisit⟩ := visit target config
      refine ⟨result, entries, fun log hlog => ?_⟩
      rw [← hlog] at hon
      rw [Step.perform_functions_of_accepted hon]
      exact hvisit log hlog
    | false =>
      refine ⟨.ok (), [], fun log hlog => ?_⟩
      rw [← hlog] at hon
      rw [Step.perform_functions_of_declined hon, log.append_nil]
      rfl

theorem walk (c : Call) : (EntityModel.walk DispatchLog.visitor c).AppendsOnly :=
  visitEach fun step _ => perform step

theorem traverse (m : Model) : (EntityModel.traverse DispatchLog.visitor m).AppendsOnly := by
  intro config
  obtain ⟨result, entries, hvisit⟩ := visit (.model m) config
  refine ⟨result, entries, fun log hlog => ?_⟩
  rw [traverse_eq_visit fun _ _ => rfl]
  exact hvisit log hlog

end AppendsOnly

end Effect

/-! ## Runs on a log -/

/-- What can be run on a log. The descent below a call leaves out the dispatch of the call. -/
inductive LogStart where
  | traverse (m : Model)
  | visit (c : Call)
  | walk (c : Call)

namespace LogStart

def perform : LogStart → Effect DispatchLog BrokenReference
  | .traverse m => EntityModel.traverse DispatchLog.visitor m
  | .visit c => EntityModel.visit DispatchLog.visitor c
  | .walk c => EntityModel.walk DispatchLog.visitor c

theorem appendsOnly (start : LogStart) : start.perform.AppendsOnly := by
  cases start with
  | traverse m => exact .traverse m
  | visit c => exact .visit c
  | walk c => exact .walk c

/-- How the run ends on a fresh log. -/
def result (config : TraversalConfig) (start : LogStart) : Except BrokenReference Unit :=
  (start.perform { config }).1

/-- What a fresh log becomes. -/
def fresh (config : TraversalConfig) (start : LogStart) : DispatchLog :=
  (start.perform { config }).2

/-- A run ends as on a fresh log, and adds what a fresh log records, also where it fails. -/
theorem perform_continues (start : LogStart) (log : DispatchLog) :
    (start.perform log).1 = start.result log.config ∧
      log.Continues (start.fresh log.config) (start.perform log).2 := by
  rw [start.appendsOnly.eq_fresh log]
  exact ⟨rfl, log.continues_append _⟩

end LogStart

/-- A log is put to use or cleared. -/
inductive LogCommand where
  | run (start : LogStart)
  | clear

namespace LogCommand

def start? : LogCommand → Option LogStart
  | .run start => some start
  | .clear => none

/-- What was run after the last clearing, or from the beginning if there was none. -/
def sinceClear (commands : List LogCommand) : List LogStart :=
  (commands.rtakeWhile fun command => command.start?.isSome).filterMap start?

theorem sinceClear_concat_run (commands : List LogCommand) (start : LogStart) :
    sinceClear (commands ++ [.run start]) = sinceClear commands ++ [start] := by
  rw [sinceClear, List.rtakeWhile_concat_pos _ _ _ rfl, List.filterMap_append]
  rfl

theorem sinceClear_concat_clear (commands : List LogCommand) :
    sinceClear (commands ++ [.clear]) = [] := by
  rw [sinceClear, List.rtakeWhile_concat_neg _ _ _ Bool.false_ne_true]
  rfl

end LogCommand

namespace DispatchLog

/-- The log after a command, whether it succeeded or failed. -/
def obey (log : DispatchLog) : LogCommand → DispatchLog
  | .run start => (start.perform log).2
  | .clear => log.clear

def obeyAll (commands : List LogCommand) (log : DispatchLog) : DispatchLog :=
  commands.foldl obey log

/-- By the last command: a run adds its fresh log, and clearing drops all of them. -/
theorem joins_obeyAll (config : TraversalConfig) (commands : List LogCommand) :
    (obeyAll commands { config }).Joins config
      ((LogCommand.sinceClear commands).map (LogStart.fresh config)) := by
  induction commands using List.reverseRecOn with
  | nil => exact joins_nothing rfl
  | append_singleton before command ih =>
    rw [obeyAll, List.foldl_append]
    cases command with
    | run start =>
      have hstep := (start.perform_continues (obeyAll before { config })).2
      rw [ih.config] at hstep
      rw [LogCommand.sinceClear_concat_run, List.map_append]
      exact ih.concat hstep
    | clear =>
      rw [LogCommand.sinceClear_concat_clear]
      have hcleared : (obeyAll before { config }).clear.Joins
          (obeyAll before { config }).clear.config [] := joins_nothing rfl
      have hconfig : (obeyAll before { config }).clear.config = config := ih.config
      rw [hconfig] at hcleared
      exact hcleared

end DispatchLog

/-! ## Whole models -/

/-- What is recorded of a collection: its own entry and what is recorded of each item, or nothing if
there is none. -/
def collectionEntries {α : Type} (entry : Dispatch) (items : List α) (below : α → List Dispatch) :
    List Dispatch :=
  if items.isEmpty then [] else entry :: items.flatMap below

/-- What is recorded of the root itself. -/
def Model.ownEntries (m : Model) : List Dispatch :=
  [⟨.model, some m.name⟩, ⟨.namedItem, some m.name⟩, ⟨.metadataItem, none⟩,
    ⟨.dataModelItem, none⟩] ++ m.annotations.dispatches

/-- The fresh log of the model is that of the root, then those of the namespaces and then those of
the containers. -/
def Model.LogsInParts (m : Model) (config : TraversalConfig) : Prop :=
  ((LogStart.traverse m).fresh config).entries.toList =
    m.ownEntries ++
      collectionEntries ⟨.namespaces, some m.name⟩ m.namespaces
        (fun ns => ((LogStart.visit (.ns ns)).fresh config).entries.toList) ++
      collectionEntries ⟨.entityContainers, some m.name⟩ m.containers
        (fun container =>
          ((LogStart.visit (.entityContainer container)).fresh config).entries.toList)

section Whole

variable {config : TraversalConfig}

theorem LogStart.entries_fresh_visit {c : Call} (h : c.Sound) :
    ((LogStart.visit c).fresh config).entries.toList = c.entries config.functionsEnabled := by
  rw [fresh, perform, DispatchLog.visit_of_sound h]
  simp

theorem Step.flatMap_entries_unlessEmpty {α : Type} {on : Bool} {items : List α} {t : Call}
    {f : α → Call} (hsteps : t.steps = items.map fun item => call (f item)) :
    (unlessEmpty items (call t)).flatMap (Step.entries on) =
      collectionEntries t.entry items fun item => (f item).entries on := by
  rw [unlessEmpty, collectionEntries]
  split
  · rfl
  · rw [List.flatMap_singleton, entries_call, Call.entries_eq, hsteps, List.flatMap_map]
    rfl

theorem Model.entries_eq (m : Model) (on : Bool) :
    (Call.model m).entries on =
      m.ownEntries ++
        collectionEntries ⟨.namespaces, some m.name⟩ m.namespaces
          (fun ns => (Call.ns ns).entries on) ++
        collectionEntries ⟨.entityContainers, some m.name⟩ m.containers
          (fun container => (Call.entityContainer container).entries on) := by
  have hnamed : (Step.named (namedItem m)).flatMap (Step.entries on) =
      [⟨.namedItem, some m.name⟩, ⟨.metadataItem, none⟩, ⟨.dataModelItem, none⟩] ++
        m.annotations.dispatches := by
    have h : Step.Enters { functions := on } (Step.named (namedItem m)) _ :=
      Step.enters_named (fun _ => rfl) (namedItem m)
    have hrecorded := h.recorded
    rw [List.map_flatMap] at hrecorded
    exact hrecorded
  rw [Call.entries_eq, Call.steps, List.flatMap_append, List.flatMap_append, hnamed,
    Step.flatMap_entries_unlessEmpty (t := .namespaces m m.namespaces) rfl,
    Step.flatMap_entries_unlessEmpty (t := .entityContainers m m.containers) rfl]
  rfl

theorem collectionEntries_congr {α : Type} {entry : Dispatch} {items : List α}
    {below below' : α → List Dispatch} (h : ∀ item ∈ items, below item = below' item) :
    collectionEntries entry items below = collectionEntries entry items below' := by
  rw [collectionEntries, collectionEntries, List.flatMap_congr h]

theorem Model.logsInParts_of_sound {m : Model} (h : (Call.model m).Sound) :
    m.LogsInParts config := by
  have hnil : m.brokenReferences = [] := by
    have hwhole : (Call.model m).brokenReferences { functions := true } = m.brokenReferences :=
      Call.brokenReferences_model (fun _ => rfl) m
    exact hwhole.symm.trans h
  obtain ⟨hnamespaces, hcontainers⟩ := List.append_eq_nil_iff.mp hnil
  have hns : ∀ ns ∈ m.namespaces, ((LogStart.visit (.ns ns)).fresh config).entries.toList =
      (Call.ns ns).entries config.functionsEnabled := by
    intro ns hmem
    have hsound : (Call.ns ns).Sound := (Call.brokenReferences_ns (fun _ => rfl) ns).trans
      (List.flatMap_eq_nil_iff.mp hnamespaces ns hmem)
    exact LogStart.entries_fresh_visit hsound
  have hco : ∀ container ∈ m.containers,
      ((LogStart.visit (.entityContainer container)).fresh config).entries.toList =
        (Call.entityContainer container).entries config.functionsEnabled := by
    intro container hmem
    have hsound : (Call.entityContainer container).Sound :=
      (Call.brokenReferences_entityContainer (fun _ => rfl) container).trans
        (List.flatMap_eq_nil_iff.mp hcontainers container hmem)
    exact LogStart.entries_fresh_visit hsound
  have hroot : ((LogStart.traverse m).fresh config).entries.toList =
      (Call.model m).entries config.functionsEnabled := by
    rw [LogStart.fresh, LogStart.perform, DispatchLog.traverse_of_sound h]
    simp
  rw [LogsInParts, hroot, Model.entries_eq, collectionEntries_congr hns,
    collectionEntries_congr hco]

end Whole

/-- Whatever a log holds, a run on it ends as on a fresh log, and adds what a fresh log records. So
after any commands the log is the fresh logs of all that was run since it was last cleared, one
after the other, and the fresh log of a built model is that of the root followed by those of its
parts. -/
theorem DispatchLog.joins_fresh_logs :
    (∀ (start : LogStart) (log : DispatchLog), (start.perform log).1 = start.result log.config ∧
      log.Continues (start.fresh log.config) (start.perform log).2) ∧
    (∀ (config : TraversalConfig) (commands : List LogCommand),
      (obeyAll commands { config }).Joins config
        ((LogCommand.sinceClear commands).map (LogStart.fresh config))) ∧
    ∀ {name : String} {declarations : List Declaration} {m : Model},
      Model.build name declarations = .ok m → ∀ config, m.LogsInParts config := by
  refine ⟨LogStart.perform_continues, joins_obeyAll, ?_⟩
  intro name declarations m h config
  exact Model.logsInParts_of_sound (Model.sound_of_build h)

theorem DispatchLog.joins_fresh_logs_shop :
    let m := Model.assemble "Shop" (Model.shop "Customers")
    Model.build "Shop" (Model.shop "Customers") = .ok m ∧
      ((LogStart.traverse m).fresh {}).entries.toList =
        [⟨.model, some "Shop"⟩, ⟨.namedItem, some "Shop"⟩, ⟨.metadataItem, none⟩,
          ⟨.dataModelItem, none⟩] ++
        ⟨.namespaces, some "Shop"⟩ ::
          ((LogStart.visit (.ns Model.sales)).fresh {}).entries.toList ++
        ⟨.entityContainers, some "Shop"⟩ :: m.containers.flatMap fun container =>
          ((LogStart.visit (.entityContainer container)).fresh {}).entries.toList := by
  intro m
  have hbuild : Model.build "Shop" (Model.shop "Customers") = .ok m := rfl
  have hparts : m.LogsInParts {} := joins_fresh_logs.2.2 hbuild {}
  have hsales : m.namespaces.flatMap
      (fun ns => ((LogStart.visit (.ns ns)).fresh {}).entries.toList) =
        ((LogStart.visit (.ns Model.sales)).fresh {}).entries.toList := List.flatMap_singleton ..
  rw [← hsales]
  exact ⟨hbuild, hparts⟩

end EntityModel
