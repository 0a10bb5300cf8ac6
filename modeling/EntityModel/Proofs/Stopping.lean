import EntityModel.Proofs.LogRun

/-!
# EntityModel.Proofs.Stopping

A visitor that gives up ends the run there and then.

* `stopping`: the visitor that records and descends like the dispatch log, but gives up with an
  error of its own right after an entry at which it stops.
* `firstStop`, `stopped`: the place of the first such entry in a list, and how a run ends that is cut
  off just after it.
* `visit_stopping`: every dispatch, in whatever state it finds the log, ends like that of the
  dispatch log, cut off at the first stop.
* `Model.build_stops`: so does a traversal of a built model.
-/

namespace EntityModel

/-- The place of the first entry to stop at. An entry is judged together with the number of
dispatches before it, of which `n` came before the list. -/
def firstStop (stops : Nat → Dispatch → Bool) (n : Nat) (entries : List Dispatch) : Option Nat :=
  (entries.zipIdx n).findIdx? fun (entry, count) => stops count entry

section Stops

variable {ε : Type} (stops : Nat → Dispatch → Bool) (error : ε) (ofBroken : BrokenReference → ε)

def stopping : Visitor DispatchLog ε where
  dispatch c walk log :=
    if stops log.entries.size c.entry then (.error error, log.record c) else walk (log.record c)
  functions log := (log.config.functionsEnabled, log)
  ofBroken := ofBroken

/-- How a run that would append the entries and end with the result is cut off. -/
def stopped (log : DispatchLog) (entries : List Dispatch) (result : Except ε Unit) :
    Except ε Unit × DispatchLog :=
  match firstStop stops log.entries.size entries with
  | some n => (.error error, log.append (entries.take (n + 1)))
  | none => (result, log.append entries)

/-! ## One entry more -/

variable {stops error ofBroken}

theorem firstStop_cons (n : Nat) (entry : Dispatch) (entries : List Dispatch) :
    firstStop stops n (entry :: entries) =
      if stops n entry then some 0 else (firstStop stops (n + 1) entries).map (· + 1) := by
  rw [firstStop, List.zipIdx_cons, List.findIdx?_cons]
  rfl

theorem stopped_cons_of_stop {log : DispatchLog} {c : Call} {entries : List Dispatch}
    {result : Except ε Unit} (h : stops log.entries.size c.entry = true) :
    stopped stops error log (c.entry :: entries) result = (.error error, log.record c) := by
  have hcut : log.append [c.entry] = log.record c := by
    rw [DispatchLog.append_cons, DispatchLog.append_nil]
  rw [stopped, firstStop_cons, if_pos h]
  exact Prod.ext rfl hcut

theorem stopped_cons_of_pass {log : DispatchLog} {c : Call} {entries : List Dispatch}
    {result : Except ε Unit} (h : stops log.entries.size c.entry = false) :
    stopped stops error log (c.entry :: entries) result =
      stopped stops error (log.record c) entries result := by
  rw [stopped, firstStop_cons, h, if_neg Bool.false_ne_true, stopped,
    DispatchLog.size_entries_record]
  cases firstStop stops (log.entries.size + 1) entries with
  | none => exact Prod.ext rfl (log.append_cons c entries)
  | some n => exact Prod.ext rfl (log.append_cons c (entries.take (n + 1)))

/-! ## Runs -/

variable (stops error ofBroken)

/-- What the stopping visitor does at a dispatch before it descends. -/
def recordOrStop (c : Call) : Effect DispatchLog ε :=
  fun log =>
    if stops log.entries.size c.entry then (.error error, log.record c) else (.ok (), log.record c)

theorem stopping_follows (on : Bool) :
    (stopping stops error ofBroken).Follows { functions := on } (recordOrStop stops error)
      (fun _ => Effect.succeed) where
  dispatch c walk := by
    rw [Effect.andThen_succeed]
    funext log
    simp only [stopping, recordOrStop, Effect.andThen]
    cases stops log.entries.size c.entry <;> rfl
  before_keeps c log h := by
    have hon : log.config.functionsEnabled = on := congrArg Prod.fst h
    have hstate : (recordOrStop stops error c log).2 = log.record c := by
      unfold recordOrStop
      split <;> rfl
    rw [hstate, ← hon]
    rfl
  after_keeps c log h := h
  observe_keeps line log h := h

theorem visitEach_stopping (events : List Event) (log : DispatchLog) :
    visitEach (Event.perform (stopping stops error ofBroken) (recordOrStop stops error)
        fun _ => Effect.succeed) events log =
      stopped stops error log ((Event.dispatches events).map Call.entry)
        (Effect.verdict ((events.filterMap Event.broken?).map ofBroken).head?) := by
  induction events generalizing log with
  | nil => exact Prod.ext rfl log.append_nil.symm
  | cons event rest ih =>
    rw [visitEach_cons]
    cases event with
    | opened c =>
      rw [Event.dispatches, List.map_cons, List.filterMap_cons_none rfl]
      cases hstop : stops log.entries.size c.entry with
      | true =>
        have hfail : recordOrStop stops error c log = (.error error, log.record c) := by
          rw [recordOrStop, hstop, if_pos rfl]
        rw [stopped_cons_of_stop hstop]
        exact Effect.andThen_of_error hfail
      | false =>
        have hpass : recordOrStop stops error c log = (.ok (), log.record c) := by
          rw [recordOrStop, hstop, if_neg Bool.false_ne_true]
        rw [stopped_cons_of_pass hstop, ← ih]
        exact Effect.andThen_of_ok hpass
    | entered kind name? | closed c => exact ih log
    | broken reference => exact Prod.ext rfl log.append_nil.symm

/-- No level of a run replaces the error or goes on after it: a dispatch ends like that of the
dispatch log in the same state, cut off at the first stop. -/
theorem visit_stopping (c : Call) (log : DispatchLog) :
    ∃ entries result, visit DispatchLog.visitor c log = (result, log.append entries) ∧
      visit (stopping stops error ofBroken) c log =
        stopped stops error log entries (result.mapError ofBroken) := by
  have hfollows := stopping_follows stops error ofBroken log.config.functionsEnabled
  refine ⟨_, _, log.visit_eq c, ?_⟩
  rw [hfollows.visit_eq_visitEach_events c rfl, visitEach_stopping, ← Call.brokenReferences,
    ← Call.dispatches]
  cases c.brokenReferences { functions := log.config.functionsEnabled } <;> rfl

end Stops

/-- Through a built model the visitor fails with its own error if the log records an entry to stop
at, having recorded what the log records up to the first such entry; else it does what the log does.
In the same way every single dispatch is cut off at its first stop. -/
theorem Model.build_stops {name : String} {declarations : List Declaration} {m : Model}
    (h : build name declarations = .ok m) (config : TraversalConfig) {ε : Type}
    (stops : Nat → Dispatch → Bool) (error : ε) (ofBroken : BrokenReference → ε) :
    (∃ entries : List Dispatch,
      traverse DispatchLog.visitor m { config } = (.ok (), { config, entries := entries.toArray }) ∧
      traverse (stopping stops error ofBroken) m { config } =
        match firstStop stops 0 entries with
        | some n => (.error error, { config, entries := (entries.take (n + 1)).toArray })
        | none => (.ok (), { config, entries := entries.toArray })) ∧
    ∀ (c : Call) (log : DispatchLog),
      ∃ entries result, visit DispatchLog.visitor c log = (result, log.append entries) ∧
        visit (stopping stops error ofBroken) c log =
          stopped stops error log entries (result.mapError ofBroken) := by
  refine ⟨?_, visit_stopping stops error ofBroken⟩
  have hbroken : (Call.model m).brokenReferences { functions := config.functionsEnabled } = [] :=
    (sound_of_build h).brokenReferences_eq_nil _
  have happend (entries : List Dispatch) :
      DispatchLog.append { config } entries = { config, entries := entries.toArray } := by
    simp [DispatchLog.append]
  obtain ⟨entries, result, hlog, hstopping⟩ :=
    visit_stopping stops error ofBroken (.model m) { config }
  have hresult : result = .ok () := by
    have hvisit := DispatchLog.visit_eq { config } (.model m)
    rw [hlog, hbroken] at hvisit
    exact congrArg Prod.fst hvisit
  refine ⟨entries, ?_, ?_⟩
  · rw [traverse_eq_visit fun _ _ => rfl, hlog, hresult, happend]
  · rw [traverse_eq_visit fun _ _ => rfl, hstopping, hresult, stopped]
    simp only [happend]
    rfl

/-- In a shop the key property passes as the seventeenth entry; the run stops at the same property
where it is declared. -/
theorem Model.build_stops_shop :
    build "Shop" (shop "Customers") = .ok (assemble "Shop" (shop "Customers")) ∧
      ∃ entries : List Dispatch,
        traverse DispatchLog.visitor (assemble "Shop" (shop "Customers")) {} =
          (.ok (), { entries := entries.toArray }) ∧
        traverse (stopping (fun count entry => 20 < count && entry.point == .property) "enough"
            BrokenReference.message) (assemble "Shop" (shop "Customers")) {} =
          (.error "enough", { entries := (entries.take 25).toArray }) := by
  have hbuild : build "Shop" (shop "Customers") = .ok (assemble "Shop" (shop "Customers")) := rfl
  obtain ⟨⟨entries, hlog, hstopping⟩, -⟩ := build_stops hbuild {}
    (fun count entry => 20 < count && entry.point == .property) "enough" BrokenReference.message
  have hentries : entries = (traverse DispatchLog.visitor
      (assemble "Shop" (shop "Customers")) {}).2.entries.toList := by
    rw [hlog]
  have hfirst : firstStop (fun count entry => 20 < count && entry.point == .property) 0 entries =
      some 24 := by
    rw [hentries]
    decide +kernel
  rw [hfirst] at hstopping
  exact ⟨hbuild, entries, hlog, hstopping⟩

end EntityModel
