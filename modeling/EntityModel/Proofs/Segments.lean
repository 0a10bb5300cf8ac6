import EntityModel.Proofs.Entrances
import EntityModel.Proofs.LogRun

/-!
# EntityModel.Proofs.Segments

What a log records of each visit, read off the log alone.

* `segments`: the stretches of a log that begin at a point: an entry at the point, and the entries
  of smaller rank that follow it.
* `pass`: the segments at one point within the segments at another.
* `Call.dispatched`: the calls one step below a call. `Call.openedAt`: the calls at a point that are
  opened below it.
* `Call.segments_entries`: the segments at a point are what is recorded of the calls opened there.
* `Point.reaches`: whether a descent may come from one point to another without passing a gate. If
  it may not, each segment at the other point lies in one at the gate: `Call.segments_eq_flatMap`.
* `Point.isNext`: a descent comes to a point in one step or not at all. Then what is opened there is
  found among the calls one step below: `Call.openedAt_eq_dispatchedAt`.
-/

namespace EntityModel

/-! ## Segments -/

/-- Each entry at the point, with the entries after it that rank below the point. -/
def segments (asked : Point) : List Dispatch → List (List Dispatch)
  | [] => []
  | entry :: rest =>
    if entry.point = asked then
      (entry :: rest.takeWhile fun later => later.point.rank < asked.rank) :: segments asked rest
    else segments asked rest

/-- The segments of the items, in each segment of the collection. -/
def pass (collection item : Point) (entries : List Dispatch) : List (List Dispatch) :=
  (segments collection entries).flatMap (segments item)

theorem segments_append_of_ne {asked : Point} {first : List Dispatch}
    (h : ∀ entry ∈ first, entry.point ≠ asked) (rest : List Dispatch) :
    segments asked (first ++ rest) = segments asked rest := by
  induction first with
  | nil => rfl
  | cons entry more ih =>
    obtain ⟨hentry, hmore⟩ := List.forall_mem_cons.mp h
    rw [List.cons_append, segments, if_neg hentry, ih hmore]

/-- The entries are none, or begin with one that does not rank below `n`. -/
def StartsAbove (n : Nat) (entries : List Dispatch) : Prop :=
  ∀ entry ∈ entries.head?, n ≤ entry.point.rank

theorem takeWhile_append_eq {n : Nat} {first rest : List Dispatch}
    (hfirst : ∀ entry ∈ first, entry.point.rank < n) (hrest : StartsAbove n rest) :
    (first ++ rest).takeWhile (fun entry => entry.point.rank < n) = first := by
  have hstop : rest.takeWhile (fun entry => entry.point.rank < n) = [] := by
    cases rest with
    | nil => rfl
    | cons entry more =>
      have hentry : n ≤ entry.point.rank := hrest entry rfl
      exact List.takeWhile_cons_of_neg (by simpa using hentry)
  have hinside : ∀ entry ∈ first, decide (entry.point.rank < n) = true :=
    fun entry h => decide_eq_true (hfirst entry h)
  rw [List.takeWhile_append_of_pos hinside, hstop, List.append_nil]

/-! ## One step below -/

/-- What the step dispatches. -/
def Step.dispatched? (on : Bool) : Step → Option Call
  | .enter _ _ => none
  | .call target => some target
  | .functions target => if on then some target else none
  | .broken _ => none

def Call.dispatched (on : Bool) (c : Call) : List Call :=
  c.steps.filterMap (Step.dispatched? on)

section Below

variable {on : Bool}

theorem Step.target?_of_dispatched? {step : Step} {target : Call}
    (h : step.dispatched? on = some target) : step.target? = some target := by
  cases step with
  | enter | broken => cases h
  | call _ => exact h
  | functions _ =>
    rw [dispatched?] at h
    split at h
    · exact h
    · cases h

theorem Step.opened_eq (step : Step) :
    step.opened { functions := on } =
      (step.dispatched? on).toList.flatMap (Call.opened { functions := on }) := by
  cases step with
  | enter | broken => rfl
  | call target => exact (List.append_nil _).symm
  | functions target =>
    cases on with
    | true => exact (List.append_nil _).symm
    | false => rfl

theorem Call.opened_eq_dispatched (c : Call) :
    c.opened { functions := on } =
      c :: (c.dispatched on).flatMap (opened { functions := on }) := by
  rw [opened_eq fun _ => rfl, dispatched, List.filterMap_eq_flatMap_toList, List.flatMap_assoc]
  exact congrArg (c :: ·) (List.flatMap_congr fun step _ => step.opened_eq)

theorem Call.entries_eq_dispatched (c : Call) :
    c.entries on = c.entry :: (c.dispatched on).flatMap (entries on) := by
  rw [entries, opened_eq_dispatched, List.map_cons, List.map_flatMap]
  rfl

def Call.dispatchedAt (on : Bool) (asked : Point) (c : Call) : List Call :=
  (c.dispatched on).filter fun d => d.point = asked

theorem Call.exists_step_of_mem_dispatched {c d : Call} (h : d ∈ c.dispatched on) :
    ∃ step ∈ c.steps, step.target? = some d := by
  obtain ⟨step, hs, hd⟩ := List.mem_filterMap.mp h
  exact ⟨step, hs, Step.target?_of_dispatched? hd⟩

theorem Call.rank_lt_of_mem_dispatched {c d : Call} (h : d ∈ c.dispatched on) :
    d.rank < c.rank := by
  obtain ⟨step, hs, ht⟩ := exists_step_of_mem_dispatched h
  exact rank_lt_of_mem_steps hs ht

/-- The tiers of a node come first. What follows lies onward, and its ranks do not fall. -/
theorem Call.exists_dispatched_eq (on : Bool) {c : Call} (hc : c.point.isTier = false) :
    ∃ tiers later, c.dispatched on = tiers ++ later ∧ (∀ d ∈ tiers, d.point.isTier = true) ∧
      (∀ d ∈ later, d.point ∈ c.point.onward) ∧
      later.Pairwise fun first second => first.rank ≤ second.rank := by
  obtain ⟨rest, hsteps, honward, hascending⟩ := c.exists_onward_steps hc
  refine ⟨c.entrance.filterMap (Step.dispatched? on), rest.filterMap (Step.dispatched? on), ?_, ?_,
    ?_, ?_⟩
  · rw [dispatched, hsteps, List.filterMap_append]
  · intro d hd
    obtain ⟨step, hs, hd⟩ := List.mem_filterMap.mp hd
    exact isTier_of_mem_entrance hs (Step.target?_of_dispatched? hd)
  · intro d hd
    obtain ⟨step, hs, hd⟩ := List.mem_filterMap.mp hd
    exact (honward step hs).mem (Step.target?_of_dispatched? hd)
  · refine hascending.filterMap _ fun first second hle target ht target' ht' => ?_
    exact hle target target' (Step.target?_of_dispatched? ht) (Step.target?_of_dispatched? ht')

theorem Call.isTier_or_mem_onward {c d : Call} (h : d ∈ c.dispatched on) :
    d.point.isTier = true ∨ d.point ∈ c.point.onward := by
  cases hc : c.point.isTier with
  | true =>
    obtain ⟨step, hs, ht⟩ := exists_step_of_mem_dispatched h
    exact .inl (isTier_of_mem_steps hc hs ht)
  | false =>
    obtain ⟨tiers, later, heq, htiers, hlater, -⟩ := c.exists_dispatched_eq on hc
    rw [heq] at h
    exact (List.mem_append.mp h).imp (htiers d) (hlater d)

/-- Ranks fall along the descent. -/
theorem Call.rank_le_of_mem_opened {c d : Call} (h : d ∈ c.opened { functions := on }) :
    d.rank ≤ c.rank :=
  forall_mem_opened (fun _ => rfl) (fun _ hc _ hs _ ht =>
    Nat.le_trans (Nat.le_of_lt (rank_lt_of_mem_steps hs ht)) hc) (Nat.le_refl c.rank) d h

theorem Call.rank_lt_of_mem_below {c d : Call}
    (h : d ∈ (c.dispatched on).flatMap (opened { functions := on })) : d.rank < c.rank := by
  obtain ⟨child, hchild, hd⟩ := List.mem_flatMap.mp h
  exact Nat.lt_of_le_of_lt (rank_le_of_mem_opened hd) (rank_lt_of_mem_dispatched hchild)

end Below

/-! ## Calls at a point -/

def Call.openedAt (on : Bool) (asked : Point) (c : Call) : List Call :=
  (c.opened { functions := on }).filter fun d => d.point = asked

section OpenedAt

variable {on : Bool} {asked : Point}

theorem Call.openedAt_of_ne {c : Call} (h : c.point ≠ asked) :
    c.openedAt on asked = (c.dispatched on).flatMap (openedAt on asked) := by
  rw [openedAt, opened_eq_dispatched, List.filter_cons_of_neg (by simpa using h),
    List.filter_flatMap]
  rfl

/-- Nothing below a call lies at its own point. -/
theorem Call.flatMap_openedAt_of_eq {c : Call} (h : c.point = asked) :
    (c.dispatched on).flatMap (openedAt on asked) = [] := by
  have hflat : (c.dispatched on).flatMap (openedAt on asked) =
      ((c.dispatched on).flatMap (opened { functions := on })).filter fun d => d.point = asked :=
    List.filter_flatMap.symm
  rw [hflat, List.filter_eq_nil_iff]
  intro d hd heq
  have hrank := rank_lt_of_mem_below hd
  rw [rank, rank, h, of_decide_eq_true heq] at hrank
  exact Nat.lt_irrefl _ hrank

theorem Call.openedAt_of_eq {c : Call} (h : c.point = asked) : c.openedAt on asked = [c] := by
  rw [openedAt, opened_eq_dispatched, List.filter_cons_of_pos (by simpa using h),
    List.filter_flatMap]
  exact congrArg (c :: ·) (flatMap_openedAt_of_eq h)

variable (ha : asked.isTier = false)
include ha

theorem Call.openedAt_of_isTier {c : Call} (h : c.point.isTier = true) :
    c.openedAt on asked = [] := by
  rw [openedAt, List.filter_eq_nil_iff]
  intro d hd heq
  have htier := isTier_of_mem_opened (fun _ => rfl) h d hd
  rw [of_decide_eq_true heq, ha] at htier
  cases htier

theorem Call.ne_of_mem_entries {c : Call} (h : c.point.isTier = true) :
    ∀ entry ∈ c.entries on, entry.point ≠ asked := by
  intro entry he
  obtain ⟨d, hd, rfl⟩ := List.mem_map.mp he
  have htier := isTier_of_mem_opened (fun _ => rfl) h d hd
  rintro rfl
  cases htier.symm.trans ha

/-! ## The segments of what is recorded -/

omit ha in
theorem startsAbove_flatMap {n : Nat} {calls : List Call} (h : ∀ c ∈ calls, n ≤ c.rank)
    {rest : List Dispatch} (hrest : StartsAbove n rest) :
    StartsAbove n (calls.flatMap (Call.entries on) ++ rest) := by
  cases calls with
  | nil => exact hrest
  | cons c more =>
    rw [List.flatMap_cons, Call.entries_eq_dispatched]
    intro entry he
    cases he
    exact h c List.mem_cons_self

omit ha in
/-- What is recorded of calls whose ranks do not fall, one after the other. -/
theorem segments_flatMap_entries {n : Nat} {calls : List Call}
    (hascending : calls.Pairwise fun first second => first.rank ≤ second.rank)
    (hn : ∀ c ∈ calls, c.rank ≤ n)
    (ih : ∀ c ∈ calls, ∀ rest, StartsAbove c.rank rest → segments asked (c.entries on ++ rest) =
      (c.openedAt on asked).map (Call.entries on) ++ segments asked rest)
    {rest : List Dispatch} (hrest : StartsAbove n rest) :
    segments asked (calls.flatMap (Call.entries on) ++ rest) =
      (calls.flatMap (Call.openedAt on asked)).map (Call.entries on) ++ segments asked rest := by
  induction calls with
  | nil => rfl
  | cons c more ihcalls =>
    obtain ⟨hfirst, hascending⟩ := List.pairwise_cons.mp hascending
    obtain ⟨hc, hn⟩ := List.forall_mem_cons.mp hn
    obtain ⟨ihc, ih⟩ := List.forall_mem_cons.mp ih
    -- After the first call stands what is recorded of a later one, or else the rest.
    have hnext : StartsAbove c.rank (more.flatMap (Call.entries on) ++ rest) :=
      startsAbove_flatMap hfirst fun entry he => Nat.le_trans hc (hrest entry he)
    rw [List.flatMap_cons, List.flatMap_cons, List.map_append, List.append_assoc, List.append_assoc,
      ihc _ hnext, ihcalls hascending hn ih]

/-- In front of anything that does not rank below the call, the segments at a point are what is
recorded of the calls that are opened there. -/
theorem Call.segments_entries_append {c : Call} (hc : c.point.isTier = false)
    {rest : List Dispatch} (hrest : StartsAbove c.rank rest) :
    segments asked (c.entries on ++ rest) =
      (c.openedAt on asked).map (entries on) ++ segments asked rest := by
  induction c using Call.stepInduction generalizing rest with
  | h c ih =>
    obtain ⟨tiers, later, heq, htiers, hlater, hascending⟩ := c.exists_dispatched_eq on hc
    have hmem : ∀ d ∈ later, d ∈ c.dispatched on := by
      intro d hd
      rw [heq]
      exact List.mem_append_right _ hd
    have hbelow : segments asked ((c.dispatched on).flatMap (entries on) ++ rest) =
        ((c.dispatched on).flatMap (openedAt on asked)).map (entries on) ++
          segments asked rest := by
      have hskipped : ∀ entry ∈ tiers.flatMap (entries on), entry.point ≠ asked := by
        intro entry he
        obtain ⟨tier, ht, he⟩ := List.mem_flatMap.mp he
        exact ne_of_mem_entries ha (htiers tier ht) entry he
      have hnone : tiers.flatMap (openedAt on asked) = [] :=
        List.flatMap_eq_nil_iff.mpr fun tier ht => openedAt_of_isTier ha (htiers tier ht)
      rw [heq, List.flatMap_append, List.flatMap_append, hnone, List.nil_append, List.append_assoc,
        segments_append_of_ne hskipped]
      refine segments_flatMap_entries hascending ?_ ?_ hrest
      · exact fun d hd => Nat.le_of_lt (rank_lt_of_mem_dispatched (hmem d hd))
      · intro d hd _
        obtain ⟨step, hs, ht⟩ := exists_step_of_mem_dispatched (hmem d hd)
        exact ih step hs d ht (Point.isTier_of_mem_onward (hlater d hd))
    rw [entries_eq_dispatched, List.cons_append, segments]
    by_cases hpoint : c.point = asked
    · subst hpoint
      have hranks : ∀ entry ∈ (c.dispatched on).flatMap (entries on),
          entry.point.rank < c.point.rank := by
        intro entry he
        obtain ⟨child, hchild, he⟩ := List.mem_flatMap.mp he
        obtain ⟨d, hd, rfl⟩ := List.mem_map.mp he
        exact rank_lt_of_mem_below (List.mem_flatMap.mpr ⟨child, hchild, hd⟩)
      rw [if_pos (show c.entry.point = c.point from rfl), takeWhile_append_eq hranks hrest, hbelow,
        flatMap_openedAt_of_eq rfl, openedAt_of_eq rfl, ← entries_eq_dispatched]
      rfl
    · rw [if_neg (show c.entry.point ≠ asked from hpoint), hbelow, openedAt_of_ne hpoint]

theorem Call.segments_entries {c : Call} (hc : c.point.isTier = false) :
    segments asked (c.entries on) = (c.openedAt on asked).map (entries on) := by
  have h : segments asked (c.entries on ++ []) = _ :=
    segments_entries_append ha hc fun _ he => absurd he (by simp)
  rwa [List.append_nil, segments, List.append_nil] at h

end OpenedAt

/-! ## Ways from point to point -/

/-- Whether a descent may come from the point to `asked` without going on from the gate. What is
more steps away than the number counts as reached. -/
def Point.reaches (gate asked : Point) : Nat → Point → Bool
  | 0, _ => true
  | n + 1, point =>
    point = asked || (point ≠ gate && point.onward.any (reaches gate asked n))

/-- The descent comes to `asked` in one step from the point or not at all. -/
def Point.isNext (asked point : Point) : Bool :=
  point ≠ asked &&
    point.onward.all fun next => next = asked || !reaches asked asked (point.rank + 1) next

section Ways

variable {on : Bool} {gate asked : Point} {n : Nat}

theorem Point.reaches_eq_false_iff {point : Point} :
    reaches gate asked (n + 1) point = false ↔
      point ≠ asked ∧
        (point ≠ gate → ∀ next ∈ point.onward, reaches gate asked n next = false) := by
  simp [reaches]

theorem Point.isNext_iff {point : Point} :
    isNext asked point = true ↔ point ≠ asked ∧ ∀ next ∈ point.onward,
      next = asked ∨ reaches asked asked (point.rank + 1) next = false := by
  simp [isNext]

variable (ha : asked.isTier = false)
include ha

/-- What cannot be reached is not opened. -/
theorem Call.openedAt_eq_nil {c : Call} (h : Point.reaches asked asked n c.point = false) :
    c.openedAt on asked = [] := by
  induction c using Call.stepInduction generalizing n with
  | h c ih =>
    cases n with
    | zero => cases h
    | succ n =>
      obtain ⟨hne, hnext⟩ := Point.reaches_eq_false_iff.mp h
      rw [openedAt_of_ne hne, List.flatMap_eq_nil_iff]
      intro d hd
      rcases isTier_or_mem_onward hd with htier | honward
      · exact openedAt_of_isTier ha htier
      · obtain ⟨step, hs, ht⟩ := exists_step_of_mem_dispatched hd
        exact ih step hs d ht (hnext hne _ honward)

/-- If a point is reached through the gate only, all that is opened there lies below the gate. -/
theorem Call.openedAt_eq_flatMap (hg : gate.isTier = false) {c : Call}
    (h : Point.reaches gate asked n c.point = false) :
    c.openedAt on asked = (c.openedAt on gate).flatMap (openedAt on asked) := by
  induction c using Call.stepInduction generalizing n with
  | h c ih =>
    by_cases hgate : c.point = gate
    · rw [openedAt_of_eq hgate, List.flatMap_singleton]
    · cases n with
      | zero => cases h
      | succ n =>
        obtain ⟨hne, hnext⟩ := Point.reaches_eq_false_iff.mp h
        rw [openedAt_of_ne hne, openedAt_of_ne hgate, List.flatMap_assoc]
        apply List.flatMap_congr
        intro d hd
        rcases isTier_or_mem_onward hd with htier | honward
        · rw [openedAt_of_isTier ha htier, openedAt_of_isTier hg htier]
          rfl
        · obtain ⟨step, hs, ht⟩ := exists_step_of_mem_dispatched hd
          exact ih step hs d ht (hnext hgate _ honward)

/-- If a point is reached through the gate only, each of its segments lies in one of the gate. -/
theorem Call.segments_eq_flatMap (hg : gate.isTier = false) {c : Call}
    (hc : c.point.isTier = false) (h : Point.reaches gate asked n c.point = false) :
    segments asked (c.entries on) = (segments gate (c.entries on)).flatMap (segments asked) := by
  have hbelow : ∀ d ∈ c.openedAt on gate,
      segments asked (d.entries on) = (d.openedAt on asked).map (entries on) := by
    intro d hd
    have hpoint : d.point = gate := of_decide_eq_true (List.mem_filter.mp hd).2
    exact segments_entries ha (by rw [hpoint, hg])
  rw [segments_entries ha hc, segments_entries hg hc, openedAt_eq_flatMap ha hg h,
    List.map_flatMap, List.flatMap_map, List.flatMap_congr hbelow]

theorem Call.pass_eq_flatMap (hg : gate.isTier = false) {c : Call} (hc : c.point.isTier = false)
    (item : Point) (h : Point.reaches gate asked n c.point = false) :
    pass asked item (c.entries on) = (segments gate (c.entries on)).flatMap (pass asked item) := by
  rw [pass, segments_eq_flatMap ha hg hc h, List.flatMap_assoc]
  rfl

theorem Call.openedAt_eq_dispatchedAt {c : Call} (h : Point.isNext asked c.point = true) :
    c.openedAt on asked = c.dispatchedAt on asked := by
  obtain ⟨hne, hnext⟩ := Point.isNext_iff.mp h
  have hchild : ∀ d ∈ c.dispatched on,
      d.openedAt on asked = [d].filter fun d => d.point = asked := by
    intro d hd
    by_cases hpoint : d.point = asked
    · rw [openedAt_of_eq hpoint, List.filter_cons_of_pos (by simpa using hpoint), List.filter_nil]
    · rw [List.filter_cons_of_neg (by simpa using hpoint), List.filter_nil]
      rcases isTier_or_mem_onward hd with htier | honward
      · exact openedAt_of_isTier ha htier
      · exact openedAt_eq_nil ha ((hnext _ honward).resolve_left hpoint)
  rw [openedAt_of_ne hne, List.flatMap_congr hchild, ← List.filter_flatMap]
  exact congrArg _ (List.flatMap_singleton' _)

end Ways

end EntityModel
