import EntityModel.Proofs.Collections
import EntityModel.Proofs.Segments

/-!
# EntityModel.Proofs.FunctionPoints

When a log holds anything of functions.

* `Point.isFunctional`: the points of function groups, function imports and what they hold.
* `Call.exists_gate`: a descent comes to a functional point only through the collection of the
  function groups or that of the function imports.
* `Model.exists_functional_iff`: below a model the log has entries at functional points if functions
  are taken and the model declares any.
-/

namespace EntityModel

def Point.isFunctional : Point → Bool
  | .functionGroups | .functionGroup | .functionOverloads | .functionOverload
  | .functionOverloadParameters | .functionImports | .functionImport | .functionImportParameters
  | .functionParameter => true
  | _ => false

/-- The two collections that a descent takes only if functions are enabled. -/
def Point.isGate (point : Point) : Bool :=
  point = .functionGroups || point = .functionImports

def Model.DeclaresFunctions (m : Model) : Prop :=
  (∃ ns ∈ m.namespaces, ns.functionGroups ≠ []) ∨
    ∃ container ∈ m.containers, container.functionImports ≠ []

instance (m : Model) : Decidable m.DeclaresFunctions :=
  inferInstanceAs (Decidable (_ ∨ _))

theorem Point.isFunctional_of_isGate {point : Point} (h : point.isGate = true) :
    point.isFunctional = true := by
  revert h
  cases point <;> decide

theorem Point.isFunctional_of_isTier {point : Point} (h : point.isTier = true) :
    point.isFunctional = false := by
  revert h
  cases point <;> decide

/-- From a point that is not functional a descent comes to a functional one by a gate. -/
theorem Point.isGate_of_mem_onward {point next : Point} (hpoint : point.isFunctional = false)
    (hnext : next ∈ point.onward) (h : next.isFunctional = true) : next.isGate = true := by
  have hall : ∀ next ∈ point.onward, next.isFunctional = true → next.isGate = true := by
    revert hpoint
    cases point <;> decide
  exact hall next hnext h

theorem Call.exists_gate {on : Bool} {c d : Call} (hc : c.point.isFunctional = false)
    (hd : d ∈ c.opened { functions := on }) (h : d.point.isFunctional = true) :
    ∃ gate ∈ c.opened { functions := on }, gate.point.isGate = true := by
  induction c using Call.stepInduction with
  | h c ih =>
    rw [opened_eq_dispatched] at hd ⊢
    obtain rfl | hd := List.mem_cons.mp hd
    · cases hc.symm.trans h
    · obtain ⟨child, hchild, hd⟩ := List.mem_flatMap.mp hd
      have hbelow : ∀ gate ∈ child.opened { functions := on }, gate ∈
          c :: (c.dispatched on).flatMap (opened { functions := on }) := fun gate hgate =>
        List.mem_cons_of_mem c (List.mem_flatMap.mpr ⟨child, hchild, hgate⟩)
      cases hfunctional : child.point.isFunctional with
      | false =>
        obtain ⟨step, hs, ht⟩ := exists_step_of_mem_dispatched hchild
        obtain ⟨gate, hgate, hpoint⟩ := ih step hs child ht hfunctional hd
        exact ⟨gate, hbelow gate hgate, hpoint⟩
      | true =>
        have honward : child.point ∈ c.point.onward := by
          refine (isTier_or_mem_onward hchild).resolve_left fun htier => ?_
          cases hfunctional.symm.trans (Point.isFunctional_of_isTier htier)
        refine ⟨child, hbelow child ?_, Point.isGate_of_mem_onward hc honward hfunctional⟩
        rw [opened_eq_dispatched]
        exact List.mem_cons_self

theorem exists_mem_iff_followedAt_ne_nil {asked : Point} {entries : List Dispatch} :
    (∃ entry ∈ entries, entry.point = asked) ↔ followedAt asked entries ≠ [] := by
  have hmap : (followedAt asked entries).map (·.1) ≠ [] ↔ followedAt asked entries ≠ [] :=
    not_congr List.map_eq_nil_iff
  rw [← hmap, map_fst_followedAt]
  simp [List.filter_eq_nil_iff]

theorem leading_map_eq_nil_iff {α : Type} {entry : Dispatch} {items : List α} {f : α → Dispatch} :
    leading entry (items.map f) = [] ↔ items = [] := by
  cases items <;> simp [leading]

theorem Model.exists_gate_iff {m : Model} (h : (Call.model m).Sound) (on : Bool) :
    (∃ entry ∈ (Call.model m).entries on, entry.point.isGate = true) ↔
      on = true ∧ m.DeclaresFunctions := by
  have hcollections : m.EntersCollections on (followedAt · ((Call.model m).entries on)) :=
    entersCollections_of_leadingAt fun asked ha => followedAt_entries h on ha
  have hgroups := exists_mem_iff_followedAt_ne_nil.trans
    (Eq.to_iff (congrArg (· ≠ []) hcollections.functionGroups))
  have himports := exists_mem_iff_followedAt_ne_nil.trans
    (Eq.to_iff (congrArg (· ≠ []) hcollections.functionImports))
  have hgate : (∃ entry ∈ (Call.model m).entries on, entry.point.isGate = true) ↔
      (∃ entry ∈ (Call.model m).entries on, entry.point = .functionGroups) ∨
        ∃ entry ∈ (Call.model m).entries on, entry.point = .functionImports := by
    simp only [Point.isGate, Bool.or_eq_true, decide_eq_true_eq, and_or_left, exists_or]
  rw [hgate, hgroups, himports]
  cases on with
  | false => simp
  | true => simp [DeclaresFunctions, List.flatMap_eq_nil_iff, leading_map_eq_nil_iff]

theorem Model.exists_functional_iff {m : Model} (h : (Call.model m).Sound) (on : Bool) :
    (∃ entry ∈ (Call.model m).entries on, entry.point.isFunctional = true) ↔
      on = true ∧ m.DeclaresFunctions := by
  rw [← exists_gate_iff h on]
  constructor
  · rintro ⟨entry, hentry, hfunctional⟩
    obtain ⟨d, hd, rfl⟩ := List.mem_map.mp hentry
    obtain ⟨gate, hgate, hpoint⟩ := Call.exists_gate rfl hd hfunctional
    exact ⟨gate.entry, List.mem_map_of_mem hgate, hpoint⟩
  · rintro ⟨entry, hentry, hgate⟩
    exact ⟨entry, hentry, Point.isFunctional_of_isGate hgate⟩

end EntityModel
