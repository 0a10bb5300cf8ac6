import EntityModel.Proofs.LogRun

/-!
# EntityModel.Proofs.Agreement

The checks on a model and the traversal of its graph agree on the references that both look up.

* `Model.checked_agrees_with_traverse`: on a consistent model the checks pass exactly if a logged
  traversal succeeds, and both report the same reference first if they do not.
-/

namespace EntityModel

namespace Model

/-- The first defect decides the checks. -/
theorem checked_of_consistent {m : Model} (h : m.Consistent) :
    m.checked = match m.brokenReferences.head? with
      | none => .ok m
      | some reference => .error (.danglingReference reference) := by
  unfold checked
  rw [defects_of_consistent h]
  cases m.brokenReferences <;> rfl

theorem checked_agrees_with_traverse {m : Model} (h : m.Consistent) (log : DispatchLog) :
    (m.checked = .ok m ↔ (traverse DispatchLog.visitor m log).1 = .ok ()) ∧
      ∀ reference, m.checked = .error (.danglingReference reference) ↔
        (traverse DispatchLog.visitor m log).1 = .error reference := by
  rw [checked_of_consistent h, DispatchLog.traverse_result]
  constructor
  · rw [Effect.verdict_eq_ok_iff]
    cases m.brokenReferences.head? <;> simp
  · intro reference
    rw [Effect.verdict_eq_error_iff]
    cases m.brokenReferences.head? <;> simp

/-- In a shop without clients both report the source of the association set. -/
theorem checked_agrees_with_traverse_shop :
    (assemble "Shop" (shop "Clients")).Consistent ∧
      (assemble "Shop" (shop "Clients")).checked =
        .error (.danglingReference ⟨.associationSet, "OrdersPlaced", .sourceSet, "Clients"⟩) ∧
      (traverse DispatchLog.visitor (assemble "Shop" (shop "Clients")) {}).1 =
        .error ⟨.associationSet, "OrdersPlaced", .sourceSet, "Clients"⟩ := by
  have hconsistent : (assemble "Shop" (shop "Clients")).Consistent := by decide
  have hchecked : (assemble "Shop" (shop "Clients")).checked =
      .error (.danglingReference ⟨.associationSet, "OrdersPlaced", .sourceSet, "Clients"⟩) := rfl
  exact ⟨hconsistent, hchecked,
    ((checked_agrees_with_traverse hconsistent {}).2 _).mp hchecked⟩

end Model

end EntityModel
