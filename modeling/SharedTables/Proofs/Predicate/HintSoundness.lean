import SharedTables.Proofs.Predicate.Truth

/-! Whether a hint lets through every row that its predicate wants. Leaving
out operands of connectives never hides a row. An operand that loses a part
below a comparison, a null test or a membership may, because these are neither
monotone nor antitone in it. -/
namespace SharedTables.Predicate

-- Type names are looked up in tables that no proof here should unfold.
attribute [local irreducible] WireTag.ofEngine?

/-- The part of a tree that pruning leaves, if any, can be sent, and is TRUE
wherever the tree may be; under a negation, FALSE wherever the tree may be. -/
def PartKeepsRows (negated : Bool) (t : Predicate) : Prop :=
  ∀ (α : Type) (row : Row α), row.Takes t (some (.truth !negated)) →
    ∀ p, prune negated t = some p →
      ∃ form, p.wireForm? = some form ∧ form.value row = some (.truth !negated)

/-- A tree in which each condition below the connectives is replaced by what
pruning makes of that condition alone, or, if it makes nothing of it, by one
that may have any value. No operand of a connective is left out. -/
def cutOperands (negated : Bool) : Predicate → Predicate
  | .join op left right => .join op (cutOperands negated left) (cutOperands negated right)
  | .not child => .not (cutOperands (!negated) child)
  | condition => (prune negated condition).getD (.unsupported "")

/-- Every condition below the connectives is pruned as a whole or not at all. -/
def KeepsOperands (negated : Bool) : Predicate → Prop
  | .join _ left right => KeepsOperands negated left ∧ KeepsOperands negated right
  | .not child => KeepsOperands (!negated) child
  | condition => ∀ p, prune negated condition = some p → p = condition

theorem droppable_iff {op : Connective} : Droppable op negated = true ↔ op.neutral = !negated := by
  cases op <;> cases negated <;> decide

section Nodes

attribute [local simp] Row.Takes

theorem takes_join_neutral_iff {row : Row α} {op : Connective} {left right : Predicate} :
    row.Takes (.join op left right) (some (.truth op.neutral)) ↔
      row.Takes left (some (.truth op.neutral)) ∧ row.Takes right (some (.truth op.neutral)) := by
  simp only [Row.Takes, Row.apply_join_pair]
  constructor
  · rintro ⟨a, b, takesLeft, takesRight, same⟩
    obtain ⟨leftValue, rightValue⟩ :=
      Connective.combine_eq_neutral_iff.mp (Cell.ofTruth_eq_truth_iff.mp same.symm)
    rw [Cell.toTruth_eq_some_iff] at leftValue rightValue
    exact ⟨leftValue ▸ takesLeft, rightValue ▸ takesRight⟩
  · rintro ⟨takesLeft, takesRight⟩
    exact ⟨_, _, takesLeft, takesRight, (Cell.ofTruth_eq_truth_iff.mpr
      (Connective.combine_eq_neutral_iff.mpr ⟨rfl, rfl⟩)).symm⟩

theorem takes_join_dominant_iff {row : Row α} {op : Connective} {left right : Predicate} :
    row.Takes (.join op left right) (some (.truth !op.neutral)) ↔
      row.Takes left (some (.truth !op.neutral)) ∨ row.Takes right (some (.truth !op.neutral)) := by
  simp only [Row.Takes, Row.apply_join_pair]
  constructor
  · rintro ⟨a, b, takesLeft, takesRight, same⟩
    rcases Connective.combine_eq_dominant_iff.mp (Cell.ofTruth_eq_truth_iff.mp same.symm) with value | value
    · exact Or.inl (Cell.toTruth_eq_some_iff.mp value ▸ takesLeft)
    · exact Or.inr (Cell.toTruth_eq_some_iff.mp value ▸ takesRight)
  · rintro (takesLeft | takesRight)
    · obtain ⟨b, takesRight⟩ := takes_some_value row right
      exact ⟨_, b, takesLeft, takesRight, (Cell.ofTruth_eq_truth_iff.mpr
        (Connective.combine_eq_dominant_iff.mpr (Or.inl rfl))).symm⟩
    · obtain ⟨a, takesLeft⟩ := takes_some_value row left
      exact ⟨a, _, takesLeft, takesRight, (Cell.ofTruth_eq_truth_iff.mpr
        (Connective.combine_eq_dominant_iff.mpr (Or.inr rfl))).symm⟩

theorem takes_not_iff {row : Row α} {child : Predicate} {b : Bool} :
    row.Takes (.not child) (some (.truth b)) ↔ row.Takes child (some (.truth !b)) := by
  simp only [Row.Takes, Row.apply]
  constructor
  · rintro ⟨a, takes, same⟩
    obtain ⟨truth, value, rfl⟩ := Option.map_eq_some_iff.mp (Cell.ofTruth_eq_truth_iff.mp same.symm)
    rw [Cell.toTruth_eq_some_iff] at value
    simpa [← value] using takes
  · intro takes
    exact ⟨_, takes, by simp [Cell.toTruth, Cell.ofTruth]⟩

private theorem takes_condition_iff {row : Row α} {condition : Predicate} {v : Cell α} :
    row.Takes ((prune negated condition).getD (.unsupported "")) v ↔
      ∀ p, prune negated condition = some p → row.Takes p v := by
  cases prune negated condition <;> simp [Row.Takes]

end Nodes

private theorem takes_kept_condition {row : Row α} {condition : Predicate} {v : Cell α}
    (kept : ∀ p, prune negated condition = some p → p = condition)
    (takes : row.Takes condition v) :
    row.Takes ((prune negated condition).getD (.unsupported "")) v := by
  refine takes_condition_iff.mpr fun p part => ?_
  rw [kept p part]
  exact takes

/-- Pruning leaves out operands of connectives exactly: what it leaves has
the wanted value wherever some values of everything left out give it. -/
theorem takes_cutOperands_iff (row : Row α) (t : Predicate) (negated : Bool) :
    row.Takes (cutOperands negated t) (some (.truth !negated)) ↔
      ∀ p, prune negated t = some p → row.Takes p (some (.truth !negated)) := by
  induction t generalizing negated with
  | column name type | literal value type => exact takes_condition_iff
  | compare op left right | isNull child | isIn child values => exact takes_condition_iff
  | unsupported description | foreign kind => exact takes_condition_iff
  | not child ih =>
    have inner := ih (!negated)
    simp only [cutOperands, takes_not_iff, prune_not_eq_some_iff, inner]
    constructor
    · rintro holds _ ⟨part, kept, rfl⟩
      exact takes_not_iff.mpr (holds part kept)
    · intro holds part kept
      exact takes_not_iff.mp (holds _ ⟨part, kept, rfl⟩)
  | join op left right leftIh rightIh =>
    have leftPart := leftIh negated
    have rightPart := rightIh negated
    cases droppable : Droppable op negated with
    | true =>
      -- Both sides are needed, so each side's condition stands for itself.
      rw [← droppable_iff.mp droppable] at leftPart rightPart ⊢
      rw [cutOperands, takes_join_neutral_iff, leftPart, rightPart]
      cases keptLeft : prune negated left <;> cases keptRight : prune negated right <;>
        simp [prune, keptLeft, keptRight, droppable, takes_join_neutral_iff]
    | false =>
      -- One side suffices, so the connective says nothing once a side may have any value.
      have wanted : (!negated) = !op.neutral := by
        have other := mt droppable_iff.mpr (Bool.not_eq_true _ ▸ droppable)
        cases negated <;> simp_all
      rw [wanted] at leftPart rightPart ⊢
      rw [cutOperands, takes_join_dominant_iff, leftPart, rightPart]
      cases keptLeft : prune negated left <;> cases keptRight : prune negated right <;>
        simp [prune, keptLeft, keptRight, droppable, takes_join_dominant_iff]

/-- A tree that keeps its operands may have every value that it may have once
its conditions are pruned. -/
theorem takes_cutOperands_of_kept {row : Row α} {t : Predicate} {v : Cell α}
    (kept : KeepsOperands negated t) (takes : row.Takes t v) :
    row.Takes (cutOperands negated t) v := by
  induction t generalizing negated v with
  | column name type | literal value type =>
    exact takes_kept_condition kept takes
  | compare op left right | isNull child | isIn child values =>
    exact takes_kept_condition kept takes
  | unsupported description | foreign kind =>
    exact takes_kept_condition kept takes
  | join op left right leftIh rightIh =>
    obtain ⟨a, b, takesLeft, takesRight, same⟩ := takes
    exact ⟨a, b, leftIh kept.1 takesLeft, rightIh kept.2 takesRight, same⟩
  | not child ih =>
    obtain ⟨a, takesChild, same⟩ := takes
    exact ⟨a, ih kept takesChild, same⟩

/-- A pruned tree hides a row exactly if cutting its operands alone does. -/
theorem part_keeps_rows_iff (negated : Bool) (t : Predicate) :
    PartKeepsRows negated t ↔ ∀ (α : Type) (row : Row α),
      row.Takes t (some (.truth !negated)) → row.Takes (cutOperands negated t) (some (.truth !negated)) := by
  refine forall_congr' fun α => forall_congr' fun row => imp_congr Iff.rfl ?_
  rw [takes_cutOperands_iff]
  refine forall_congr' fun p => ?_
  constructor
  · intro sound kept
    obtain ⟨form, sent, value⟩ := sound kept
    exact (takes_iff_wire_value sent).mpr value.symm
  · intro takes kept
    obtain ⟨form, sent⟩ := pruned_has_wire_form kept
    exact ⟨form, sent, ((takes_iff_wire_value sent).mp (takes kept)).symm⟩

/-- Keeping every operand whole is enough to hide no row. -/
theorem part_keeps_rows_of_kept_operands {t : Predicate} (kept : KeepsOperands negated t) :
    PartKeepsRows negated t :=
  (part_keeps_rows_iff negated t).mpr fun _ _ takes => takes_cutOperands_of_kept kept takes

/-- For a predicate as it stands, the part that pruning leaves is its hint. -/
theorem hint_keeps_rows_iff_part (t : Predicate) :
    (∀ (α : Type) (row : Row α), row.Takes t (some (.truth true)) →
      t.toWire? = none ∨ ∃ form, t.toWire? = some form ∧ form.value row = some (.truth true)) ↔
    PartKeepsRows false t := by
  refine forall_congr' fun α => forall_congr' fun row => imp_congr Iff.rfl ?_
  cases kept : prune false t with
  | none => simp [toWire?, kept]
  | some p =>
    obtain ⟨form, sent⟩ := pruned_has_wire_form kept
    simp [toWire?, kept, sent]

/-- A hint lets through every row that its predicate wants, and the part of a
negated predicate refuses every row that it refuses, exactly if cutting the
operands of comparisons, null tests and memberships alone does no harm; so in
particular if each of these is sent whole or not at all. -/
theorem hint_hides_no_row_iff (t : Predicate) :
    ((∀ (α : Type) (row : Row α), row.Takes t (some (.truth true)) →
        t.toWire? = none ∨ ∃ form, t.toWire? = some form ∧ form.value row = some (.truth true)) ↔
      ∀ (α : Type) (row : Row α), row.Takes t (some (.truth true)) →
        row.Takes (cutOperands false t) (some (.truth true))) ∧
    (PartKeepsRows true t ↔
      ∀ (α : Type) (row : Row α), row.Takes t (some (.truth false)) →
        row.Takes (cutOperands true t) (some (.truth false))) ∧
    ∀ negated, KeepsOperands negated t → PartKeepsRows negated t :=
  ⟨(hint_keeps_rows_iff_part t).trans (part_keeps_rows_iff false t), part_keeps_rows_iff true t,
    fun _ kept => part_keeps_rows_of_kept_operands kept⟩

/-- Below a null test a conjunct is left out. Where it is NULL and the other
conjunct TRUE, the predicate is TRUE and its hint is FALSE. -/
theorem hint_hides_row_below_null_test :
    ∃ (t : Predicate) (form : WireForm) (row : Row Unit),
      t = .isNull (.join .and (.column "paid" "boolean") (.unsupported "udf")) ∧
        t.toWire? = some form ∧ row.Takes t (some (.truth true)) ∧
          form.value row = some (.truth false) := by
  have known : WireTag.ofEngine? "boolean" = some .boolean := by decide +kernel
  refine ⟨_, .apply .isNull [.column "paid" .boolean],
    ⟨fun _ _ => some (.truth true), fun _ _ => none, fun _ _ _ => none⟩, rfl, ?_, ?_, rfl⟩
  · simp [toWire?, prune, wireForm?, known, Droppable]
  · refine ⟨none, ⟨some (.truth true), none, ?_, trivial, rfl⟩, rfl⟩
    simp [Row.Takes, known]

end SharedTables.Predicate
