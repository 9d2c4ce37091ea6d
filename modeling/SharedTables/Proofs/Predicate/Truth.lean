import SharedTables.Proofs.Predicate.Trees

/-! What a predicate says about a row, in three-valued logic. A row values
columns and literals. A leaf that no listing request can name may have any
value each time it occurs, so a tree has a set of possible values, while a
wire form has exactly one. -/
namespace SharedTables

/-- A value that is not NULL: a truth value, or a datum of any other kind. -/
inductive Datum (α : Type)
  | truth (b : Bool)
  | other (a : α)
  deriving DecidableEq, Repr

/-- A value; `none` is NULL. -/
abbrev Cell (α : Type) := Option (Datum α)

/-- The values of one row. Comparisons are left open beyond their result on
NULL, and may be unknown for other values too. -/
structure Row (α : Type) where
  column : String → WireTag → Cell α
  literal : String → WireTag → Cell α
  compare : Comparison → Datum α → Datum α → Option Bool

namespace Connective

/-- The connective of two truth values, where `none` is unknown. -/
def combine : Connective → Option Bool → Option Bool → Option Bool
  | .and, some false, _ | .and, _, some false => some false
  | .and, some true, some true => some true
  | .or, some true, _ | .or, _, some true => some true
  | .or, some false, some false => some false
  | _, _, _ => none

/-- The truth value that changes nothing. -/
def neutral : Connective → Bool
  | .and => true
  | .or => false

/-- The connective of any number of truth values. -/
def combineAll (op : Connective) (truths : List (Option Bool)) : Option Bool :=
  truths.foldr op.combine (some op.neutral)

@[simp] theorem combine_neutral (op : Connective) (a : Option Bool) :
    op.combine a (some op.neutral) = a := by
  cases op <;> rcases a with _ | _ | _ <;> rfl

/-- A connective has its neutral value exactly when both sides have it. -/
theorem combine_eq_neutral_iff {op : Connective} {a b : Option Bool} :
    op.combine a b = some op.neutral ↔ a = some op.neutral ∧ b = some op.neutral := by
  cases op <;> rcases a with _ | _ | _ <;> rcases b with _ | _ | _ <;> decide

/-- A connective has the other value exactly when one of its sides has it. -/
theorem combine_eq_dominant_iff {op : Connective} {a b : Option Bool} :
    op.combine a b = some (!op.neutral) ↔ a = some (!op.neutral) ∨ b = some (!op.neutral) := by
  cases op <;> rcases a with _ | _ | _ <;> rcases b with _ | _ | _ <;> decide

/-- Two truth values are the same if they agree on being neutral and on being
the other value. -/
theorem truth_ext (op : Connective) {a b : Option Bool}
    (neutral : a = some op.neutral ↔ b = some op.neutral)
    (dominant : a = some (!op.neutral) ↔ b = some (!op.neutral)) : a = b := by
  cases op <;> rcases a with _ | _ | _ <;> rcases b with _ | _ | _ <;> simp_all [Connective.neutral]

theorem combineAll_eq_neutral_iff {op : Connective} {truths : List (Option Bool)} :
    op.combineAll truths = some op.neutral ↔ ∀ a ∈ truths, a = some op.neutral := by
  induction truths with
  | nil => simp [combineAll]
  | cons a truths ih =>
    rw [combineAll, List.foldr_cons, ← combineAll, combine_eq_neutral_iff, ih, List.forall_mem_cons]

theorem combineAll_eq_dominant_iff {op : Connective} {truths : List (Option Bool)} :
    op.combineAll truths = some (!op.neutral) ↔ ∃ a ∈ truths, a = some (!op.neutral) := by
  induction truths with
  | nil => cases op <;> simp [combineAll, neutral]
  | cons a truths ih =>
    rw [combineAll, List.foldr_cons, ← combineAll, combine_eq_dominant_iff, ih, List.exists_mem_cons_iff]

/-- Neither the order of the truth values nor repetition matters. -/
theorem combineAll_congr {op : Connective} {truths truths' : List (Option Bool)}
    (same : ∀ a, a ∈ truths ↔ a ∈ truths') : op.combineAll truths = op.combineAll truths' := by
  apply truth_ext op
  · simp only [combineAll_eq_neutral_iff, same]
  · simp only [combineAll_eq_dominant_iff, same]

theorem combineAll_append {op : Connective} {truths truths' : List (Option Bool)} :
    op.combineAll (truths ++ truths') = op.combine (op.combineAll truths) (op.combineAll truths') := by
  apply truth_ext op
  · simp only [combine_eq_neutral_iff, combineAll_eq_neutral_iff, List.forall_mem_append]
  · simp only [combine_eq_dominant_iff, combineAll_eq_dominant_iff, List.mem_append, or_and_right,
      exists_or]

@[simp] theorem combineAll_singleton {op : Connective} {a : Option Bool} : op.combineAll [a] = a :=
  combine_neutral op a

end Connective

namespace Cell

/-- A truth value as a value of a row. -/
def ofTruth (t : Option Bool) : Cell α := t.map .truth

/-- The truth value of a value of a row. What is no truth value is unknown. -/
def toTruth : Cell α → Option Bool
  | some (.truth b) => some b
  | _ => none

@[simp] theorem toTruth_ofTruth (t : Option Bool) : toTruth (ofTruth t : Cell α) = t := by
  cases t <;> rfl

@[simp] theorem ofTruth_eq_truth_iff {t : Option Bool} {b : Bool} :
    (ofTruth t : Cell α) = some (.truth b) ↔ t = some b := by
  cases t <;> simp [ofTruth]

@[simp] theorem toTruth_eq_some_iff {a : Cell α} {b : Bool} :
    a.toTruth = some b ↔ a = some (.truth b) := by
  rcases a with _ | _ | _ <;> simp [toTruth]

end Cell

namespace Row

/-- The comparison of two values, which is unknown when one of them is NULL. -/
def compared (row : Row α) (op : Comparison) : Cell α → Cell α → Option Bool
  | some a, some b => row.compare op a b
  | _, _ => none

/-- The value of an operator for the values of its children. Membership is
the disjunction of the equalities; a wrong number of children gives NULL. -/
def apply (row : Row α) : WireOperator → List (Cell α) → Cell α
  | .compare op, [a, b] => .ofTruth (row.compared op a b)
  | .join op, cells => .ofTruth (op.combineAll (cells.map Cell.toTruth))
  | .not, [a] => .ofTruth (a.toTruth.map Bool.not)
  | .isNull, [a] => .ofTruth (some a.isNone)
  | .isIn, a :: cells => .ofTruth (Connective.or.combineAll (cells.map (row.compared .equal a)))
  | _, _ => none

@[simp] theorem apply_join_pair (row : Row α) (op : Connective) (a b : Cell α) :
    row.apply (.join op) [a, b] = .ofTruth (op.combine a.toTruth b.toTruth) := by
  simp [apply, Connective.combineAll]

mutual
/-- Whether a tree may have a value in a row. -/
def Takes (row : Row α) : Predicate → Cell α → Prop
  | .column name type, v =>
    match WireTag.ofEngine? type with
    | some tag => v = row.column name tag
    | none => True
  | .literal value type, v =>
    match WireTag.ofEngine? type, value.render with
    | some tag, some text => v = row.literal text tag
    | _, _ => True
  | .compare op left right, v =>
    ∃ a b, row.Takes left a ∧ row.Takes right b ∧ v = row.apply (.compare op) [a, b]
  | .join op left right, v =>
    ∃ a b, row.Takes left a ∧ row.Takes right b ∧ v = row.apply (.join op) [a, b]
  | .not child, v => ∃ a, row.Takes child a ∧ v = row.apply .not [a]
  | .isNull child, v => ∃ a, row.Takes child a ∧ v = row.apply .isNull [a]
  | .isIn child values, v =>
    ∃ a cells, row.Takes child a ∧ row.TakesAll values cells ∧ v = row.apply .isIn (a :: cells)
  | .unsupported _, _ => True
  | .foreign _, _ => True

/-- Whether several trees may have values in a row, one after the other. -/
def TakesAll (row : Row α) : List Predicate → List (Cell α) → Prop
  | [], cells => cells = []
  | p :: rest, cells => ∃ a tail, row.Takes p a ∧ row.TakesAll rest tail ∧ cells = a :: tail
end

theorem takesAll_iff {row : Row α} {ps : List Predicate} {cells : List (Cell α)} :
    row.TakesAll ps cells ↔ List.Forall₂ row.Takes ps cells := by
  induction ps generalizing cells with
  | nil => simp [TakesAll]
  | cons p ps ih => simp only [TakesAll, List.forall₂_cons_left_iff, ih, exists_and_left]

end Row

namespace WireForm

mutual
/-- The value of a wire form in a row. -/
def value (row : Row α) : WireForm → Cell α
  | .column name tag => row.column name tag
  | .literal text tag => row.literal text tag
  | .apply op children => row.apply op (values row children)

/-- The values of several wire forms in a row. -/
def values (row : Row α) : List WireForm → List (Cell α)
  | [] => []
  | form :: rest => form.value row :: values row rest
end

theorem values_eq_map (row : Row α) (forms : List WireForm) :
    values row forms = forms.map (value row) := by
  induction forms with
  | nil => rfl
  | cons form forms ih => simp [values, ih]

end WireForm

namespace Predicate

private theorem takes_each_iff {row : Row α} {ps : List Predicate} {forms : List WireForm}
    (each : ∀ p ∈ ps, ∀ form, p.wireForm? = some form → ∀ v, row.Takes p v ↔ v = form.value row)
    (sent : List.Forall₂ (fun p form => p.wireForm? = some form) ps forms) {cells : List (Cell α)} :
    List.Forall₂ row.Takes ps cells ↔ cells = forms.map (WireForm.value row) := by
  induction sent generalizing cells with
  | nil => simp
  | cons head tail ih =>
    simp [List.forall₂_cons_left_iff, ih fun p member => each p (List.mem_cons_of_mem _ member),
      each _ List.mem_cons_self _ head]

/-- A tree that has a wire form has the value of that form and no other. -/
theorem takes_iff_wire_value {row : Row α} {p : Predicate} {form : WireForm} {v : Cell α}
    (sent : p.wireForm? = some form) : row.Takes p v ↔ v = form.value row := by
  induction p generalizing form v with
  | column name type =>
    obtain ⟨tag, known, rfl⟩ := wireForm_column_eq_some_iff.mp sent
    simp [Row.Takes, known, WireForm.value]
  | literal value type =>
    obtain ⟨tag, text, known, rendered, rfl⟩ := wireForm_literal_eq_some_iff.mp sent
    simp [Row.Takes, known, rendered, WireForm.value]
  | compare op left right leftIh rightIh =>
    obtain ⟨leftForm, rightForm, leftSent, rightSent, rfl⟩ := wireForm_compare_eq_some_iff.mp sent
    simp [Row.Takes, leftIh leftSent, rightIh rightSent, WireForm.value, WireForm.values]
  | join op left right leftIh rightIh =>
    obtain ⟨leftForm, rightForm, leftSent, rightSent, rfl⟩ := wireForm_join_eq_some_iff.mp sent
    simp [Row.Takes, leftIh leftSent, rightIh rightSent, WireForm.value, WireForm.values]
  | not child ih =>
    obtain ⟨childForm, childSent, rfl⟩ := wireForm_not_eq_some_iff.mp sent
    simp [Row.Takes, ih childSent, WireForm.value, WireForm.values]
  | isNull child ih =>
    obtain ⟨childForm, childSent, rfl⟩ := wireForm_isNull_eq_some_iff.mp sent
    simp [Row.Takes, ih childSent, WireForm.value, WireForm.values]
  | isIn child values ih valuesIh =>
    obtain ⟨childForm, forms, childSent, valuesSent, rfl⟩ := wireForm_isIn_eq_some_iff.mp sent
    have each (cells : List (Cell α)) : List.Forall₂ row.Takes values cells ↔
        cells = forms.map (WireForm.value row) :=
      takes_each_iff (fun p member form sent v => valuesIh p member sent) valuesSent
    simp [Row.Takes, ih childSent, Row.takesAll_iff, each, WireForm.value, WireForm.values,
      WireForm.values_eq_map]
  | unsupported description => simp at sent
  | foreign kind => simp at sent

/-- Every tree has some value in every row. -/
theorem takes_some_value (row : Row α) (p : Predicate) : ∃ v, row.Takes p v := by
  induction p with
  | column name type => cases known : WireTag.ofEngine? type <;> simp [Row.Takes, known]
  | literal value type =>
    cases known : WireTag.ofEngine? type <;> cases rendered : value.render <;>
      simp [Row.Takes, known, rendered]
  | compare op left right leftIh rightIh | join op left right leftIh rightIh =>
    obtain ⟨a, takesLeft⟩ := leftIh
    obtain ⟨b, takesRight⟩ := rightIh
    exact ⟨_, a, b, takesLeft, takesRight, rfl⟩
  | not child ih | isNull child ih =>
    obtain ⟨a, takes⟩ := ih
    exact ⟨_, a, takes, rfl⟩
  | isIn child values ih valuesIh =>
    obtain ⟨a, takes⟩ := ih
    have takesAll : ∃ cells, List.Forall₂ row.Takes values cells := by
      induction values with
      | nil => exact ⟨[], .nil⟩
      | cons value values tailIh =>
        obtain ⟨b, head⟩ := valuesIh value List.mem_cons_self
        obtain ⟨cells, tail⟩ := tailIh fun p member => valuesIh p (List.mem_cons_of_mem _ member)
        exact ⟨b :: cells, .cons head tail⟩
    obtain ⟨cells, takesAll⟩ := takesAll
    exact ⟨_, a, cells, takes, Row.takesAll_iff.mpr takesAll, rfl⟩
  | unsupported description => exact ⟨none, trivial⟩
  | foreign kind => exact ⟨none, trivial⟩

end Predicate
end SharedTables
