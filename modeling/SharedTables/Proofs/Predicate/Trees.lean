import Mathlib.Data.List.Forall2
import SharedTables.Predicate.WireForm

/-! Predicate trees as proofs meet them: one induction for all nodes, in which
the values of a membership are given one by one, and for each node the ways in
which it is pruned. -/
namespace SharedTables.Predicate

/-- Induction on a tree. What is to be shown may be assumed of the child and
of every value of a membership. -/
@[induction_eliminator]
theorem tree_induction {motive : Predicate → Prop}
    (column : ∀ name type, motive (.column name type))
    (literal : ∀ value type, motive (.literal value type))
    (compare : ∀ op left right, motive left → motive right → motive (.compare op left right))
    (join : ∀ op left right, motive left → motive right → motive (.join op left right))
    (not : ∀ child, motive child → motive (.not child))
    (isNull : ∀ child, motive child → motive (.isNull child))
    (isIn : ∀ child values, motive child → (∀ p ∈ values, motive p) → motive (.isIn child values))
    (unsupported : ∀ description, motive (.unsupported description))
    (foreign : ∀ kind, motive (.foreign kind)) (p : Predicate) : motive p :=
  @Predicate.rec motive (fun values => ∀ p ∈ values, motive p)
    column literal compare join not isNull isIn unsupported foreign
    (fun _ absent => absurd absent List.not_mem_nil)
    (fun _ _ head tail => List.forall_mem_cons.mpr ⟨head, tail⟩) p

attribute [local simp] prune pruneAll wireForm? wireForms?

/-- Several trees are pruned one by one, and each must leave something. -/
theorem pruneAll_eq_some_iff {ps qs : List Predicate} :
    pruneAll negated ps = some qs ↔ List.Forall₂ (fun p q => prune negated p = some q) ps qs := by
  induction ps generalizing qs with
  | nil => simp [eq_comm]
  | cons p ps ih =>
    simp only [pruneAll, List.forall₂_cons_left_iff, ← ih]
    grind

@[simp] theorem prune_column_eq_some_iff :
    prune negated (.column name type) = some p ↔
      (∃ tag, WireTag.ofEngine? type = some tag) ∧ p = .column name type := by
  simp [Option.isSome_iff_exists, eq_comm (a := p)]

@[simp] theorem prune_literal_eq_some_iff :
    prune negated (.literal value type) = some p ↔
      (∃ tag, WireTag.ofEngine? type = some tag) ∧ (∃ text, value.render = some text) ∧
        p = .literal value type := by
  simp [Option.isSome_iff_exists, and_assoc, eq_comm (a := p)]

@[simp] theorem prune_compare_eq_some_iff {op : Comparison} :
    prune negated (.compare op left right) = some p ↔ ∃ leftPart rightPart,
      prune negated left = some leftPart ∧ prune negated right = some rightPart ∧
        p = .compare op leftPart rightPart := by
  simp only [prune]
  grind

/-- A connective keeps what both sides leave, or, where it may leave out a
side, what the other side leaves. -/
@[simp] theorem prune_join_eq_some_iff {op : Connective} :
    prune negated (.join op left right) = some p ↔
      (∃ leftPart rightPart, prune negated left = some leftPart ∧
        prune negated right = some rightPart ∧ p = .join op leftPart rightPart) ∨
      Droppable op negated = true ∧
        (prune negated left = some p ∧ prune negated right = none ∨
          prune negated left = none ∧ prune negated right = some p) := by
  simp only [prune]
  grind

@[simp] theorem prune_not_eq_some_iff :
    prune negated (.not child) = some p ↔ ∃ part, prune (!negated) child = some part ∧ p = .not part := by
  simp [eq_comm (a := p)]

@[simp] theorem prune_isNull_eq_some_iff :
    prune negated (.isNull child) = some p ↔
      ∃ part, prune negated child = some part ∧ p = .isNull part := by
  simp [eq_comm (a := p)]

@[simp] theorem prune_isIn_eq_some_iff {values : List Predicate} :
    prune negated (.isIn child values) = some p ↔ ∃ part parts, prune negated child = some part ∧
      List.Forall₂ (fun value part => prune negated value = some part) values parts ∧
        parts ≠ [] ∧ p = .isIn part parts := by
  simp only [prune, ← pruneAll_eq_some_iff]
  rcases pruneAll negated values with _ | _ | _ <;> cases prune negated child <;>
    simp [eq_comm (a := p)]

@[simp] theorem prune_unsupported : prune negated (.unsupported description) = none := rfl

@[simp] theorem prune_foreign : prune negated (.foreign kind) = none := rfl

/-- Several trees have wire forms when every one of them has one. -/
theorem wireForms_eq_some_iff {ps : List Predicate} {forms : List WireForm} :
    wireForms? ps = some forms ↔ List.Forall₂ (fun p form => wireForm? p = some form) ps forms := by
  induction ps generalizing forms with
  | nil => simp [eq_comm]
  | cons p ps ih =>
    simp only [wireForms?, Option.bind_eq_bind, Option.bind_eq_some_iff,
      List.forall₂_cons_left_iff, ih]
    grind

@[simp] theorem wireForm_column_eq_some_iff {form : WireForm} :
    wireForm? (.column name type) = some form ↔
      ∃ tag, WireTag.ofEngine? type = some tag ∧ form = .column name tag := by
  simp [eq_comm (a := form)]

@[simp] theorem wireForm_literal_eq_some_iff {form : WireForm} :
    wireForm? (.literal value type) = some form ↔ ∃ tag text,
      WireTag.ofEngine? type = some tag ∧ value.render = some text ∧ form = .literal text tag := by
  simp [Option.bind_eq_some_iff, eq_comm (a := form)]

@[simp] theorem wireForm_compare_eq_some_iff {op : Comparison} {form : WireForm} :
    wireForm? (.compare op left right) = some form ↔ ∃ leftForm rightForm,
      wireForm? left = some leftForm ∧ wireForm? right = some rightForm ∧
        form = .apply (.compare op) [leftForm, rightForm] := by
  simp [Option.bind_eq_some_iff, eq_comm (a := form)]

@[simp] theorem wireForm_join_eq_some_iff {op : Connective} {form : WireForm} :
    wireForm? (.join op left right) = some form ↔ ∃ leftForm rightForm,
      wireForm? left = some leftForm ∧ wireForm? right = some rightForm ∧
        form = .apply (.join op) [leftForm, rightForm] := by
  simp [Option.bind_eq_some_iff, eq_comm (a := form)]

@[simp] theorem wireForm_not_eq_some_iff {form : WireForm} :
    wireForm? (.not child) = some form ↔
      ∃ childForm, wireForm? child = some childForm ∧ form = .apply .not [childForm] := by
  simp [eq_comm (a := form)]

@[simp] theorem wireForm_isNull_eq_some_iff {form : WireForm} :
    wireForm? (.isNull child) = some form ↔
      ∃ childForm, wireForm? child = some childForm ∧ form = .apply .isNull [childForm] := by
  simp [eq_comm (a := form)]

@[simp] theorem wireForm_isIn_eq_some_iff {values : List Predicate} {form : WireForm} :
    wireForm? (.isIn child values) = some form ↔ ∃ childForm forms,
      wireForm? child = some childForm ∧
        List.Forall₂ (fun value form => wireForm? value = some form) values forms ∧
          form = .apply .isIn (childForm :: forms) := by
  simp [Option.bind_eq_some_iff, ← wireForms_eq_some_iff, eq_comm (a := form)]

@[simp] theorem wireForm_unsupported : wireForm? (.unsupported description) = none := rfl

@[simp] theorem wireForm_foreign : wireForm? (.foreign kind) = none := rfl

/-- Every pruned tree can be written as a wire form. -/
theorem pruned_has_wire_form {t p : Predicate} (kept : prune negated t = some p) :
    ∃ form, p.wireForm? = some form := by
  induction t generalizing negated p with
  | column name type =>
    obtain ⟨⟨tag, known⟩, rfl⟩ := prune_column_eq_some_iff.mp kept
    exact ⟨_, wireForm_column_eq_some_iff.mpr ⟨tag, known, rfl⟩⟩
  | literal value type =>
    obtain ⟨⟨tag, known⟩, ⟨text, rendered⟩, rfl⟩ := prune_literal_eq_some_iff.mp kept
    exact ⟨_, wireForm_literal_eq_some_iff.mpr ⟨tag, text, known, rendered, rfl⟩⟩
  | compare op left right leftIh rightIh =>
    obtain ⟨leftPart, rightPart, leftKept, rightKept, rfl⟩ := prune_compare_eq_some_iff.mp kept
    obtain ⟨leftForm, leftSent⟩ := leftIh leftKept
    obtain ⟨rightForm, rightSent⟩ := rightIh rightKept
    exact ⟨_, wireForm_compare_eq_some_iff.mpr ⟨leftForm, rightForm, leftSent, rightSent, rfl⟩⟩
  | join op left right leftIh rightIh =>
    obtain ⟨leftPart, rightPart, leftKept, rightKept, rfl⟩ | ⟨_, ⟨kept, _⟩ | ⟨_, kept⟩⟩ :=
      prune_join_eq_some_iff.mp kept
    · obtain ⟨leftForm, leftSent⟩ := leftIh leftKept
      obtain ⟨rightForm, rightSent⟩ := rightIh rightKept
      exact ⟨_, wireForm_join_eq_some_iff.mpr ⟨leftForm, rightForm, leftSent, rightSent, rfl⟩⟩
    · exact leftIh kept
    · exact rightIh kept
  | not child ih =>
    obtain ⟨part, childKept, rfl⟩ := prune_not_eq_some_iff.mp kept
    obtain ⟨form, sent⟩ := ih childKept
    exact ⟨_, wireForm_not_eq_some_iff.mpr ⟨form, sent, rfl⟩⟩
  | isNull child ih =>
    obtain ⟨part, childKept, rfl⟩ := prune_isNull_eq_some_iff.mp kept
    obtain ⟨form, sent⟩ := ih childKept
    exact ⟨_, wireForm_isNull_eq_some_iff.mpr ⟨form, sent, rfl⟩⟩
  | isIn child values ih valuesIh =>
    obtain ⟨part, parts, childKept, valuesKept, -, rfl⟩ := prune_isIn_eq_some_iff.mp kept
    obtain ⟨form, sent⟩ := ih childKept
    have sentAll : ∃ forms, List.Forall₂ (fun part form => wireForm? part = some form) parts forms := by
      clear childKept kept
      induction valuesKept with
      | nil => exact ⟨[], .nil⟩
      | cons headKept _ tailIh =>
        obtain ⟨headForm, headSent⟩ := valuesIh _ List.mem_cons_self headKept
        obtain ⟨forms, tailSent⟩ := tailIh fun p member => valuesIh p (List.mem_cons_of_mem _ member)
        exact ⟨headForm :: forms, .cons headSent tailSent⟩
    obtain ⟨forms, sentAll⟩ := sentAll
    exact ⟨_, wireForm_isIn_eq_some_iff.mpr ⟨form, forms, sent, sentAll, rfl⟩⟩
  | unsupported description => simp at kept
  | foreign kind => simp at kept

end SharedTables.Predicate
