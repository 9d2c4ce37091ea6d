import Mathlib.Data.List.Permutation
import SharedTables.Proofs.Predicate.CanonicalForm

/-! What the canonical form of a predicate means. It is the form whose text
the predicate has, and wherever equality is symmetric it has the value of the
predicate's wire form: the order, grouping and repetition that it leaves out
never mattered. -/
namespace SharedTables

/-- Whether it does not matter which of two values stands first in an equality. -/
def Row.Symmetric (row : Row α) : Prop := ∀ a b, row.compare .equal a b = row.compare .equal b a

/-- The tag with a given name. -/
def WireTag.named? (name : String) : Option WireTag :=
  [int, long, float, double, string, boolean, date, timestamp].find? (·.name = name)

theorem WireTag.named_name (tag : WireTag) : WireTag.named? tag.name = some tag := by
  cases tag <;> decide +kernel

namespace CanonicalForm

instance : DecidableEq CanonicalForm := fun form form' =>
  decidable_of_iff (form.text = form'.text) ⟨text_selfDelimiting.injective, congrArg text⟩

/-- Forms in the order of their texts. -/
def sorted (forms : List CanonicalForm) : List CanonicalForm :=
  forms.mergeSort fun form form' => decide (form.text ≤ form'.text)

/-- The different forms of a list, in the order of their texts. -/
def distinctSorted (forms : List CanonicalForm) : List CanonicalForm := sorted forms.eraseDups

theorem sorted_perm (forms : List CanonicalForm) : (sorted forms).Perm forms :=
  List.mergeSort_perm ..

@[simp] theorem mem_distinctSorted {form : CanonicalForm} {forms : List CanonicalForm} :
    form ∈ distinctSorted forms ↔ form ∈ forms := by
  simp [distinctSorted, sorted, List.mem_eraseDups]

theorem map_text_sorted (forms : List CanonicalForm) :
    (sorted forms).map text = Text.sorted (forms.map text) :=
  List.map_mergeSort fun _ _ _ _ => rfl

theorem map_text_eraseDups (forms : List CanonicalForm) :
    forms.eraseDups.map text = (forms.map text).eraseDups := by
  match forms with
  | [] => rfl
  | form :: rest =>
    have others : (rest.filter fun other => !other == form).map text =
        (rest.map text).filter fun other => !other == form.text := by
      rw [List.filter_map]
      congr 2
      funext other
      simpa [Function.comp] using
        (⟨congrArg text, text_selfDelimiting.injective⟩ : other = form ↔ other.text = form.text)
    rw [List.eraseDups_cons, List.map_cons, List.map_cons, List.eraseDups_cons,
      map_text_eraseDups (rest.filter _), others]
termination_by forms.length
decreasing_by exact Nat.lt_succ_of_le (List.length_filter_le ..)

theorem map_text_distinctSorted (forms : List CanonicalForm) :
    (distinctSorted forms).map text = Text.distinctSorted (forms.map text) := by
  rw [distinctSorted, map_text_sorted, map_text_eraseDups, Text.distinctSorted]

mutual
/-- The value of a form in a row. What cannot be sent has none. -/
def value (row : Row α) : CanonicalForm → Cell α
  | .column name type => (WireTag.named? type).bind (row.column name)
  | .literal type text => (WireTag.named? type).bind (row.literal text)
  | .apply op operands => row.apply op (values row operands)
  | .unsupported _ => none

/-- The values of several forms in a row. -/
def values (row : Row α) : List CanonicalForm → List (Cell α)
  | [] => []
  | form :: rest => form.value row :: values row rest
end

theorem values_eq_map (row : Row α) (forms : List CanonicalForm) :
    values row forms = forms.map (value row) := by
  induction forms with
  | nil => rfl
  | cons form forms ih => simp [values, ih]

/-- The truth value of a form in a row. -/
def truth (row : Row α) (form : CanonicalForm) : Option Bool := (form.value row).toTruth

end CanonicalForm

namespace Predicate
open CanonicalForm (sorted distinctSorted)

mutual
/-- The canonical forms of the operands that a predicate contributes to a
chain of `outer`: several when it is such a chain itself, else its own. -/
def canonicalForms (outer : Option Connective) : Predicate → List CanonicalForm
  | .column name type => [.column name (typeKey type)]
  | .literal value type => [.literal (typeKey type) (valueKey value)]
  | .not child => [.apply .not (canonicalForms none child)]
  | .isNull child => [.apply .isNull (canonicalForms none child)]
  | .compare op left right =>
    let operands := canonicalForms none left ++ canonicalForms none right
    [.apply (.compare op) (if op = .equal then sorted operands else operands)]
  | .join op left right =>
    let operands := canonicalForms (some op) left ++ canonicalForms (some op) right
    if outer = some op then operands else [.apply (.join op) (sorted operands)]
  | .isIn child values =>
    [.apply .isIn (canonicalForms none child ++ distinctSorted (canonicalFormsAll values))]
  | .unsupported description => [.unsupported description]
  | .foreign _ => []

/-- The canonical forms of several predicates. -/
def canonicalFormsAll : List Predicate → List CanonicalForm
  | [] => []
  | p :: rest => canonicalForms none p ++ canonicalFormsAll rest
end

theorem canonicalAll_eq_flatMap (ps : List Predicate) :
    canonicalAll ps = ps.flatMap (canonicalIn none) := by
  induction ps with
  | nil => rfl
  | cons p ps ih => simp [canonicalAll, ih]

theorem canonicalFormsAll_eq_flatMap (ps : List Predicate) :
    canonicalFormsAll ps = ps.flatMap (canonicalForms none) := by
  induction ps with
  | nil => rfl
  | cons p ps ih => simp [canonicalFormsAll, ih]

/-- The canonical texts of a predicate are the texts of its canonical forms. -/
theorem canonicalIn_eq_map_text (outer : Option Connective) (p : Predicate) :
    p.canonicalIn outer = (p.canonicalForms outer).map CanonicalForm.text := by
  induction p generalizing outer with
  | column name type => rfl
  | literal value type => rfl
  | not child ih | isNull child ih =>
    simp only [canonicalIn, canonicalForms, ih, List.map_cons, List.map_nil, CanonicalForm.text_apply]
    rfl
  | compare op left right leftIh rightIh =>
    by_cases symmetric : op = .equal <;>
      simp only [canonicalIn, canonicalForms, leftIh, rightIh, symmetric, ↓reduceIte, List.map_cons,
        List.map_nil, CanonicalForm.text_apply, CanonicalForm.map_text_sorted, List.map_append] <;>
      rfl
  | join op left right leftIh rightIh =>
    by_cases same : outer = some op <;>
      simp only [canonicalIn, canonicalForms, leftIh, rightIh, same, ↓reduceIte, List.map_cons,
        List.map_nil, CanonicalForm.text_apply, CanonicalForm.map_text_sorted, List.map_append]
    rfl
  | isIn child values ih valuesIh =>
    have each : canonicalAll values = (canonicalFormsAll values).map CanonicalForm.text := by
      rw [canonicalAll_eq_flatMap, canonicalFormsAll_eq_flatMap, List.map_flatMap]
      exact List.flatMap_congr fun value member => valuesIh value member none
    simp only [canonicalIn, canonicalForms, ih, each, List.map_cons, List.map_nil, List.map_append,
      CanonicalForm.text_apply, CanonicalForm.map_text_distinctSorted]
    rfl
  | unsupported description => rfl
  | foreign kind => rfl

private theorem equality_of_sorted {row : Row α} (symmetric : row.Symmetric) (f g : CanonicalForm) :
    row.apply (.compare .equal) ((sorted [f, g]).map (CanonicalForm.value row)) =
      row.apply (.compare .equal) [f.value row, g.value row] := by
  have swapped : row.compared .equal (g.value row) (f.value row) =
      row.compared .equal (f.value row) (g.value row) := by
    cases f.value row <;> cases g.value row <;> simp [Row.compared, symmetric _ _]
  rcases List.perm_pair.mp (CanonicalForm.sorted_perm [f, g]) with order | order
  · simp [order]
  · simp [order, Row.apply, swapped]

private theorem chain_truth {row : Row α} {op : Connective} {operands : List CanonicalForm} :
    row.apply (.join op) ((sorted operands).map (CanonicalForm.value row)) =
      .ofTruth (op.combineAll (operands.map (CanonicalForm.truth row))) := by
  simp only [Row.apply, List.map_map]
  congr 1
  exact Connective.combineAll_congr fun a =>
    ((CanonicalForm.sorted_perm operands).map (CanonicalForm.truth row)).mem_iff

private theorem membership_of_distinct {row : Row α} (a : Cell α) {forms : List CanonicalForm} :
    row.apply .isIn (a :: (distinctSorted forms).map (CanonicalForm.value row)) =
      row.apply .isIn (a :: forms.map (CanonicalForm.value row)) := by
  simp only [Row.apply, List.map_map]
  congr 1
  exact Connective.combineAll_congr fun a => by simp

/-- A predicate that can be sent has one canonical form, which has the value
of its wire form; and in a chain its operands together have its truth value. -/
theorem canonicalForms_mean {row : Row α} {p : Predicate} {form : WireForm}
    (symmetric : row.Symmetric) (sent : p.wireForm? = some form) :
    (∃ f, p.canonicalForms none = [f] ∧ f.value row = form.value row) ∧
      ∀ op : Connective, op.combineAll ((p.canonicalForms (some op)).map (CanonicalForm.truth row)) =
        (form.value row).toTruth := by
  induction p generalizing form with
  | column name type =>
    obtain ⟨tag, known, rfl⟩ := wireForm_column_eq_some_iff.mp sent
    simp [canonicalForms, typeKey, known, CanonicalForm.value, CanonicalForm.truth, WireForm.value,
      WireTag.named_name]
  | literal value type =>
    obtain ⟨tag, text, known, rendered, rfl⟩ := wireForm_literal_eq_some_iff.mp sent
    simp [canonicalForms, typeKey, valueKey, known, rendered, CanonicalForm.value,
      CanonicalForm.truth, WireForm.value, WireTag.named_name]
  | not child ih =>
    obtain ⟨childForm, childSent, rfl⟩ := wireForm_not_eq_some_iff.mp sent
    obtain ⟨⟨f, single, value⟩, -⟩ := ih childSent
    simp [canonicalForms, single, value, CanonicalForm.value, CanonicalForm.values,
      CanonicalForm.truth, WireForm.value, WireForm.values]
  | isNull child ih =>
    obtain ⟨childForm, childSent, rfl⟩ := wireForm_isNull_eq_some_iff.mp sent
    obtain ⟨⟨f, single, value⟩, -⟩ := ih childSent
    simp [canonicalForms, single, value, CanonicalForm.value, CanonicalForm.values,
      CanonicalForm.truth, WireForm.value, WireForm.values]
  | compare op left right leftIh rightIh =>
    obtain ⟨leftForm, rightForm, leftSent, rightSent, rfl⟩ := wireForm_compare_eq_some_iff.mp sent
    obtain ⟨⟨f, leftSingle, leftValue⟩, -⟩ := leftIh leftSent
    obtain ⟨⟨g, rightSingle, rightValue⟩, -⟩ := rightIh rightSent
    by_cases equality : op = .equal
    · subst equality
      simp [canonicalForms, leftSingle, rightSingle, leftValue, rightValue, CanonicalForm.value,
        CanonicalForm.values_eq_map, equality_of_sorted symmetric, CanonicalForm.truth,
        WireForm.value, WireForm.values]
    · simp [canonicalForms, leftSingle, rightSingle, leftValue, rightValue, equality,
        CanonicalForm.value, CanonicalForm.values, CanonicalForm.truth, WireForm.value, WireForm.values]
  | join op left right leftIh rightIh =>
    obtain ⟨leftForm, rightForm, leftSent, rightSent, rfl⟩ := wireForm_join_eq_some_iff.mp sent
    have chain : op.combineAll ((left.canonicalForms (some op) ++ right.canonicalForms (some op)).map
        (CanonicalForm.truth row)) =
      op.combine (leftForm.value row).toTruth (rightForm.value row).toTruth := by
      rw [List.map_append, Connective.combineAll_append, (leftIh leftSent).2, (rightIh rightSent).2]
    have value : (CanonicalForm.apply (.join op) (sorted
        (left.canonicalForms (some op) ++ right.canonicalForms (some op)))).value row =
        (WireForm.apply (.join op) [leftForm, rightForm]).value row := by
      rw [CanonicalForm.value, CanonicalForm.values_eq_map, chain_truth, chain]
      simp [WireForm.value, WireForm.values]
    refine ⟨⟨_, by simp [canonicalForms], value⟩, fun outer => ?_⟩
    by_cases same : outer = op
    · subst same
      rw [canonicalForms, if_pos rfl, chain]
      simp [WireForm.value, WireForm.values]
    · simp [canonicalForms, same, CanonicalForm.truth, value]
  | isIn child values ih valuesIh =>
    obtain ⟨childForm, forms, childSent, valuesSent, rfl⟩ := wireForm_isIn_eq_some_iff.mp sent
    obtain ⟨⟨f, single, value⟩, -⟩ := ih childSent
    have each : (canonicalFormsAll values).map (CanonicalForm.value row) =
        forms.map (WireForm.value row) := by
      clear sent
      induction valuesSent with
      | nil => rfl
      | cons head tail tailIh =>
        obtain ⟨⟨g, single, value⟩, -⟩ := valuesIh _ List.mem_cons_self head
        simp [canonicalFormsAll, single, value,
          tailIh fun p member => valuesIh p (List.mem_cons_of_mem _ member)]
    simp [canonicalForms, single, value, CanonicalForm.value, CanonicalForm.values_eq_map,
      membership_of_distinct, each, CanonicalForm.truth, WireForm.value, WireForm.values,
      WireForm.values_eq_map]
  | unsupported description => simp at sent
  | foreign kind => simp at sent

end Predicate
end SharedTables
