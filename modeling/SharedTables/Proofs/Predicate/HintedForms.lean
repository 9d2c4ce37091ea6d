import SharedTables.Proofs.Predicate.WireText
import SharedTables.Proofs.Scan.Fingerprint

/-! What a hint says about the conditions that it carries. Their canonical text
can be read off the wire form that is sent for them, however they were split,
grouped or mixed with others that cannot be sent. -/
namespace SharedTables
open CanonicalForm (sorted distinctSorted)

/-- The chain that the children of an operator belong to. -/
def WireOperator.chain? : WireOperator → Option Connective
  | .join op => some op
  | _ => none

/-- The canonical forms that an operator with the given operands contributes
to a chain of `outer`. -/
def WireOperator.arrange (op : WireOperator) (outer : Option Connective) (operands : List CanonicalForm) :
    List CanonicalForm :=
  match op with
  | .join connective => if outer = some connective then operands else [.apply op (sorted operands)]
  | .compare .equal => [.apply op (sorted operands)]
  | .isIn => [.apply op (operands.take 1 ++ distinctSorted (operands.drop 1))]
  | _ => [.apply op operands]

namespace WireForm

mutual
/-- The canonical forms that a wire form contributes to a chain of `outer`. -/
def canonicalForms (outer : Option Connective) : WireForm → List CanonicalForm
  | .column name tag => [.column name tag.name]
  | .literal text tag => [.literal tag.name text]
  | .apply op children => op.arrange outer (canonicalFormsAll op.chain? children)

/-- The canonical forms that several wire forms contribute to a chain. -/
def canonicalFormsAll (outer : Option Connective) : List WireForm → List CanonicalForm
  | [] => []
  | form :: rest => canonicalForms outer form ++ canonicalFormsAll outer rest
end

theorem canonicalFormsAll_eq_flatMap (outer : Option Connective) (forms : List WireForm) :
    canonicalFormsAll outer forms = forms.flatMap (canonicalForms outer) := by
  induction forms with
  | nil => rfl
  | cons form forms ih => simp [canonicalFormsAll, ih]

/-- The conjuncts of what is sent, which is nothing for no condition. -/
def conjuncts (form : Option WireForm) : List CanonicalForm :=
  form.elim [] (canonicalForms (some .and))

/-- Joining forms keeps their conjuncts. -/
theorem conjuncts_conjunction (forms : List WireForm) :
    conjuncts (conjunction forms) = forms.flatMap (canonicalForms (some .and)) := by
  match forms with
  | [] => rfl
  | [form] => simp [conjunction, conjuncts]
  | first :: second :: rest =>
    simp [conjunction, conjuncts, canonicalForms, WireOperator.arrange, WireOperator.chain?,
      canonicalFormsAll_eq_flatMap]

end WireForm

namespace Predicate

/-- Outside of chains what can be sent has one canonical form. -/
theorem canonicalForms_single {p : Predicate} {form : WireForm} (sent : p.wireForm? = some form) :
    ∃ f, p.canonicalForms none = [f] := by
  cases p with
  | foreign kind => simp at sent
  | _ => exact ⟨_, rfl⟩

/-- The canonical forms of what can be sent are those of its wire form. -/
theorem canonicalForms_of_wire {p : Predicate} {form : WireForm} (sent : p.wireForm? = some form)
    (outer : Option Connective) : p.canonicalForms outer = form.canonicalForms outer := by
  induction p generalizing form outer with
  | column name type =>
    obtain ⟨tag, known, rfl⟩ := wireForm_column_eq_some_iff.mp sent
    simp [canonicalForms, WireForm.canonicalForms, typeKey, known]
  | literal value type =>
    obtain ⟨tag, text, known, rendered, rfl⟩ := wireForm_literal_eq_some_iff.mp sent
    simp [canonicalForms, WireForm.canonicalForms, typeKey, valueKey, known, rendered]
  | compare op left right leftIh rightIh =>
    obtain ⟨leftForm, rightForm, leftSent, rightSent, rfl⟩ := wireForm_compare_eq_some_iff.mp sent
    cases op <;>
      simp [canonicalForms, WireForm.canonicalForms, WireForm.canonicalFormsAll, WireOperator.arrange,
        WireOperator.chain?, leftIh leftSent, rightIh rightSent]
  | join op left right leftIh rightIh =>
    obtain ⟨leftForm, rightForm, leftSent, rightSent, rfl⟩ := wireForm_join_eq_some_iff.mp sent
    simp [canonicalForms, WireForm.canonicalForms, WireForm.canonicalFormsAll, WireOperator.arrange,
      WireOperator.chain?, leftIh leftSent, rightIh rightSent]
  | not child ih =>
    obtain ⟨childForm, childSent, rfl⟩ := wireForm_not_eq_some_iff.mp sent
    simp [canonicalForms, WireForm.canonicalForms, WireForm.canonicalFormsAll, WireOperator.arrange,
      WireOperator.chain?, ih childSent]
  | isNull child ih =>
    obtain ⟨childForm, childSent, rfl⟩ := wireForm_isNull_eq_some_iff.mp sent
    simp [canonicalForms, WireForm.canonicalForms, WireForm.canonicalFormsAll, WireOperator.arrange,
      WireOperator.chain?, ih childSent]
  | isIn child values ih valuesIh =>
    obtain ⟨childForm, forms, childSent, valuesSent, rfl⟩ := wireForm_isIn_eq_some_iff.mp sent
    obtain ⟨f, single⟩ := canonicalForms_single childSent
    have childSame : childForm.canonicalForms none = [f] := (ih childSent none).symm.trans single
    have all : canonicalFormsAll values = WireForm.canonicalFormsAll none forms := by
      clear sent
      induction valuesSent with
      | nil => rfl
      | cons head tail tailIh =>
        simp [canonicalFormsAll, WireForm.canonicalFormsAll, valuesIh _ List.mem_cons_self head,
          tailIh fun p member => valuesIh p (List.mem_cons_of_mem _ member)]
    simp [canonicalForms, WireForm.canonicalForms, WireForm.canonicalFormsAll, WireOperator.arrange,
      WireOperator.chain?, single, childSame, all]
  | unsupported description => simp at sent
  | foreign kind => simp at sent

/-- The conjuncts of conditions are those of what is sent for them. -/
theorem conjuncts_conjunctionToWire (ps : List Predicate) :
    WireForm.conjuncts (conjunctionToWire? ps) = conjunctForms ps := by
  rw [conjunctionToWire?, WireForm.conjuncts_conjunction]
  induction ps with
  | nil => rfl
  | cons p ps ih =>
    cases kept : prune false p with
    | none => simpa [conjunctForms, toWire?, kept] using ih
    | some part =>
      obtain ⟨form, sent⟩ := pruned_has_wire_form kept
      have wire : p.toWire? = some form := by simp [toWire?, kept, sent]
      rw [List.filterMap_cons_some wire, List.flatMap_cons, ih, ← canonicalForms_of_wire sent,
        conjunctForms, conjunctForms, List.filterMap_cons_some kept, List.flatMap_cons]

/-- The conditions that a request carries. -/
def carried (settings : HintSettings) (partition data : List Predicate) : List Predicate :=
  if settings.dataColumns then partition ++ data else partition

theorem conjunctForms_append (ps qs : List Predicate) :
    conjunctForms (ps ++ qs) = conjunctForms ps ++ conjunctForms qs := by
  simp [conjunctForms]

/-- The conjuncts of the form that is sent are those of the conditions that it carries. -/
theorem conjuncts_hintForm {settings : HintSettings} (enabled : settings.enabled = true)
    (partition data : List Predicate) : WireForm.conjuncts (hintForm? settings partition data) =
      conjunctForms (carried settings partition data) := by
  have first := conjuncts_conjunctionToWire partition
  have second := conjuncts_conjunctionToWire data
  cases both : settings.dataColumns with
  | false => simp [hintForm?, carried, enabled, both, first]
  | true =>
    simp only [hintForm?, carried, enabled, both, ↓reduceIte, conjunctForms_append, ← first, ← second]
    cases conjunctionToWire? partition <;> cases conjunctionToWire? data <;>
      simp [WireForm.conjuncts, WireForm.canonicalForms, WireForm.canonicalFormsAll, WireOperator.arrange,
        WireOperator.chain?]

/-- The canonical text of the conditions that a request carries can be read
off its hint. -/
theorem canonicalConjunction_of_same_hint {settings : HintSettings} (enabled : settings.enabled = true)
    (same : hints? settings partition data = hints? settings partition' data') :
    canonicalConjunction (carried settings partition data) =
      canonicalConjunction (carried settings partition' data') := by
  have forms : hintForm? settings partition data = hintForm? settings partition' data' :=
    Option.map_injective (fun _ _ => WireForm.text_injective) same
  rw [canonicalConjunction_eq_join, canonicalConjunction_eq_join, ← conjuncts_hintForm enabled,
    ← conjuncts_hintForm enabled, forms]

end Predicate

end SharedTables
