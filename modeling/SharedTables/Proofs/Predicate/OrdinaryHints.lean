import SharedTables.Proofs.Predicate.HintedForms
import SharedTables.Proofs.Predicate.HintSoundness
import SharedTables.Proofs.Predicate.WireReading

/-! Hints of ordinary filters, in which connectives stand above comparisons,
null tests and memberships but not below them. What is left out of such a filter
is always a whole operand, so its hint, as a service reads it, lets through
every row that the filter wants. -/
namespace SharedTables
namespace WireForm

/-- A conjunction is TRUE where every one of its operands is. -/
theorem value_conjunction_iff {row : Row α} {forms : List WireForm} :
    (apply (.join .and) forms).value row = some (.truth true) ↔
      ∀ form ∈ forms, form.value row = some (.truth true) := by
  have neutral := @Connective.combineAll_eq_neutral_iff .and ((forms.map (value row)).map Cell.toTruth)
  simp only [Connective.neutral, List.forall_mem_map, Cell.toTruth_eq_some_iff] at neutral
  rw [value, values_eq_map, Row.apply, Cell.ofTruth_eq_truth_iff]
  exact neutral

theorem conjunction_eq_none_iff {forms : List WireForm} : conjunction forms = none ↔ forms = [] := by
  match forms with
  | [] | [_] | _ :: _ :: _ => simp [conjunction]

/-- Joining forms that are TRUE gives one that is. -/
theorem value_of_conjunction {row : Row α} {forms : List WireForm} {form : WireForm}
    (wanted : ∀ form ∈ forms, form.value row = some (.truth true))
    (joined : conjunction forms = some form) : form.value row = some (.truth true) := by
  match forms with
  | [] => cases joined
  | [single] =>
    cases joined
    exact wanted form List.mem_cons_self
  | first :: second :: rest =>
    cases joined
    exact value_conjunction_iff.mpr wanted

end WireForm

namespace Predicate

mutual
/-- Whether no connective occurs in a tree. -/
def unjoined : Predicate → Bool
  | .column _ _ | .literal _ _ | .unsupported _ | .foreign _ => true
  | .join _ _ _ => false
  | .compare _ left right => unjoined left && unjoined right
  | .not child | .isNull child => unjoined child
  | .isIn child values => unjoined child && unjoinedAll values

/-- Whether no connective occurs in several trees. -/
def unjoinedAll : List Predicate → Bool
  | [] => true
  | p :: rest => unjoined p && unjoinedAll rest
end

/-- No connective stands below a comparison, a null test or a membership. -/
def Ordinary : Predicate → Prop
  | .join _ left right => Ordinary left ∧ Ordinary right
  | .not child => Ordinary child
  | condition => condition.unjoined = true

theorem unjoinedAll_iff {ps : List Predicate} : unjoinedAll ps = true ↔ ∀ p ∈ ps, p.unjoined = true := by
  induction ps with
  | nil => simp [unjoinedAll]
  | cons p ps ih => simp [unjoinedAll, ih]

/-- A tree without connectives is pruned as a whole or not at all. -/
theorem prune_of_unjoined {t p : Predicate} (free : t.unjoined = true) (kept : prune negated t = some p) :
    p = t := by
  induction t generalizing negated p with
  | column name type =>
    obtain ⟨-, rfl⟩ := prune_column_eq_some_iff.mp kept
    rfl
  | literal value type =>
    obtain ⟨-, -, rfl⟩ := prune_literal_eq_some_iff.mp kept
    rfl
  | compare op left right leftIh rightIh =>
    obtain ⟨leftPart, rightPart, leftKept, rightKept, rfl⟩ := prune_compare_eq_some_iff.mp kept
    obtain ⟨leftFree, rightFree⟩ : left.unjoined = true ∧ right.unjoined = true := by
      simpa [unjoined] using free
    rw [leftIh leftFree leftKept, rightIh rightFree rightKept]
  | join op left right => simp [unjoined] at free
  | not child ih =>
    obtain ⟨part, childKept, rfl⟩ := prune_not_eq_some_iff.mp kept
    rw [ih (by simpa [unjoined] using free) childKept]
  | isNull child ih =>
    obtain ⟨part, childKept, rfl⟩ := prune_isNull_eq_some_iff.mp kept
    rw [ih (by simpa [unjoined] using free) childKept]
  | isIn child values ih valuesIh =>
    obtain ⟨part, parts, childKept, valuesKept, -, rfl⟩ := prune_isIn_eq_some_iff.mp kept
    obtain ⟨childFree, valuesFree⟩ : child.unjoined = true ∧ unjoinedAll values = true := by
      simpa [unjoined] using free
    have same : parts = values := by
      have each := unjoinedAll_iff.mp valuesFree
      clear kept free valuesFree
      induction valuesKept with
      | nil => rfl
      | cons headKept _ tailIh =>
        have head := valuesIh _ List.mem_cons_self (each _ List.mem_cons_self) headKept
        have tail := tailIh (fun p member => valuesIh p (List.mem_cons_of_mem _ member))
          fun p member => each p (List.mem_cons_of_mem _ member)
        rw [head, tail]
    rw [ih childFree childKept, same]
  | unsupported description => simp at kept
  | foreign kind => simp at kept

/-- Only operands of connectives are left out of an ordinary filter. -/
theorem keepsOperands_of_ordinary {t : Predicate} (ordinary : t.Ordinary) (negated : Bool) :
    KeepsOperands negated t := by
  induction t generalizing negated with
  | join op left right leftIh rightIh => exact ⟨leftIh ordinary.1 negated, rightIh ordinary.2 negated⟩
  | not child ih => exact ih ordinary (!negated)
  | column | literal | compare | isNull | isIn | unsupported | foreign =>
    exact fun p kept => prune_of_unjoined ordinary kept

/-- The hint of an ordinary filter is TRUE wherever the filter may be. -/
theorem value_of_ordinary {row : Row α} {t : Predicate} {form : WireForm} (ordinary : t.Ordinary)
    (wanted : row.Takes t (some (.truth true))) (sent : t.toWire? = some form) :
    form.value row = some (.truth true) := by
  have keeps := part_keeps_rows_of_kept_operands (keepsOperands_of_ordinary ordinary false)
  obtain unsent | ⟨form', sent', value⟩ := (hint_keeps_rows_iff_part t).mpr keeps α row wanted
  · rw [unsent] at sent
    cases sent
  · rw [sent] at sent'
    cases sent'
    exact value

theorem value_of_ordinary_conjunction {row : Row α} {ps : List Predicate} {form : WireForm}
    (ordinary : ∀ p ∈ ps, p.Ordinary) (wanted : ∀ p ∈ ps, row.Takes p (some (.truth true)))
    (sent : conjunctionToWire? ps = some form) : form.value row = some (.truth true) := by
  refine WireForm.value_of_conjunction (fun form member => ?_) sent
  obtain ⟨p, listed, wire⟩ := List.mem_filterMap.mp member
  exact value_of_ordinary (ordinary p listed) (wanted p listed) wire

/-- The form that is sent for ordinary filters is TRUE wherever all of them may be. -/
theorem value_of_ordinary_hintForm {settings : HintSettings} {partition data : List Predicate}
    {row : Row α} {form : WireForm} (ordinary : ∀ p ∈ partition ++ data, p.Ordinary)
    (wanted : ∀ p ∈ partition ++ data, row.Takes p (some (.truth true)))
    (sent : hintForm? settings partition data = some form) : form.value row = some (.truth true) := by
  obtain ⟨ordinaryFirst, ordinarySecond⟩ := List.forall_mem_append.mp ordinary
  obtain ⟨wantedFirst, wantedSecond⟩ := List.forall_mem_append.mp wanted
  have first {form : WireForm} (sent : conjunctionToWire? partition = some form) :
      form.value row = some (.truth true) := value_of_ordinary_conjunction ordinaryFirst wantedFirst sent
  have second {form : WireForm} (sent : conjunctionToWire? data = some form) :
      form.value row = some (.truth true) := value_of_ordinary_conjunction ordinarySecond wantedSecond sent
  unfold hintForm? at sent
  by_cases enabled : settings.enabled = true
  · by_cases both : settings.dataColumns = true
    · simp only [enabled, both, ↓reduceIte] at sent
      cases firstSent : conjunctionToWire? partition <;> cases secondSent : conjunctionToWire? data <;>
        rw [firstSent, secondSent] at sent <;> cases sent
      · exact second secondSent
      · exact first firstSent
      · rw [WireForm.value_conjunction_iff]
        simp only [List.mem_cons, List.not_mem_nil, or_false, forall_eq_or_imp, forall_eq]
        exact ⟨first firstSent, second secondSent⟩
    · simp only [enabled, both, Bool.false_eq_true, ↓reduceIte] at sent
      exact first sent
  · simp [enabled] at sent

theorem toWire_eq_none_iff {p : Predicate} : p.toWire? = none ↔ p.prune false = none := by
  cases kept : p.prune false with
  | none => simp [toWire?, kept]
  | some part =>
    obtain ⟨form, sent⟩ := pruned_has_wire_form kept
    simp [toWire?, kept, sent]

theorem conjunctionToWire_eq_none_iff {ps : List Predicate} :
    conjunctionToWire? ps = none ↔ ∀ p ∈ ps, p.prune false = none := by
  rw [conjunctionToWire?, WireForm.conjunction_eq_none_iff, List.filterMap_eq_nil_iff]
  simp only [toWire_eq_none_iff]

/-- Nothing is sent only where hints are switched off or no condition leaves a part that can be sent. -/
theorem hints_eq_none_iff {settings : HintSettings} {partition data : List Predicate} :
    hints? settings partition data = none ↔
      settings.enabled = false ∨ ∀ p ∈ carried settings partition data, p.prune false = none := by
  rw [hints?, Option.map_eq_none_iff, hintForm?, carried]
  by_cases enabled : settings.enabled = true
  · by_cases both : settings.dataColumns = true
    · simp only [enabled, both, ↓reduceIte, List.forall_mem_append, Bool.true_eq_false, false_or,
        ← conjunctionToWire_eq_none_iff]
      cases conjunctionToWire? partition <;> cases conjunctionToWire? data <;> simp
    · simp only [enabled, both, Bool.false_eq_true, ↓reduceIte, Bool.true_eq_false, false_or,
        conjunctionToWire_eq_none_iff]
  · simp [enabled]

/-- The hint of ordinary filters is read by the service as a condition that is
TRUE on every row on which all of the filters may be. Nothing is sent only where
nothing can be. -/
theorem ordinary_hints_keep_rows (settings : HintSettings) {partition data : List Predicate}
    (ordinary : ∀ p ∈ partition ++ data, p.Ordinary) (row : Row α)
    (wanted : ∀ p ∈ partition ++ data, row.Takes p (some (.truth true))) :
    (hints? settings partition data = none ↔
      settings.enabled = false ∨ ∀ p ∈ carried settings partition data, p.prune false = none) ∧
    ∀ text, hints? settings partition data = some text →
      ∃ form, WireForm.ofText? text = some form ∧ form.value row = some (.truth true) := by
  refine ⟨hints_eq_none_iff, ?_⟩
  intro text sent
  obtain ⟨form, formed, rfl⟩ := Option.map_eq_some_iff.mp sent
  exact ⟨form, form.ofText?_text, value_of_ordinary_hintForm ordinary wanted formed⟩

/-- A condition that cannot be sent is left out below a conjunction, and an
empty membership below a negated disjunction. -/
theorem hint_of_partly_sent_filters :
    let paid := Predicate.column "paid" "boolean"
    let late := Predicate.column "late" "boolean"
    let partition := [Predicate.join .and paid (.unsupported "udf")]
    let data := [Predicate.not (.join .or late (.isIn paid []))]
    let row : Row Unit := ⟨fun name _ => some (.truth (name = "paid")), fun _ _ => none, fun _ _ _ => none⟩
    ∃ text form, hints? ⟨true, true⟩ partition data = some text ∧ WireForm.ofText? text = some form ∧
      form.value row = some (.truth true) := by
  intro paid late partition data row
  have known : WireTag.ofEngine? "boolean" = some .boolean := by decide +kernel
  have ordinary : ∀ p ∈ partition ++ data, p.Ordinary := by
    simp [partition, data, paid, late, Ordinary, unjoined, unjoinedAll]
  have takesPaid : row.Takes paid (some (.truth true)) := by simp [paid, row, Row.Takes, known]
  have takesLate : row.Takes late (some (.truth false)) := by simp [late, row, Row.Takes, known]
  have takesEmpty : row.Takes (.isIn paid []) (some (.truth false)) :=
    ⟨_, [], takesPaid, rfl, rfl⟩
  have wanted : ∀ p ∈ partition ++ data, row.Takes p (some (.truth true)) := by
    intro p listed
    obtain rfl | rfl : p = .join .and paid (.unsupported "udf") ∨ p = .not (.join .or late (.isIn paid [])) := by
      simpa [partition, data] using listed
    · exact ⟨_, some (.truth true), takesPaid, trivial, rfl⟩
    · exact ⟨_, ⟨_, _, takesLate, takesEmpty, rfl⟩, rfl⟩
  obtain ⟨sent, reads⟩ := ordinary_hints_keep_rows ⟨true, true⟩ ordinary row wanted
  have kept : hints? ⟨true, true⟩ partition data ≠ none := by
    intro unsent
    have absent := (sent.mp unsent).resolve_left (by decide) _ List.mem_cons_self
    simp [prune, paid, known, Droppable] at absent
  obtain ⟨text, hint⟩ := Option.ne_none_iff_exists'.mp kept
  obtain ⟨form, read, value⟩ := reads text hint
  exact ⟨text, form, hint, read, value⟩

end Predicate
end SharedTables
