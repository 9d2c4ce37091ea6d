import SharedTables.Proofs.Predicate.Chains
import SharedTables.Proofs.Text.Quoted

/-! Which trees have the same canonical text. A text determines the canonical
form, and a form determines the tree but for the order and grouping of operands
that may be swapped, the order and repetition of the values of a membership,
and the names of types. Literals are told apart as long as both have a text. A
literal without one goes by its display, and that may be the text of another. -/
namespace SharedTables

/-- Among values without a text: null and null, the same bytes, and lists that
are displayed alike. -/
def Literal.SameWithoutText : Literal → Literal → Prop
  | .null, .null => True
  | .bytes b, .bytes b' => b = b'
  | .list items, .list items' => (Literal.list items).display = (Literal.list items').display
  | _, _ => False

/-- Two values that count as one: they have the same text, or neither has one
and nothing tells them apart. -/
def Literal.Same (value value' : Literal) : Prop :=
  (∃ text, value.render = some text ∧ value'.render = some text) ∨ value.SameWithoutText value'

/-- A value without a text goes by what is the text of another. -/
def Literal.PosesAs (value value' : Literal) : Prop :=
  value.render = none ∧ value'.render = some (Predicate.valueKey value)

namespace Predicate

section Literals
variable {value value' : Literal}

theorem valueKey_of_render (rendered : value.render = some text) : valueKey value = text := by
  simp [valueKey, rendered]

theorem unrendered_of_same (same : value.SameWithoutText value') :
    value.render = none ∧ value'.render = none := by
  unfold Literal.SameWithoutText at same
  split at same
  · exact ⟨rfl, rfl⟩
  · exact ⟨rfl, rfl⟩
  · exact ⟨rfl, rfl⟩
  · exact same.elim

/-- Null, bytes and lists are told apart by how their displays begin. -/
theorem valueKey_unrendered (unrendered : value.render = none) (unrendered' : value'.render = none) :
    valueKey value = valueKey value' ↔ value.SameWithoutText value' := by
  have begins (b : List UInt8) : (valueKey (.bytes b)).toList.head? = some 'b' := by
    simp [valueKey, Literal.render, Literal.display, Text.quotedBytes]
  have begins' (items : List Literal) : (valueKey (.list items)).toList.head? = some '[' := by
    simp [valueKey, Literal.render, Literal.display]
  have null : (valueKey .null).toList.head? = some 'n' := rfl
  have apart {v v' : Literal} (heads : (valueKey v).toList.head? ≠ (valueKey v').toList.head?) :
      valueKey v ≠ valueKey v' := fun same => heads (by rw [same])
  cases value <;> cases unrendered <;> cases value' <;> cases unrendered'
  case null.refl.null.refl => exact iff_of_true rfl trivial
  case bytes.refl.bytes.refl b b' => exact ⟨Text.quotedBytes_injective, congrArg Text.quotedBytes⟩
  case list.refl.list.refl items items' => exact Iff.rfl
  all_goals exact iff_of_false (apart (by simp [begins, begins', null])) id

/-- Values go by one text if they count as one, or if one of them has no text
and poses as the other. -/
theorem valueKey_eq_iff : valueKey value = valueKey value' ↔
    value.Same value' ∨ value.PosesAs value' ∨ value'.PosesAs value := by
  have unlike {v v' : Literal} (rendered : v.render ≠ none ∨ v'.render ≠ none) : ¬ v.SameWithoutText v' :=
    fun same => rendered.elim (· (unrendered_of_same same).1) (· (unrendered_of_same same).2)
  cases rendered : value.render with
  | none =>
    cases rendered' : value'.render with
    | none => simp [valueKey_unrendered, Literal.Same, Literal.PosesAs, rendered, rendered']
    | some text' =>
      simp [Literal.Same, Literal.PosesAs, rendered, rendered', unlike, valueKey_of_render rendered', eq_comm]
  | some text =>
    cases rendered' : value'.render with
    | none =>
      simp [Literal.Same, Literal.PosesAs, rendered, rendered', unlike, valueKey_of_render rendered]
    | some text' =>
      simp [Literal.Same, Literal.PosesAs, rendered, rendered', unlike, valueKey_of_render rendered,
        valueKey_of_render rendered', eq_comm]

end Literals

variable {same : Literal → Literal → Prop} {p q : Predicate} {op : Connective}

mutual
/-- The literals in a tree. -/
def literals : Predicate → List Literal
  | .column _ _ => []
  | .literal value _ => [value]
  | .compare _ left right => literals left ++ literals right
  | .join _ left right => literals left ++ literals right
  | .not child => literals child
  | .isNull child => literals child
  | .isIn child values => literals child ++ literalsAll values
  | .unsupported _ => []
  | .foreign _ => []

/-- The literals in several trees. -/
def literalsAll : List Predicate → List Literal
  | [] => []
  | p :: rest => literals p ++ literalsAll rest
end

attribute [local simp] literals foreign?

theorem literalsAll_eq_flatMap (ps : List Predicate) : literalsAll ps = ps.flatMap literals := by
  induction ps with
  | nil => rfl
  | cons p ps ih => simp [literalsAll, ih]

theorem foreignAmong_eq_none_iff {ps : List Predicate} :
    foreignAmong? ps = none ↔ ∀ p ∈ ps, p.foreign? = none := by
  induction ps with
  | nil => simp [foreignAmong?]
  | cons p ps ih => simp [foreignAmong?, ih]

/-- In two trees everything is a predicate, and literals that go by one text
are the same. -/
structure Comparable (same : Literal → Literal → Prop) (p q : Predicate) : Prop where
  whole : p.foreign? = none
  whole' : q.foreign? = none
  told : ∀ v ∈ p.literals, ∀ v' ∈ q.literals, valueKey v = valueKey v' → same v v'

/-- What a tree holds is comparable if the tree is. -/
theorem Comparable.inside {x y : Predicate} (comparable : Comparable same p q)
    (part : x.foreign? = none ∧ x.literals ⊆ p.literals) (part' : y.foreign? = none ∧ y.literals ⊆ q.literals) :
    Comparable same x y :=
  ⟨part.1, part'.1, fun v member v' member' => comparable.told v (part.2 member) v' (part'.2 member')⟩

theorem operand_part {x : Predicate} (whole : p.foreign? = none) (member : x ∈ operands op p) :
    x.foreign? = none ∧ x.literals ⊆ p.literals := by
  induction p with
  | join op' left right leftIh rightIh =>
    obtain ⟨wholeLeft, wholeRight⟩ : left.foreign? = none ∧ right.foreign? = none := by simpa using whole
    rw [operands] at member
    split at member
    · rcases List.mem_append.mp member with member | member
      · obtain ⟨whole, literals⟩ := leftIh wholeLeft member
        exact ⟨whole, List.Subset.trans literals (List.subset_append_left _ _)⟩
      · obtain ⟨whole, literals⟩ := rightIh wholeRight member
        exact ⟨whole, List.Subset.trans literals (List.subset_append_right _ _)⟩
    · obtain rfl := List.mem_singleton.mp member
      exact ⟨whole, List.Subset.refl _⟩
  | _ =>
    obtain rfl := List.mem_singleton.mp member
    exact ⟨whole, List.Subset.refl _⟩

theorem value_part {x child : Predicate} {values : List Predicate}
    (whole : (Predicate.isIn child values).foreign? = none) (member : x ∈ values) :
    x.foreign? = none ∧ x.literals ⊆ (Predicate.isIn child values).literals := by
  have among : foreignAmong? values = none := by
    simp only [foreign?, Option.or_eq_none_iff] at whole
    exact whole.1
  refine ⟨foreignAmong_eq_none_iff.mp among x member, fun v there => ?_⟩
  rw [literals, literalsAll_eq_flatMap]
  exact List.mem_append_right _ (List.mem_flatMap.mpr ⟨x, member, there⟩)

/-- Outside of chains a tree has one form. -/
theorem single_form (whole : p.foreign? = none) : ∃ form, p.canonicalForms none = [form] := by
  cases p with
  | foreign kind => cases whole
  | join op left right => simp [canonicalForms]
  | _ => exact ⟨_, rfl⟩

/-- The forms that a tree contributes to a chain are those of its operands. -/
theorem canonicalForms_chain (op : Connective) (p : Predicate) :
    p.canonicalForms (some op) = (operands op p).flatMap (canonicalForms none) := by
  induction p with
  | join op' left right leftIh rightIh =>
    by_cases own : op' = op
    · subst own
      simp [canonicalForms, operands, leftIh, rightIh]
    · have other : ¬ op = op' := fun same => own same.symm
      simp [canonicalForms, operands, own, other]
  | _ => simp [canonicalForms, operands]

/-- A form among those of several trees is the form of one of them. -/
theorem found_form {form : CanonicalForm} {qs : List Predicate} (whole : ∀ q ∈ qs, q.foreign? = none)
    (there : form ∈ qs.flatMap (canonicalForms none)) : ∃ q ∈ qs, q.canonicalForms none = [form] := by
  obtain ⟨q, member, has⟩ := List.mem_flatMap.mp there
  obtain ⟨own, only⟩ := single_form (whole q member)
  rw [only, List.mem_singleton] at has
  exact ⟨q, member, has ▸ only⟩

/-- Trees with the same forms, in whichever order, can be put next to each
other one by one. -/
theorem matched_of_perm {R : Predicate → Predicate → Prop} {ps qs : List Predicate}
    (whole : ∀ p ∈ ps, p.foreign? = none) (whole' : ∀ q ∈ qs, q.foreign? = none)
    (related : ∀ p ∈ ps, ∀ q ∈ qs, p.canonicalForms none = q.canonicalForms none → R p q)
    (forms : (ps.flatMap (canonicalForms none)).Perm (qs.flatMap (canonicalForms none))) :
    ∃ rs, rs.Perm qs ∧ List.Forall₂ R ps rs := by
  induction ps generalizing qs with
  | nil =>
    cases qs with
    | nil => exact ⟨[], .refl _, .nil⟩
    | cons q qs =>
      obtain ⟨form, only⟩ := single_form (whole' q List.mem_cons_self)
      simp [only] at forms
  | cons p ps ih =>
    obtain ⟨form, only⟩ := single_form (whole p List.mem_cons_self)
    have there : form ∈ qs.flatMap (canonicalForms none) := forms.mem_iff.mp (by simp [only])
    obtain ⟨q, member, only'⟩ := found_form whole' there
    obtain ⟨before, after, rfl⟩ := List.append_of_mem member
    have others : (ps.flatMap (canonicalForms none)).Perm ((before ++ after).flatMap (canonicalForms none)) := by
      have moved : ((before ++ q :: after).flatMap (canonicalForms none)).Perm
          ((q :: (before ++ after)).flatMap (canonicalForms none)) := List.perm_middle.flatMap_right _
      simpa only [List.flatMap_cons, only, only', List.singleton_append, List.perm_cons] using forms.trans moved
    have kept {r : Predicate} (member : r ∈ before ++ after) : r ∈ before ++ q :: after := by
      rw [List.mem_append] at member ⊢
      exact member.imp_right (List.mem_cons_of_mem q)
    obtain ⟨rs, order, each⟩ := ih (fun r member => whole r (List.mem_cons_of_mem p member))
      (fun r member => whole' r (kept member))
      (fun r member s member' => related r (List.mem_cons_of_mem p member) s (kept member')) others
    refine ⟨q :: rs, (order.cons q).trans List.perm_middle.symm, .cons ?_ each⟩
    exact related p List.mem_cons_self q member (only.trans only'.symm)

/-- A membership may take on values that are like those it has. -/
theorem isIn_more {child : Predicate} {values more : List Predicate}
    (like : ∀ w ∈ more, ∃ v ∈ values, Rearranged same v w) :
    Rearranged same (.isIn child values) (.isIn child (more ++ values)) := by
  induction more with
  | nil => exact .refl _
  | cons w more ih =>
    obtain ⟨v, member, rearranged⟩ := like w List.mem_cons_self
    have repeated : Rearranged same (.isIn child (more ++ values)) (.isIn child (v :: (more ++ values))) := by
      refine .sameValues child fun p => ?_
      rw [List.mem_cons, or_iff_right_of_imp]
      rintro rfl
      exact List.mem_append_right _ member
    have replaced : Rearranged same (.isIn child (v :: (more ++ values))) (.isIn child (w :: (more ++ values))) :=
      .inValue child [] (more ++ values) rearranged
    exact .trans (ih fun w member => like w (List.mem_cons_of_mem _ member)) (.trans repeated replaced)

/-- Memberships are rearranged if each value of one is like a value of the other. -/
theorem isIn_of_matched {child : Predicate} {values values' : List Predicate}
    (forth : ∀ v ∈ values, ∃ v' ∈ values', Rearranged same v v')
    (back : ∀ v' ∈ values', ∃ v ∈ values, Rearranged same v v') :
    Rearranged same (.isIn child values) (.isIn child values') := by
  have both : Rearranged same (.isIn child (values' ++ values)) (.isIn child (values ++ values')) :=
    .sameValues child fun p => by simp [or_comm]
  have reversed : ∀ v ∈ values, ∃ v' ∈ values', Rearranged same v' v := fun v member =>
    (forth v member).imp fun v' => And.imp_right .symm
  exact .trans (isIn_more back) (.trans both (.symm (isIn_more reversed)))

/-- The form of a tree determines it but for rearrangement. -/
def Determined (same : Literal → Literal → Prop) (p : Predicate) : Prop :=
  ∀ q, Comparable same p q → p.canonicalForms none = q.canonicalForms none → Rearranged same p q

/-- A chain is determined if its operands are. -/
theorem determined_join {left right : Predicate}
    (each : ∀ x ∈ operands op (.join op left right), Determined same x) :
    Determined same (.join op left right) := by
  intro q comparable forms
  cases q with
  | join op' left' right' =>
    simp only [canonicalForms, reduceCtorEq, ↓reduceIte, List.cons.injEq, CanonicalForm.apply.injEq,
      WireOperator.join.injEq, and_true] at forms
    obtain ⟨rfl, forms⟩ := forms
    let p := Predicate.join op left right
    let q := Predicate.join op left' right'
    have perm : ((operands op p).flatMap (canonicalForms none)).Perm
        ((operands op q).flatMap (canonicalForms none)) := by
      have sorted := (CanonicalForm.sorted_perm _).symm.trans (forms ▸ CanonicalForm.sorted_perm _)
      simpa [p, q, operands, canonicalForms_chain] using sorted.symm
    have part {x : Predicate} (member : x ∈ operands op p) := operand_part comparable.whole member
    have part' {x : Predicate} (member : x ∈ operands op q) := operand_part comparable.whole' member
    obtain ⟨rs, order, matched⟩ := matched_of_perm (fun x member => (part member).1)
      (fun y member => (part' member).1)
      (fun x member y member' => each x member y (comparable.inside (part member) (part' member'))) perm
    calc
      Rearranged same p (chain op (operands op p)) := rearranged_chain op p
      Rearranged same _ (chain op rs) := chain_forall₂ matched
      Rearranged same _ (chain op (operands op q)) := chain_perm order
      Rearranged same _ q := .symm (rearranged_chain op q)
  | compare op' left' right' => simp [canonicalForms] at forms
  | _ => simp [canonicalForms] at forms

theorem compare_part {x left right : Predicate} {op : Comparison}
    (whole : (Predicate.compare op left right).foreign? = none) (side : x = left ∨ x = right) :
    x.foreign? = none ∧ x.literals ⊆ (Predicate.compare op left right).literals := by
  obtain ⟨wholeLeft, wholeRight⟩ : left.foreign? = none ∧ right.foreign? = none := by simpa using whole
  rcases side with rfl | rfl
  · exact ⟨wholeLeft, List.subset_append_left _ _⟩
  · exact ⟨wholeRight, List.subset_append_right _ _⟩

/-- A comparison is determined if its operands are. Those of an equality may
have changed places. -/
theorem determined_compare {left right : Predicate} {op : Comparison} (ownLeft : Determined same left)
    (ownRight : Determined same right) : Determined same (.compare op left right) := by
  intro q comparable forms
  cases q with
  | compare op' left' right' =>
    have parts {x y : Predicate} (side : x = left ∨ x = right) (side' : y = left' ∨ y = right') :
        Comparable same x y :=
      comparable.inside (compare_part comparable.whole side) (compare_part comparable.whole' side')
    have comparableLeft := parts (.inl rfl) (.inl rfl)
    have comparableRight := parts (.inr rfl) (.inr rfl)
    obtain ⟨f, onlyLeft⟩ := single_form comparableLeft.whole
    obtain ⟨g, onlyRight⟩ := single_form comparableRight.whole
    obtain ⟨f', onlyLeft'⟩ := single_form comparableLeft.whole'
    obtain ⟨g', onlyRight'⟩ := single_form comparableRight.whole'
    simp only [canonicalForms, onlyLeft, onlyRight, onlyLeft', onlyRight', List.singleton_append,
      List.cons.injEq, CanonicalForm.apply.injEq, WireOperator.compare.injEq, and_true] at forms
    obtain ⟨rfl, forms⟩ := forms
    have ordered (sameLeft : f = f') (sameRight : g = g') :
        Rearranged same (.compare op left right) (.compare op left' right') :=
      .inCompare op (ownLeft left' comparableLeft (by rw [onlyLeft, onlyLeft', sameLeft]))
        (ownRight right' comparableRight (by rw [onlyRight, onlyRight', sameRight]))
    by_cases equality : op = .equal
    · subst equality
      have perm : ([f, g] : List CanonicalForm).Perm [f', g'] := by
        simp only [↓reduceIte] at forms
        exact (CanonicalForm.sorted_perm _).symm.trans (forms ▸ CanonicalForm.sorted_perm _)
      rcases List.perm_pair.mp perm with order | order
      · obtain ⟨sameLeft, sameRight⟩ : f = f' ∧ g = g' := by simpa using order
        exact ordered sameLeft sameRight
      · obtain ⟨sameLeft, sameRight⟩ : f = g' ∧ g = f' := by simpa using order
        have swapped : Rearranged same (.compare .equal left right) (.compare .equal right' left') :=
          .inCompare .equal (ownLeft right' (parts (.inl rfl) (.inr rfl)) (by rw [onlyLeft, onlyRight', sameLeft]))
            (ownRight left' (parts (.inr rfl) (.inl rfl)) (by rw [onlyRight, onlyLeft', sameRight]))
        exact .trans swapped (.swapEqual right' left')
    · obtain ⟨sameLeft, sameRight⟩ : f = f' ∧ g = g' := by simpa [equality] using forms
      exact ordered sameLeft sameRight
  | join op' left' right' => simp [canonicalForms] at forms
  | _ => simp [canonicalForms] at forms

/-- A membership is determined if its child and its values are. -/
theorem determined_isIn {child : Predicate} {values : List Predicate} (ownChild : Determined same child)
    (own : ∀ v ∈ values, Determined same v) : Determined same (.isIn child values) := by
  intro q comparable forms
  cases q with
  | isIn child' values' =>
    have comparableChild : Comparable same child child' := by
      have wholeChild : child.foreign? = none ∧ child'.foreign? = none := by
        have whole := comparable.whole
        have whole' := comparable.whole'
        simp only [foreign?, Option.or_eq_none_iff] at whole whole'
        exact ⟨whole.2, whole'.2⟩
      exact comparable.inside ⟨wholeChild.1, List.subset_append_left _ _⟩ ⟨wholeChild.2, List.subset_append_left _ _⟩
    obtain ⟨f, only⟩ := single_form comparableChild.whole
    obtain ⟨f', only'⟩ := single_form comparableChild.whole'
    simp only [canonicalForms, only, only', List.singleton_append, List.cons.injEq, CanonicalForm.apply.injEq,
      and_true, true_and, canonicalFormsAll_eq_flatMap] at forms
    obtain ⟨rfl, forms⟩ := forms
    have members (g : CanonicalForm) : g ∈ values.flatMap (canonicalForms none) ↔
        g ∈ values'.flatMap (canonicalForms none) := by
      rw [← CanonicalForm.mem_distinctSorted, forms, CanonicalForm.mem_distinctSorted]
    have comparableValues {v v' : Predicate} (member : v ∈ values) (member' : v' ∈ values') : Comparable same v v' :=
      comparable.inside (value_part comparable.whole member) (value_part comparable.whole' member')
    have inside : Rearranged same (.isIn child values) (.isIn child' values) :=
      .inChild values (ownChild child' comparableChild (only.trans only'.symm))
    have found {xs ys : List Predicate} (whole : ∀ x ∈ xs, x.foreign? = none) (whole' : ∀ y ∈ ys, y.foreign? = none)
        (sub : ∀ g ∈ xs.flatMap (canonicalForms none), g ∈ ys.flatMap (canonicalForms none)) :
        ∀ x ∈ xs, ∃ y ∈ ys, x.canonicalForms none = y.canonicalForms none := by
      intro x member
      obtain ⟨g, only⟩ := single_form (whole x member)
      obtain ⟨y, member', only'⟩ := found_form whole' (sub g (List.mem_flatMap.mpr ⟨x, member, by simp [only]⟩))
      exact ⟨y, member', only.trans only'.symm⟩
    have whole (v : Predicate) (member : v ∈ values) := (value_part comparable.whole member).1
    have whole' (v : Predicate) (member : v ∈ values') := (value_part comparable.whole' member).1
    refine .trans inside (isIn_of_matched (fun v member => ?_) fun v' member' => ?_)
    · obtain ⟨v', member', forms⟩ := found whole whole' (fun g => (members g).mp) v member
      exact ⟨v', member', own v member v' (comparableValues member member') forms⟩
    · obtain ⟨v, member, forms⟩ := found whole' whole (fun g => (members g).mpr) v' member'
      exact ⟨v, member, own v member v' (comparableValues member member') forms.symm⟩
  | _ => simp [canonicalForms] at forms

/-- Every tree is determined, and so is every operand of a chain that it is. -/
theorem determined (p : Predicate) : Determined same p ∧ ∀ op, ∀ x ∈ operands op p, Determined same x := by
  -- An operand of a chain may lie deep inside of it, so that the induction has to carry all of them.
  have alone {p : Predicate} (single : ∀ op, operands op p = [p]) (own : Determined same p) :
      Determined same p ∧ ∀ op, ∀ x ∈ operands op p, Determined same x := by
    refine ⟨own, fun op x member => ?_⟩
    rw [single op, List.mem_singleton] at member
    rwa [member]
  induction p with
  | column name type =>
    refine alone (fun _ => rfl) fun q comparable forms => ?_
    cases q with
    | column name' type' =>
      simp only [canonicalForms, List.cons.injEq, CanonicalForm.column.injEq, and_true] at forms
      obtain ⟨rfl, types⟩ := forms
      exact .column name (typeKey_eq_iff.mp types)
    | _ => simp [canonicalForms] at forms
  | literal value type =>
    refine alone (fun _ => rfl) fun q comparable forms => ?_
    cases q with
    | literal value' type' =>
      simp only [canonicalForms, List.cons.injEq, CanonicalForm.literal.injEq, and_true] at forms
      have told := comparable.told value (by simp) value' (by simp) forms.2
      exact .literal (typeKey_eq_iff.mp forms.1) told
    | _ => simp [canonicalForms] at forms
  | not child ih =>
    refine alone (fun _ => rfl) fun q comparable forms => ?_
    cases q with
    | not child' =>
      have forms : child.canonicalForms none = child'.canonicalForms none := by
        simpa [canonicalForms] using forms
      have inside : Comparable same child child' := ⟨comparable.whole, comparable.whole', comparable.told⟩
      exact .inNot (ih.1 child' inside forms)
    | _ => simp [canonicalForms] at forms
  | isNull child ih =>
    refine alone (fun _ => rfl) fun q comparable forms => ?_
    cases q with
    | isNull child' =>
      have forms : child.canonicalForms none = child'.canonicalForms none := by
        simpa [canonicalForms] using forms
      have inside : Comparable same child child' := ⟨comparable.whole, comparable.whole', comparable.told⟩
      exact .inIsNull (ih.1 child' inside forms)
    | _ => simp [canonicalForms] at forms
  | compare op left right leftIh rightIh => exact alone (fun _ => rfl) (determined_compare leftIh.1 rightIh.1)
  | join op left right leftIh rightIh =>
    have own (op' : Connective) (member : op = op') (x : Predicate)
        (member : x ∈ operands op' left ++ operands op' right) : Determined same x :=
      (List.mem_append.mp member).elim (leftIh.2 op' x) (rightIh.2 op' x)
    have whole : Determined same (.join op left right) := by
      refine determined_join fun x member => ?_
      rw [operands, if_pos rfl] at member
      exact own op rfl x member
    refine ⟨whole, fun op' x member => ?_⟩
    rw [operands] at member
    split at member
    · exact own op' ‹_› x member
    · rwa [List.mem_singleton.mp member]
  | isIn child values ih valuesIh =>
    exact alone (fun _ => rfl) (determined_isIn ih.1 fun v member => (valuesIh v member).1)
  | unsupported description =>
    refine alone (fun _ => rfl) fun q comparable forms => ?_
    cases q with
    | unsupported description' =>
      simp only [canonicalForms, List.cons.injEq, CanonicalForm.unsupported.injEq, and_true] at forms
      rw [forms]
      exact .refl _
    | _ => simp [canonicalForms] at forms
  | foreign kind =>
    refine alone (fun _ => rfl) fun q comparable forms => ?_
    have whole := comparable.whole
    cases whole

theorem canonical_eq_ok_iff {text : String} :
    p.canonical = .ok text ↔ p.foreign? = none ∧ text = String.join (p.canonicalIn none) := by
  unfold canonical
  cases p.foreign? <;> simp [eq_comm]

/-- Trees with the same canonical text are the same but for rearrangement, if
literals that go by one text are the same. -/
theorem rearranged_of_same_text (comparable : Comparable same p q)
    (texts : String.join (p.canonicalIn none) = String.join (q.canonicalIn none)) : Rearranged same p q := by
  rw [canonicalIn_eq_map_text, canonicalIn_eq_map_text] at texts
  exact (determined p).1 q comparable (CanonicalForm.join_text_injective texts)

/-- Two trees have the same canonical text exactly if they are the same but for
the order and grouping of operands that may be swapped, the order and
repetition of the values of memberships, names of types that count as one, and
literals that count as one or one of which has no text and poses as the other.
So canonical texts separate trees in which no literal poses as another. -/
theorem same_canonical_text_iff {text text' : String} (described : p.canonical = .ok text)
    (described' : q.canonical = .ok text') :
    (text = text' ↔ Rearranged (fun v v' => v.Same v' ∨ v.PosesAs v' ∨ v'.PosesAs v) p q) ∧
    ((∀ v ∈ p.literals, ∀ v' ∈ q.literals, ¬ v.PosesAs v' ∧ ¬ v'.PosesAs v) →
      (text = text' ↔ Rearranged Literal.Same p q)) := by
  obtain ⟨whole, rfl⟩ := canonical_eq_ok_iff.mp described
  obtain ⟨whole', rfl⟩ := canonical_eq_ok_iff.mp described'
  have texts_eq {same : Literal → Literal → Prop} (go : ∀ v v', same v v' → valueKey v = valueKey v')
      (rearranged : Rearranged same p q) : String.join (p.canonicalIn none) = String.join (q.canonicalIn none) :=
    congrArg String.join (own_texts_eq (rearranged.texts_perm go none))
  refine ⟨⟨fun texts => ?_, texts_eq fun v v' => valueKey_eq_iff.mpr⟩, fun honest => ⟨fun texts => ?_, ?_⟩⟩
  · exact rearranged_of_same_text ⟨whole, whole', fun v _ v' _ => valueKey_eq_iff.mp⟩ texts
  · refine rearranged_of_same_text ⟨whole, whole', fun v member v' member' keys => ?_⟩ texts
    obtain ⟨notThere, notBack⟩ := honest v member v' member'
    exact (valueKey_eq_iff.mp keys).resolve_right (not_or.mpr ⟨notThere, notBack⟩)
  · exact texts_eq fun v v' same => valueKey_eq_iff.mpr (.inl same)

/-- Swapped, regrouped and repeated operands and another name of a type do not
show in the text. -/
theorem rearranged_filters_share_text :
    let a : Predicate := .compare .equal (.column "a" "int") (.literal (.int 1) "int")
    let b : Predicate := .isNull (.column "b" "decimal(10,2)")
    let c (values : List Predicate) : Predicate := .isIn (.column "c" "varchar") values
    let x : Predicate := .literal (.text "x") "string"
    let y : Predicate := .literal (.bytes [7]) "string"
    let p : Predicate := .join .and (.join .and a b) (c [x, y])
    let q : Predicate := .join .and (.join .and (.isNull (.column "b" "DECIMAL(10,2)")) (c [y, x, y]))
      (.compare .equal (.literal (.int 1) "integer") (.column "a" "int"))
    ∃ text, p.canonical = .ok text ∧ q.canonical = .ok text := by
  intro a b c x y p q
  have described : p.canonical = .ok (String.join (p.canonicalIn none)) := canonical_eq_ok_iff.mpr ⟨rfl, rfl⟩
  have described' : q.canonical = .ok (String.join (q.canonicalIn none)) := canonical_eq_ok_iff.mpr ⟨rfl, rfl⟩
  have honest : ∀ v ∈ p.literals, ∀ v' ∈ q.literals, ¬ v.PosesAs v' ∧ ¬ v'.PosesAs v := by
    have key : valueKey (.bytes [7]) = "b'\\x07'" := by decide +kernel
    have number : Int.repr 1 ≠ "b'\\x07'" := by decide +kernel
    simp [p, q, a, b, c, x, y, literalsAll, Literal.PosesAs, Literal.render, key, number]
  have integer : SameType "int" "integer" := ⟨by decide +kernel, fun none => absurd none (by decide +kernel)⟩
  have decimal : SameType "decimal(10,2)" "DECIMAL(10,2)" := ⟨by decide +kernel, fun _ => by decide +kernel⟩
  have one : Literal.Same (.int 1) (.int 1) := .inl ⟨_, rfl, rfl⟩
  have equality : Rearranged Literal.Same a (.compare .equal (.literal (.int 1) "integer") (.column "a" "int")) :=
    .trans (.swapEqual _ _) (.inCompare .equal (.literal integer one) (.refl _))
  have test : Rearranged Literal.Same b (.isNull (.column "b" "DECIMAL(10,2)")) := .inIsNull (.column "b" decimal)
  have values : Rearranged Literal.Same (c [x, y]) (c [y, x, y]) := .sameValues _ (by simp [or_comm])
  have rearranged : Rearranged Literal.Same p q := calc
    Rearranged Literal.Same p (.join .and a (.join .and b (c [x, y]))) := .regroup .and _ _ _
    Rearranged Literal.Same _ (.join .and (.join .and b (c [x, y])) a) := .swapJoin .and _ _
    Rearranged Literal.Same _ q := .inJoin .and (.inJoin .and test values) equality
  refine ⟨_, described, ?_⟩
  rw [((same_canonical_text_iff described described').2 honest).mpr rearranged]
  exact described'

/-- What a tree is as a literal: its text, if it has one. -/
def literalText? : Predicate → Option (Option String)
  | .literal value _ => some value.render
  | _ => none

theorem literalText?_eq (rearranged : Rearranged Literal.Same p q) : p.literalText? = q.literalText? := by
  induction rearranged with
  | symm _ ih => exact ih.symm
  | trans _ _ first second => exact first.trans second
  | literal types values =>
    obtain ⟨text, rendered, rendered'⟩ | same := values
    · simp [literalText?, rendered, rendered']
    · obtain ⟨unrendered, unrendered'⟩ := unrendered_of_same same
      simp [literalText?, unrendered, unrendered']
  | _ => rfl

/-- Null shares its canonical text with the word for it. -/
theorem null_shares_text_with_word : ¬ ∀ (p q : Predicate) (text : String), p.canonical = .ok text →
    q.canonical = .ok text → Rearranged Literal.Same p q := by
  intro separated
  let null : Predicate := .literal .null "string"
  let word : Predicate := .literal (.text "null") "string"
  have rearranged := separated null word (String.join (null.canonicalIn none))
    (canonical_eq_ok_iff.mpr ⟨rfl, rfl⟩) (canonical_eq_ok_iff.mpr ⟨rfl, rfl⟩)
  have texts := literalText?_eq rearranged
  cases texts

end Predicate
end SharedTables
