import SharedTables.Proofs.Predicate.Rearrangement
import SharedTables.Proofs.Predicate.TypeNames

/-! Trees that differ in arrangement only. Operands that may be swapped,
chains that may be regrouped, values that may be repeated and names of one type
leave the canonical text as it is. A chain can be put together anew from its
operands, in any order. -/
namespace SharedTables.Predicate

/-- One tree is another but for what a canonical text leaves out: the order of
the operands of an equality or a connective, the grouping of connectives, the
order and repetition of the values of a membership, the name of a type, and
literals that are the same in a given sense. -/
inductive Rearranged (same : Literal → Literal → Prop) : Predicate → Predicate → Prop
  | refl (p) : Rearranged same p p
  | symm (there : Rearranged same p q) : Rearranged same q p
  | trans (first : Rearranged same p q) (second : Rearranged same q r) : Rearranged same p r
  | column (name) (types : SameType type type') : Rearranged same (.column name type) (.column name type')
  | literal (types : SameType type type') (values : same value value') :
      Rearranged same (.literal value type) (.literal value' type')
  | swapEqual (left right) : Rearranged same (.compare .equal left right) (.compare .equal right left)
  | swapJoin (op left right) : Rearranged same (.join op left right) (.join op right left)
  | regroup (op a b c) : Rearranged same (.join op (.join op a b) c) (.join op a (.join op b c))
  | sameValues (child) (members : ∀ p, p ∈ values ↔ p ∈ values') :
      Rearranged same (.isIn child values) (.isIn child values')
  | inNot (inside : Rearranged same p q) : Rearranged same (.not p) (.not q)
  | inIsNull (inside : Rearranged same p q) : Rearranged same (.isNull p) (.isNull q)
  | inCompare (op) (left : Rearranged same p q) (right : Rearranged same p' q') :
      Rearranged same (.compare op p p') (.compare op q q')
  | inJoin (op) (left : Rearranged same p q) (right : Rearranged same p' q') :
      Rearranged same (.join op p p') (.join op q q')
  | inChild (values) (inside : Rearranged same p q) : Rearranged same (.isIn p values) (.isIn q values)
  | inValue (child before after) (inside : Rearranged same p q) :
      Rearranged same (.isIn child (before ++ p :: after)) (.isIn child (before ++ q :: after))

variable {same : Literal → Literal → Prop} {p q : Predicate} {op : Connective}

instance : Trans (Rearranged same) (Rearranged same) (Rearranged same) := ⟨.trans⟩

/-- Outside of chains texts that are the same but for their order are the same. -/
theorem own_texts_eq (texts : (p.canonicalIn none).Perm (q.canonicalIn none)) :
    p.canonicalIn none = q.canonicalIn none := by
  rw [← sorted_canonicalIn_none p, ← sorted_canonicalIn_none q, Text.sorted_congr texts]

/-- A tree that is rearranged has the same texts, if literals that are the same
go by the same text. In a chain their order may differ. -/
theorem Rearranged.texts_perm (go : ∀ v v', same v v' → valueKey v = valueKey v')
    (rearranged : Rearranged same p q) (outer : Option Connective) :
    (p.canonicalIn outer).Perm (q.canonicalIn outer) := by
  induction rearranged generalizing outer with
  | refl p => exact .refl _
  | symm _ ih => exact (ih outer).symm
  | trans _ _ first second => exact (first outer).trans (second outer)
  | column name types => rw [canonicalIn, canonicalIn, typeKey_eq_iff.mpr types]
  | literal types values => rw [canonicalIn, canonicalIn, typeKey_eq_iff.mpr types, go _ _ values]
  | swapEqual left right => simp [canonicalIn, Text.sorted_append_comm]
  | swapJoin op left right =>
    simp only [canonicalIn]
    split
    · exact List.perm_append_comm
    · rw [Text.sorted_append_comm]
  | regroup op a b c => simp [canonicalIn]
  | @sameValues values values' child members =>
    have texts : Text.distinctSorted (canonicalAll values) = Text.distinctSorted (canonicalAll values') :=
      Text.distinctSorted_congr fun s => by simp only [canonicalAll_eq_flatMap, List.mem_flatMap, members]
    rw [canonicalIn, canonicalIn, texts]
  | inNot _ ih => rw [canonicalIn, canonicalIn, own_texts_eq (ih none)]
  | inIsNull _ ih => rw [canonicalIn, canonicalIn, own_texts_eq (ih none)]
  | inCompare op _ _ leftIh rightIh =>
    rw [canonicalIn, canonicalIn, own_texts_eq (leftIh none), own_texts_eq (rightIh none)]
  | inJoin op _ _ leftIh rightIh =>
    have operands := (leftIh (some op)).append (rightIh (some op))
    simp only [canonicalIn]
    split
    · exact operands
    · rw [Text.sorted_congr operands]
  | inChild values _ ih => rw [canonicalIn, canonicalIn, own_texts_eq (ih none)]
  | inValue child before after _ ih =>
    simp only [canonicalIn, canonicalAll_eq_flatMap, List.flatMap_append, List.flatMap_cons,
      own_texts_eq (ih none)]
    exact .refl _

/-! ## Chains of operands -/

/-- The operands of a chain of one connective; what is no such chain is its own
operand. -/
def operands (op : Connective) : Predicate → List Predicate
  | .join op' left right =>
    if op' = op then operands op left ++ operands op right else [.join op' left right]
  | p => [p]

/-- A chain put together from operands, grouped to the right. -/
def chain (op : Connective) : List Predicate → Predicate
  | [] => .unsupported ""
  | [p] => p
  | p :: q :: rest => .join op p (chain op (q :: rest))

theorem chain_cons {ps : List Predicate} (some : ps ≠ []) : chain op (p :: ps) = .join op p (chain op ps) := by
  cases ps with
  | nil => exact absurd rfl some
  | cons q rest => rfl

theorem operands_ne_nil (op : Connective) (p : Predicate) : operands op p ≠ [] := by
  induction p with
  | join op' left right leftIh _ =>
    rw [operands]
    split
    · exact List.append_ne_nil_of_left_ne_nil leftIh _
    · exact List.cons_ne_nil _ _
  | _ => exact List.cons_ne_nil _ _

theorem chain_append {ps qs : List Predicate} (some : ps ≠ []) (some' : qs ≠ []) :
    Rearranged same (.join op (chain op ps) (chain op qs)) (chain op (ps ++ qs)) := by
  induction ps with
  | nil => exact absurd rfl some
  | cons p ps ih =>
    by_cases last : ps = []
    · subst last
      rw [List.singleton_append, chain_cons some']
      exact .refl _
    · rw [List.cons_append, chain_cons last, chain_cons (List.append_ne_nil_of_left_ne_nil last qs)]
      exact .trans (.regroup op _ _ _) (.inJoin op (.refl p) (ih last))

/-- A chain may be put together anew from its operands. -/
theorem rearranged_chain (op : Connective) (p : Predicate) : Rearranged same p (chain op (operands op p)) := by
  induction p with
  | join op' left right leftIh rightIh =>
    rw [operands]
    split
    · rename_i own
      subst own
      exact .trans (.inJoin op' leftIh rightIh) (chain_append (operands_ne_nil _ _) (operands_ne_nil _ _))
    · exact .refl _
  | _ => exact .refl _

/-- The order of the operands of a chain does not matter. -/
theorem chain_perm {ps qs : List Predicate} (order : ps.Perm qs) : Rearranged same (chain op ps) (chain op qs) := by
  induction order with
  | nil => exact .refl _
  | @cons p ps qs order ih =>
    by_cases last : ps = []
    · subst last
      rw [order.nil_eq]
      exact .refl _
    · rw [chain_cons last, chain_cons fun none => last (List.Perm.eq_nil (none ▸ order))]
      exact .inJoin op (.refl p) ih
  | swap p q rest =>
    cases rest with
    | nil => exact .swapJoin op q p
    | cons r rest =>
      have inner : Rearranged same (.join op q p) (.join op p q) := .swapJoin op q p
      exact .trans (.symm (.regroup op q p _)) (.trans (.inJoin op inner (.refl _)) (.regroup op p q _))
  | trans _ _ first second => exact .trans first second

theorem chain_forall₂ {ps qs : List Predicate} (each : List.Forall₂ (Rearranged same) ps qs) :
    Rearranged same (chain op ps) (chain op qs) := by
  induction each with
  | nil => exact .refl _
  | @cons p q ps qs head tail ih =>
    cases tail with
    | nil => exact head
    | cons _ _ => exact .inJoin op head ih

end SharedTables.Predicate
