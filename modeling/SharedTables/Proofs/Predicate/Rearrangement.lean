import Mathlib.Logic.Relation
import SharedTables.Proofs.Predicate.Trees
import SharedTables.Proofs.Text.Sorted
import SharedTables.Scan.Fingerprint

/-! Conditions that say the same in another way. Order, grouping and repetition
of operands are undone by the canonical text, and pruning treats both ways
alike, at every depth and under every number of negations. So they never make
another request of a scan. -/
namespace SharedTables.Predicate

/-- One way to write a tree differently, at the root or anywhere inside. -/
inductive Rewrite : Predicate → Predicate → Prop
  | swapEqual (left right) : Rewrite (.compare .equal left right) (.compare .equal right left)
  | swapJoin (op left right) : Rewrite (.join op left right) (.join op right left)
  | regroup (op a b c) : Rewrite (.join op (.join op a b) c) (.join op a (.join op b c))
  | permuteValues (child) (order : List.Perm values values') :
      Rewrite (.isIn child values) (.isIn child values')
  | repeatValue (child) (member : value ∈ values) :
      Rewrite (.isIn child values) (.isIn child (value :: values))
  | renameColumnType (name) (same : WireTag.ofEngine? type = WireTag.ofEngine? type') :
      Rewrite (.column name type) (.column name type')
  | renameLiteralType (value) (same : WireTag.ofEngine? type = WireTag.ofEngine? type') :
      Rewrite (.literal value type) (.literal value type')
  | belowNot (inside : Rewrite p q) : Rewrite (.not p) (.not q)
  | belowIsNull (inside : Rewrite p q) : Rewrite (.isNull p) (.isNull q)
  | leftOfCompare (op right) (inside : Rewrite p q) :
      Rewrite (.compare op p right) (.compare op q right)
  | rightOfCompare (op left) (inside : Rewrite p q) :
      Rewrite (.compare op left p) (.compare op left q)
  | leftOfJoin (op right) (inside : Rewrite p q) : Rewrite (.join op p right) (.join op q right)
  | rightOfJoin (op left) (inside : Rewrite p q) : Rewrite (.join op left p) (.join op left q)
  | childOfIsIn (values) (inside : Rewrite p q) : Rewrite (.isIn p values) (.isIn q values)
  | valueOfIsIn (child before after) (inside : Rewrite p q) :
      Rewrite (.isIn child (before ++ p :: after)) (.isIn child (before ++ q :: after))

/-- One way to write conditions that all have to hold differently. -/
inductive Restate : List Predicate → List Predicate → Prop
  | permute (order : List.Perm ps qs) : Restate ps qs
  | repeatMember (member : p ∈ ps) : Restate ps (p :: ps)
  | splitAnd (left right ps) : Restate (.join .and left right :: ps) (left :: right :: ps)
  | rewriteMember (ps) (inside : Rewrite p q) : Restate (p :: ps) (q :: ps)
  | dropUnsent (ps) (unsent : prune false p = none) : Restate (p :: ps) ps

/-- The canonical texts that the part of a tree that can be sent contributes
to a chain of `outer`, in order; none if nothing can be sent. -/
def partTexts (negated : Bool) (outer : Option Connective) (p : Predicate) : Option (List String) :=
  (prune negated p).map fun part => Text.sorted (part.canonicalIn outer)

/-- Outside of chains a tree has one text at most. -/
theorem sorted_canonicalIn_none (p : Predicate) : Text.sorted (p.canonicalIn none) = p.canonicalIn none := by
  cases p <;> simp [canonicalIn, Text.sorted]

/-- The texts of a chain of operands, seen from a chain of `outer`. -/
def chainTexts (outer : Option Connective) (op : Connective) (operands : List String) : List String :=
  if outer = some op then Text.sorted operands
  else [node "B" (atom op.name :: Text.sorted operands)]

/-- The texts of several trees together, if each of them can be sent. -/
def gatherTexts (texts : List (Option (List String))) : Option (List String) :=
  if none ∈ texts then none else some (texts.flatMap (·.getD []))

theorem chainTexts_congr {xs ys : List String} (same : xs.Perm ys) :
    chainTexts outer op xs = chainTexts outer op ys := by
  simp only [chainTexts, Text.sorted_congr same]

/-- Which texts trees have counts, not in which order or how often. -/
theorem gatherTexts_congr {texts texts' : List (Option (List String))}
    (same : ∀ t, t ∈ texts ↔ t ∈ texts') :
    (gatherTexts texts).map Text.distinctSorted = (gatherTexts texts').map Text.distinctSorted := by
  have members : Text.distinctSorted (texts.flatMap (·.getD [])) =
      Text.distinctSorted (texts'.flatMap (·.getD [])) :=
    Text.distinctSorted_congr fun s => by simp only [List.mem_flatMap, same]
  by_cases unsent : none ∈ texts
  · simp [gatherTexts, unsent, (same none).mp unsent]
  · simp [gatherTexts, unsent, mt (same none).mpr unsent, members]

section Equations
variable (negated : Bool) (outer : Option Connective)

theorem partTexts_column : partTexts negated outer (.column name type) =
    (WireTag.ofEngine? type).map fun tag => [node "C" [atom name, atom tag.name]] := by
  cases known : WireTag.ofEngine? type <;> simp [partTexts, prune, canonicalIn, typeKey, known]

theorem partTexts_literal {value : Literal} : partTexts negated outer (.literal value type) =
    (WireTag.ofEngine? type).bind fun tag =>
      value.render.map fun text => [node "L" [atom tag.name, atom text]] := by
  cases known : WireTag.ofEngine? type <;> cases rendered : value.render <;>
    simp [partTexts, prune, canonicalIn, typeKey, valueKey, known, rendered]

theorem partTexts_not : partTexts negated outer (.not child) =
    (partTexts (!negated) none child).map fun texts => [node "U" (atom notName :: texts)] := by
  cases kept : prune (!negated) child <;>
    simp [partTexts, prune, canonicalIn, kept, sorted_canonicalIn_none]

theorem partTexts_isNull : partTexts negated outer (.isNull child) =
    (partTexts negated none child).map fun texts => [node "U" (atom isNullName :: texts)] := by
  cases kept : prune negated child <;>
    simp [partTexts, prune, canonicalIn, kept, sorted_canonicalIn_none]

theorem partTexts_compare {op : Comparison} : partTexts negated outer (.compare op left right) =
    (partTexts negated none left).bind fun lefts => (partTexts negated none right).map fun rights =>
      [node "B" (atom op.name ::
        (if op = .equal then Text.sorted (lefts ++ rights) else lefts ++ rights))] := by
  cases keptLeft : prune negated left <;> cases keptRight : prune negated right <;>
    simp [partTexts, prune, canonicalIn, keptLeft, keptRight, sorted_canonicalIn_none]

theorem sorted_canonicalIn_join {op : Connective} : Text.sorted ((join op left right).canonicalIn outer) =
    chainTexts outer op (left.canonicalIn (some op) ++ right.canonicalIn (some op)) := by
  simp only [canonicalIn, chainTexts]
  split <;> simp

/-- A chain has the texts of both sides; a side that may be left out leaves
those of the other. -/
theorem partTexts_join {op : Connective} : partTexts negated outer (.join op left right) =
    match partTexts negated (some op) left, partTexts negated (some op) right with
    | some lefts, some rights => some (chainTexts outer op (lefts ++ rights))
    | some _, none => if Droppable op negated then partTexts negated outer left else none
    | none, some _ => if Droppable op negated then partTexts negated outer right else none
    | none, none => none := by
  cases keptLeft : prune negated left with
  | none =>
    cases keptRight : prune negated right <;> cases droppable : Droppable op negated <;>
      simp [partTexts, prune, keptLeft, keptRight, droppable]
  | some leftPart =>
    cases keptRight : prune negated right with
    | none => cases droppable : Droppable op negated <;> simp [partTexts, prune, keptLeft, keptRight, droppable]
    | some rightPart =>
      simp only [partTexts, prune, keptLeft, keptRight, Option.map_some, sorted_canonicalIn_join]
      exact congrArg some (chainTexts_congr ((Text.sorted_perm _).append (Text.sorted_perm _)).symm)

/-- The texts of values are those of each, if each can be sent. -/
theorem canonicalAll_pruneAll (values : List Predicate) :
    (pruneAll negated values).map canonicalAll = gatherTexts (values.map (partTexts negated none)) := by
  induction values with
  | nil => rfl
  | cons value values ih =>
    cases kept : prune negated value with
    | none => simp [pruneAll, kept, partTexts, gatherTexts]
    | some part =>
      have head : partTexts negated none value = some (part.canonicalIn none) := by
        simp [partTexts, kept, sorted_canonicalIn_none]
      simp only [gatherTexts] at ih ⊢
      cases rest : pruneAll negated values <;> simp_all [pruneAll, canonicalAll]

theorem partTexts_isIn {values : List Predicate} : partTexts negated outer (.isIn child values) =
    if values.isEmpty then none
    else
      (partTexts negated none child).bind fun texts =>
        ((gatherTexts (values.map (partTexts negated none))).map Text.distinctSorted).map fun values =>
          [node "I" (texts ++ values)] := by
  rw [← canonicalAll_pruneAll]
  cases keptChild : prune negated child with
  | none => simp [partTexts, prune, keptChild]
  | some part =>
    cases values with
    | nil => simp [partTexts, prune, pruneAll, keptChild]
    | cons value values =>
      cases keptValue : prune negated value <;> cases keptValues : pruneAll negated values <;>
        simp [partTexts, prune, pruneAll, canonicalIn, keptChild, keptValue, keptValues,
          sorted_canonicalIn_none]

/-- Which values a membership has counts, not in which order or how often. -/
theorem partTexts_isIn_congr {values values' : List Predicate} (same : ∀ p, p ∈ values ↔ p ∈ values') :
    partTexts negated outer (.isIn child values) = partTexts negated outer (.isIn child values') := by
  have texts : (gatherTexts (values.map (partTexts negated none))).map Text.distinctSorted =
      (gatherTexts (values'.map (partTexts negated none))).map Text.distinctSorted :=
    gatherTexts_congr fun t => by simp only [List.mem_map, same]
  have empty : values.isEmpty = values'.isEmpty := by
    rw [Bool.eq_iff_iff, List.isEmpty_iff, List.isEmpty_iff, List.eq_nil_iff_forall_not_mem,
      List.eq_nil_iff_forall_not_mem]
    simp only [same]
  simp only [partTexts_isIn, texts, empty]

end Equations

/-- What a tree contributes to a canonical text does not depend on how it is
written, under any number of negations and in any chain. -/
theorem Rewrite.partTexts_eq (rewrite : Rewrite p q) (negated : Bool) (outer : Option Connective) :
    partTexts negated outer p = partTexts negated outer q := by
  induction rewrite generalizing negated outer with
  | swapEqual left right =>
    simp only [partTexts_compare, ↓reduceIte]
    cases partTexts negated none left <;> cases partTexts negated none right <;>
      simp [Text.sorted_append_comm]
  | swapJoin op left right =>
    simp only [partTexts_join]
    cases partTexts negated (some op) left <;> cases partTexts negated (some op) right <;>
      simp [chainTexts_congr List.perm_append_comm]
  | regroup op a b c =>
    simp only [partTexts_join]
    cases partTexts negated (some op) a <;> cases partTexts negated (some op) b <;>
      cases partTexts negated (some op) c <;> cases Droppable op negated <;> simp [chainTexts]
  | permuteValues child order =>
    exact partTexts_isIn_congr negated outer fun _ => order.mem_iff
  | repeatValue child member =>
    refine partTexts_isIn_congr negated outer fun p => ?_
    rw [List.mem_cons, or_iff_right_of_imp fun same => same ▸ member]
  | renameColumnType name same => simp only [partTexts_column, same]
  | renameLiteralType value same => simp only [partTexts_literal, same]
  | belowNot inside ih => simp only [partTexts_not, ih]
  | belowIsNull inside ih => simp only [partTexts_isNull, ih]
  | leftOfCompare op right inside ih => simp only [partTexts_compare, ih]
  | rightOfCompare op left inside ih => simp only [partTexts_compare, ih]
  | leftOfJoin op right inside ih => simp only [partTexts_join, ih]
  | rightOfJoin op left inside ih => simp only [partTexts_join, ih]
  | childOfIsIn values inside ih => simp only [partTexts_isIn, ih]
  | valueOfIsIn child before after inside ih => simp [partTexts_isIn, ih]

/-- The canonical texts of the conjuncts of a condition, as far as it can be sent. -/
def conjunctTexts (p : Predicate) : List String := (partTexts false (some .and) p).getD []

theorem canonicalConjunction_eq (ps : List Predicate) :
    canonicalConjunction ps = String.join (Text.distinctSorted (ps.flatMap conjunctTexts)) := by
  refine congrArg String.join (Text.distinctSorted_congr fun s => ?_)
  induction ps with
  | nil => rfl
  | cons p ps ih =>
    cases kept : prune false p with
    | none => simpa [conjunctTexts, partTexts, kept] using ih
    | some part =>
      rw [List.filterMap_cons_some kept, List.flatMap_cons, List.flatMap_cons, List.mem_append,
        List.mem_append, ih]
      simp [conjunctTexts, partTexts, kept]

/-- A conjunction has the conjuncts of both sides. -/
theorem mem_conjunctTexts_and {s : String} : s ∈ conjunctTexts (.join .and left right) ↔
    s ∈ conjunctTexts left ∨ s ∈ conjunctTexts right := by
  simp only [conjunctTexts, partTexts_join]
  cases partTexts false (some .and) left <;> cases partTexts false (some .and) right <;>
    simp [Droppable, chainTexts]

/-- Conditions that are stated differently have the same conjuncts. -/
theorem Restate.mem_conjuncts (restate : Restate ps qs) (s : String) :
    s ∈ ps.flatMap conjunctTexts ↔ s ∈ qs.flatMap conjunctTexts := by
  cases restate with
  | permute order => exact (order.flatMap_right conjunctTexts).mem_iff
  | repeatMember member =>
    rw [List.flatMap_cons, List.mem_append, or_iff_right_of_imp]
    exact fun here => List.mem_flatMap.mpr ⟨_, member, here⟩
  | splitAnd left right ps =>
    simp only [List.flatMap_cons, List.mem_append, mem_conjunctTexts_and, or_assoc]
  | rewriteMember ps inside =>
    simp only [List.flatMap_cons, conjunctTexts, inside.partTexts_eq]
  | @dropUnsent p ps unsent =>
    have none : conjunctTexts p = [] := by simp [conjunctTexts, partTexts, unsent]
    rw [List.flatMap_cons, none, List.nil_append]

/-- However often conditions are stated differently, they have one canonical
text, and with the same limit and version they are one request. -/
theorem restated_conditions_are_one_request (restated : Relation.EqvGen Restate ps qs) :
    canonicalConjunction ps = canonicalConjunction qs ∧
      ∀ (limit : Option Int) (version : Option Version),
        Fingerprint.snapshot ps limit version = Fingerprint.snapshot qs limit version := by
  have members (s : String) : s ∈ ps.flatMap conjunctTexts ↔ s ∈ qs.flatMap conjunctTexts := by
    induction restated with
    | rel ps qs restate => exact restate.mem_conjuncts s
    | refl ps => exact Iff.rfl
    | symm ps qs _ ih => exact ih.symm
    | trans ps qs rs _ _ first second => exact first.trans second
  have same : canonicalConjunction ps = canonicalConjunction qs := by
    rw [canonicalConjunction_eq, canonicalConjunction_eq, Text.distinctSorted_congr members]
  refine ⟨same, fun limit version => ?_⟩
  simp only [Fingerprint.snapshot, Fingerprint.snapshotText, Fingerprint.snapshotFields, same]

/-- The conjuncts of `paid and not (late or udf)` may be listed one by one, in
the other order, with the operands below the negation swapped, and next to a
condition that cannot be sent. -/
theorem split_and_swapped_conditions_are_one_request :
    let paid := Predicate.column "paid" "boolean"
    let late := Predicate.column "late" "BOOL "
    let udf := Predicate.unsupported "udf"
    let ps := [Predicate.join .and paid (.not (.join .or late udf))]
    let qs := [udf, Predicate.not (.join .or udf (.column "late" "bool")), paid]
    ps.length ≠ qs.length ∧ Relation.EqvGen Restate ps qs ∧
      Fingerprint.snapshot ps (some 5) (some (.asOf 3)) =
        Fingerprint.snapshot qs (some 5) (some (.asOf 3)) := by
  intro paid late udf ps qs
  have sameType : WireTag.ofEngine? "BOOL " = WireTag.ofEngine? "bool" := by decide +kernel
  have split : Restate ps [paid, .not (.join .or late udf)] := .splitAnd _ _ _
  have order : Restate [paid, .not (.join .or late udf)] [.not (.join .or late udf), paid] :=
    .permute (List.Perm.swap _ _ _)
  have renamed : Restate [.not (.join .or late udf), paid]
      [.not (.join .or (.column "late" "bool") udf), paid] :=
    .rewriteMember _ (.belowNot (.leftOfJoin _ _ (.renameColumnType _ sameType)))
  have swapped : Restate [.not (.join .or (.column "late" "bool") udf), paid]
      [.not (.join .or udf (.column "late" "bool")), paid] :=
    .rewriteMember _ (.belowNot (.swapJoin _ _ _))
  have unsent : Restate qs [.not (.join .or udf (.column "late" "bool")), paid] := .dropUnsent _ rfl
  have restated : Relation.EqvGen Restate ps qs :=
    ((((Relation.EqvGen.rel _ _ split).trans _ _ _ (.rel _ _ order)).trans _ _ _ (.rel _ _ renamed)).trans
      _ _ _ (.rel _ _ swapped)).trans _ _ _ (.symm _ _ (.rel _ _ unsent))
  exact ⟨by simp [ps, qs], restated, (restated_conditions_are_one_request restated).2 _ _⟩

end SharedTables.Predicate
