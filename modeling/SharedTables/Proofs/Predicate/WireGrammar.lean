import SharedTables.Proofs.Predicate.Trees

/-! The grammar of a listing request. Pruning is a projection onto the trees
that can be sent whole: it leaves those as they are, whatever it leaves of
another tree is one of them, and each of them is sent as a sentence of the
grammar. So a part that was kept under one polarity may be looked at again
under the other. -/
namespace SharedTables.Predicate

/-- The types of values that a request may name. -/
def requestTypes : List String :=
  ["int", "long", "float", "double", "string", "boolean", "date", "timestamp"]

/-- A node of a request: its operator and its children. -/
def requestNode (op : String) (children : List Json) : Json :=
  .obj [("op", .str op), ("children", .arr children)]

/-- What a listing request may carry: columns and literals, which have a text
and a type, and operators with as many children as each of them takes. -/
inductive InRequest : Json → Prop
  | column (name : String) (typed : type ∈ requestTypes) :
      InRequest (.obj [("op", .str "column"), ("name", .str name), ("valueType", .str type)])
  | literal (value : String) (typed : type ∈ requestTypes) :
      InRequest (.obj [("op", .str "literal"), ("value", .str value), ("valueType", .str type)])
  | unary (known : op ∈ ["not", "isNull"]) (child : InRequest value) :
      InRequest (requestNode op [value])
  | binary (known : op ∈ ["equal", "lessThan", "lessThanOrEqual", "greaterThan", "greaterThanOrEqual", "and", "or"])
      (left : InRequest first) (right : InRequest second) : InRequest (requestNode op [first, second])
  | membership (child : InRequest value) (filled : values ≠ []) (each : ∀ v ∈ values, InRequest v) :
      InRequest (requestNode "in" (value :: values))

/-- Everything in a tree can be sent: each leaf has a type that requests know,
each literal a text, and each membership a value. -/
inductive Sendable : Predicate → Prop
  | column (name : String) (known : WireTag.ofEngine? type = some tag) : Sendable (.column name type)
  | literal (known : WireTag.ofEngine? type = some tag) (rendered : Literal.render value = some text) :
      Sendable (.literal value type)
  | compare (op : Comparison) (left : Sendable p) (right : Sendable q) : Sendable (.compare op p q)
  | join (op : Connective) (left : Sendable p) (right : Sendable q) : Sendable (.join op p q)
  | not (child : Sendable p) : Sendable (.not p)
  | isNull (child : Sendable p) : Sendable (.isNull p)
  | isIn (child : Sendable p) (filled : values ≠ []) (each : ∀ v ∈ values, Sendable v) :
      Sendable (.isIn p values)

/-- A tree that can be sent whole is left whole under either polarity. -/
theorem Sendable.prune_eq {t : Predicate} (sendable : Sendable t) (negated : Bool) :
    prune negated t = some t := by
  induction sendable generalizing negated with
  | column name known => exact prune_column_eq_some_iff.mpr ⟨⟨_, known⟩, rfl⟩
  | literal known rendered => exact prune_literal_eq_some_iff.mpr ⟨⟨_, known⟩, ⟨_, rendered⟩, rfl⟩
  | compare op _ _ leftIh rightIh =>
    exact prune_compare_eq_some_iff.mpr ⟨_, _, leftIh negated, rightIh negated, rfl⟩
  | join op _ _ leftIh rightIh =>
    exact prune_join_eq_some_iff.mpr (.inl ⟨_, _, leftIh negated, rightIh negated, rfl⟩)
  | not _ ih => exact prune_not_eq_some_iff.mpr ⟨_, ih (!negated), rfl⟩
  | isNull _ ih => exact prune_isNull_eq_some_iff.mpr ⟨_, ih negated, rfl⟩
  | isIn _ filled _ ih eachIh =>
    refine prune_isIn_eq_some_iff.mpr ⟨_, _, ih negated, ?_, filled, rfl⟩
    exact List.forall₂_same.mpr fun v member => eachIh v member negated

/-- Whatever pruning leaves can be sent whole. -/
theorem sendable_of_kept {t p : Predicate} (kept : prune negated t = some p) : Sendable p := by
  induction t generalizing negated p with
  | column name type =>
    obtain ⟨⟨tag, known⟩, rfl⟩ := prune_column_eq_some_iff.mp kept
    exact .column name known
  | literal value type =>
    obtain ⟨⟨tag, known⟩, ⟨text, rendered⟩, rfl⟩ := prune_literal_eq_some_iff.mp kept
    exact .literal known rendered
  | compare op left right leftIh rightIh =>
    obtain ⟨leftPart, rightPart, leftKept, rightKept, rfl⟩ := prune_compare_eq_some_iff.mp kept
    exact .compare op (leftIh leftKept) (rightIh rightKept)
  | join op left right leftIh rightIh =>
    obtain ⟨leftPart, rightPart, leftKept, rightKept, rfl⟩ | ⟨-, ⟨kept, -⟩ | ⟨-, kept⟩⟩ :=
      prune_join_eq_some_iff.mp kept
    · exact .join op (leftIh leftKept) (rightIh rightKept)
    · exact leftIh kept
    · exact rightIh kept
  | not child ih =>
    obtain ⟨part, childKept, rfl⟩ := prune_not_eq_some_iff.mp kept
    exact .not (ih childKept)
  | isNull child ih =>
    obtain ⟨part, childKept, rfl⟩ := prune_isNull_eq_some_iff.mp kept
    exact .isNull (ih childKept)
  | isIn child values ih valuesIh =>
    obtain ⟨part, parts, childKept, valuesKept, filled, rfl⟩ := prune_isIn_eq_some_iff.mp kept
    refine .isIn (ih childKept) filled fun v member => ?_
    obtain ⟨i, there, rfl⟩ := List.getElem_of_mem member
    have bound : i < values.length := valuesKept.length_eq ▸ there
    exact valuesIh values[i] (List.getElem_mem bound) (valuesKept.get bound there)
  | unsupported description => simp at kept
  | foreign kind => simp at kept

theorem sendable_iff_prune_eq {t : Predicate} : Sendable t ↔ prune negated t = some t :=
  ⟨fun sendable => sendable.prune_eq negated, sendable_of_kept⟩

theorem tag_name_mem (tag : WireTag) : tag.name ∈ requestTypes := by
  cases tag <;> decide

/-- Several trees are sent one by one. -/
theorem all_in_request {ps : List Predicate}
    (each : ∀ p ∈ ps, ∃ form, p.wireForm? = some form ∧ InRequest form.toJson) :
    ∃ forms, List.Forall₂ (fun p form => wireForm? p = some form) ps forms ∧
      ∀ value ∈ WireForm.toJsons forms, InRequest value := by
  induction ps with
  | nil => exact ⟨[], .nil, by simp [WireForm.toJsons]⟩
  | cons p ps ih =>
    obtain ⟨form, sent, proper⟩ := each p List.mem_cons_self
    obtain ⟨forms, sentAll, properAll⟩ := ih fun q member => each q (List.mem_cons_of_mem _ member)
    exact ⟨form :: forms, .cons sent sentAll, List.forall_mem_cons.mpr ⟨proper, properAll⟩⟩

/-- A tree that can be sent whole is sent as a sentence of the grammar. -/
theorem Sendable.in_request {t : Predicate} (sendable : Sendable t) :
    ∃ form, t.wireForm? = some form ∧ InRequest form.toJson := by
  induction sendable with
  | column name known =>
    exact ⟨_, wireForm_column_eq_some_iff.mpr ⟨_, known, rfl⟩, .column name (tag_name_mem _)⟩
  | literal known rendered =>
    exact ⟨_, wireForm_literal_eq_some_iff.mpr ⟨_, _, known, rendered, rfl⟩, .literal _ (tag_name_mem _)⟩
  | compare op _ _ leftIh rightIh =>
    obtain ⟨leftForm, leftSent, leftProper⟩ := leftIh
    obtain ⟨rightForm, rightSent, rightProper⟩ := rightIh
    refine ⟨_, wireForm_compare_eq_some_iff.mpr ⟨_, _, leftSent, rightSent, rfl⟩, ?_⟩
    exact .binary (by cases op <;> decide) leftProper rightProper
  | join op _ _ leftIh rightIh =>
    obtain ⟨leftForm, leftSent, leftProper⟩ := leftIh
    obtain ⟨rightForm, rightSent, rightProper⟩ := rightIh
    refine ⟨_, wireForm_join_eq_some_iff.mpr ⟨_, _, leftSent, rightSent, rfl⟩, ?_⟩
    exact .binary (by cases op <;> decide) leftProper rightProper
  | not _ ih =>
    obtain ⟨form, sent, proper⟩ := ih
    exact ⟨_, wireForm_not_eq_some_iff.mpr ⟨_, sent, rfl⟩, .unary (by decide) proper⟩
  | isNull _ ih =>
    obtain ⟨form, sent, proper⟩ := ih
    exact ⟨_, wireForm_isNull_eq_some_iff.mpr ⟨_, sent, rfl⟩, .unary (by decide) proper⟩
  | isIn _ filled _ ih eachIh =>
    obtain ⟨form, sent, proper⟩ := ih
    obtain ⟨forms, sentAll, properAll⟩ := all_in_request eachIh
    refine ⟨_, wireForm_isIn_eq_some_iff.mpr ⟨_, _, sent, sentAll, rfl⟩, .membership proper ?_ properAll⟩
    cases sentAll with
    | nil => exact absurd rfl filled
    | cons _ _ => exact List.cons_ne_nil _ _

/-- Pruning is a projection onto what can be sent. What it leaves of a tree it
leaves again under either polarity, and that is sent without an error, as a
sentence of the grammar. Exactly the trees in which every leaf can be sent and
every membership has values are left unchanged. -/
theorem pruning_is_a_projection (negated : Bool) (t : Predicate) :
    (∀ p, prune negated t = some p → (∀ polarity, prune polarity p = some p) ∧
      ∃ form, p.wireForm? = some form ∧ InRequest form.toJson) ∧
    (prune negated t = some t ↔ Sendable t) := by
  refine ⟨fun p kept => ?_, sendable_iff_prune_eq.symm⟩
  have sendable : Sendable p := sendable_of_kept kept
  exact ⟨sendable.prune_eq, sendable.in_request⟩

/-- A disjunct is left out below a negation. The part that is left is looked at
again as if it stood outside of one, and left as it is. -/
theorem disjunct_left_out_below_negation :
    let paid : Predicate := .column "paid" "bool"
    let region : Predicate := .isIn (.column "region" "varchar") [.literal (.text "eu") "string"]
    let t : Predicate := .not (.join .or (.join .and paid region) (.unsupported "udf"))
    let p : Predicate := .not (.join .and paid region)
    prune false t = some p ∧ prune true p = some p ∧
      ∃ form, p.wireForm? = some form ∧ InRequest form.toJson := by
  intro paid region t p
  have boolean : WireTag.ofEngine? "bool" = some .boolean := by decide +kernel
  have text : WireTag.ofEngine? "varchar" = some .string ∧ WireTag.ofEngine? "string" = some .string := by
    decide +kernel
  have kept : prune false t = some p := by
    simp [t, p, paid, region, prune, pruneAll, boolean, text, Literal.render, Droppable]
  obtain ⟨again, sent⟩ := (pruning_is_a_projection false t).1 p kept
  exact ⟨kept, again true, sent⟩

end SharedTables.Predicate
