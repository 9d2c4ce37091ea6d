import SharedTables.Predicate.Basic
import SharedTables.Predicate.WireTag

/-! The part of a predicate that a listing request can carry. A conjunct that cannot be carried is
left out, and under a negation a disjunct: the rest lets more rows through, never fewer. -/
namespace SharedTables.Predicate

/-- Whether one side of a connective may be left out: a conjunct where the filter counts, a disjunct
where its negation does. -/
def Droppable (op : Connective) (negated : Bool) : Bool :=
  match op with
  | .and => !negated
  | .or => negated

mutual
/-- `prune`: the part of a predicate that can be sent. -/
def prune (negated : Bool) : Predicate → Option Predicate
  | .column name type =>
    if (WireTag.ofEngine? type).isSome then some (.column name type) else none
  | .literal value type =>
    if (WireTag.ofEngine? type).isSome && value.render.isSome then some (.literal value type)
    else none
  | .compare op left right =>
    match prune negated left, prune negated right with
    | some left, some right => some (.compare op left right)
    | _, _ => none
  | .join op left right =>
    match prune negated left, prune negated right with
    | some left, some right => some (.join op left right)
    | some side, none | none, some side => if Droppable op negated then some side else none
    | none, none => none
  | .not child => (prune (!negated) child).map .not
  | .isNull child => (prune negated child).map .isNull
  | .isIn child values =>
    match prune negated child, pruneAll negated values with
    | some child, some (first :: rest) => some (.isIn child (first :: rest))
    | _, _ => none
  | .unsupported _ => none
  | .foreign _ => none

/-- The parts of several predicates, if every one of them has one. -/
def pruneAll (negated : Bool) : List Predicate → Option (List Predicate)
  | [] => some []
  | p :: rest =>
    match prune negated p, pruneAll negated rest with
    | some p, some rest => some (p :: rest)
    | _, _ => none
end

end SharedTables.Predicate
