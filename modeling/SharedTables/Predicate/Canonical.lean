import SharedTables.Predicate.Pruning
import SharedTables.Text.Sorted

/-! A text for each predicate that does not depend on how the tree was put together: chains of one
connective are flattened, operands that may be swapped are sorted, and type names count by their
wire tag. -/
namespace SharedTables

/-- `_atom`: a text preceded by its length, so that texts can follow each other without separators.
-/
def atom (s : String) : String := toString s.length ++ ":" ++ s

namespace Predicate

/-- The name under which a type counts: its wire tag, or its own spelling in lower case. -/
def typeKey (type : String) : String :=
  match WireTag.ofEngine? type with
  | some tag => tag.name
  | none => Text.lower type

/-- The text under which a value counts: its text in a request, or else its display. -/
def valueKey (value : Literal) : String :=
  match value.render with
  | some text => text
  | none =>
    match value with
    | .null => "null"
    | value => value.display

/-- A node of the canonical text: a letter for its kind and its parts. -/
def node (kind : String) (parts : List String) : String := kind ++ "(" ++ String.join parts ++ ")"

mutual
/-- The canonical texts of the operands that a predicate contributes to a chain of `outer`: several
when it is such a chain itself, else its own. -/
def canonicalIn (outer : Option Connective) : Predicate → List String
  | .column name type => [node "C" [atom name, atom (typeKey type)]]
  | .literal value type => [node "L" [atom (typeKey type), atom (valueKey value)]]
  | .not child => [node "U" (atom notName :: canonicalIn none child)]
  | .isNull child => [node "U" (atom isNullName :: canonicalIn none child)]
  | .compare op left right =>
    let operands := canonicalIn none left ++ canonicalIn none right
    [node "B" (atom op.name :: (if op = .equal then Text.sorted operands else operands))]
  | .join op left right =>
    let operands := canonicalIn (some op) left ++ canonicalIn (some op) right
    if outer = some op then operands
    else [node "B" (atom op.name :: Text.sorted operands)]
  | .isIn child values =>
    [node "I" (canonicalIn none child ++ Text.distinctSorted (canonicalAll values))]
  | .unsupported description => [node "X" [atom description]]
  | .foreign _ => []

/-- The canonical texts of several predicates. -/
def canonicalAll : List Predicate → List String
  | [] => []
  | p :: rest => canonicalIn none p ++ canonicalAll rest
end

mutual
/-- The kind of something in a tree that is no predicate. -/
def foreign? : Predicate → Option String
  | .column _ _ => none
  | .literal _ _ => none
  | .compare _ left right => (foreign? left).or (foreign? right)
  | .join _ left right => (foreign? left).or (foreign? right)
  | .not child => foreign? child
  | .isNull child => foreign? child
  | .isIn child values => (foreignAmong? values).or (foreign? child)
  | .unsupported _ => none
  | .foreign kind => some kind

/-- The kind of something in several trees that is no predicate. -/
def foreignAmong? : List Predicate → Option String
  | [] => none
  | p :: rest => (foreign? p).or (foreignAmong? rest)
end

/-- `canonical_predicate`: the canonical text of a tree in which everything is a predicate. -/
def canonical (p : Predicate) : Except PredicateError String :=
  match foreign? p with
  | some kind => .error (.notAPredicate kind)
  | none => .ok (String.join (canonicalIn none p))

/-- `canonical_predicates`: the canonical text of conditions that all have to hold, as far as they
can be sent: neither their order nor their grouping nor repetition matters. -/
def canonicalConjunction (ps : List Predicate) : String :=
  String.join (Text.distinctSorted ((ps.filterMap (prune false)).flatMap (canonicalIn (some .and))))

end Predicate
end SharedTables
