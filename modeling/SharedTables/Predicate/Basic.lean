import SharedTables.Predicate.Literal

/-! Predicate trees: what an engine wants of the rows of a scan. -/
namespace SharedTables

/-- The comparisons of two values. -/
inductive Comparison
  | equal
  | lessThan
  | lessThanOrEqual
  | greaterThan
  | greaterThanOrEqual
  deriving DecidableEq, Repr

/-- The two ways to join conditions. -/
inductive Connective
  | and
  | or
  deriving DecidableEq, Repr

/-- A predicate tree. -/
inductive Predicate
  /-- A column with the name of its type. -/
  | column (name type : String)
  /-- A value with the name of its type. -/
  | literal (value : Literal) (type : String)
  | compare (op : Comparison) (left right : Predicate)
  | join (op : Connective) (left right : Predicate)
  | not (child : Predicate)
  | isNull (child : Predicate)
  /-- Whether a value equals one of several. -/
  | isIn (child : Predicate) (values : List Predicate)
  /-- A condition that no listing request can carry. -/
  | unsupported (description : String)
  /-- Something that is no predicate at all; its kind is known. -/
  | foreign (kind : String)
  deriving Repr, Inhabited

/-- Why a tree cannot be built or described. -/
inductive PredicateError
  | unknownUnary (op : String)
  | unknownBinary (op : String)
  | notAPredicate (kind : String)
  deriving DecidableEq, Repr

/-- The words for an error. -/
def PredicateError.message : PredicateError → String
  | .unknownUnary op => "Unsupported unary operator: " ++ op
  | .unknownBinary op => "Unsupported binary operator: " ++ op
  | .notAPredicate kind => "Not a predicate node: " ++ kind

/-- The name of a comparison. -/
def Comparison.name : Comparison → String
  | .equal => "equal"
  | .lessThan => "lessThan"
  | .lessThanOrEqual => "lessThanOrEqual"
  | .greaterThan => "greaterThan"
  | .greaterThanOrEqual => "greaterThanOrEqual"

/-- The name of a connective. -/
def Connective.name : Connective → String
  | .and => "and"
  | .or => "or"

namespace Predicate

/-- The names of the two operators with one operand. -/
def notName : String := "not"

@[inherit_doc notName]
def isNullName : String := "isNull"

/-- The name of the membership test. -/
def inName : String := "in"

/-- The comparisons. -/
def comparisons : List Comparison :=
  [.equal, .lessThan, .lessThanOrEqual, .greaterThan, .greaterThanOrEqual]

/-- The tree of a named operator with one operand. -/
def unary? (op : String) (child : Predicate) : Except PredicateError Predicate :=
  if op = notName then .ok (.not child)
  else if op = isNullName then .ok (.isNull child)
  else .error (.unknownUnary op)

/-- The tree of a named operator with two operands. -/
def binary? (op : String) (left right : Predicate) : Except PredicateError Predicate :=
  match comparisons.find? (·.name = op) with
  | some comparison => .ok (.compare comparison left right)
  | none =>
    if op = Connective.and.name then .ok (.join .and left right)
    else if op = Connective.or.name then .ok (.join .or left right)
    else .error (.unknownBinary op)

/-- Joins two or more conditions from the left. -/
def joinAll (op : Connective) (first second : Predicate) (rest : List Predicate) : Predicate :=
  rest.foldl (.join op) (.join op first second)

end Predicate
end SharedTables
