import SharedTables.Json.Printer
import SharedTables.Predicate.Pruning

/-! Predicates as a listing request carries them: columns, literals and operators over them. -/
namespace SharedTables

/-- The operators of a listing request. -/
inductive WireOperator
  | compare (op : Comparison)
  | join (op : Connective)
  | not
  | isNull
  | isIn
  deriving DecidableEq, Repr

/-- The name of an operator. -/
def WireOperator.name : WireOperator → String
  | .compare op => op.name
  | .join op => op.name
  | .not => Predicate.notName
  | .isNull => Predicate.isNullName
  | .isIn => Predicate.inName

/-- A predicate in a listing request. -/
inductive WireForm
  | column (name : String) (tag : WireTag)
  | literal (text : String) (tag : WireTag)
  | apply (op : WireOperator) (children : List WireForm)
  deriving Repr

namespace WireForm

mutual
/-- `_to_json`: a wire form as a JSON object. -/
def toJson : WireForm → Json
  | .column name tag =>
    .obj [("op", .str "column"), ("name", .str name), ("valueType", .str tag.name)]
  | .literal text tag =>
    .obj [("op", .str "literal"), ("value", .str text), ("valueType", .str tag.name)]
  | .apply op children => .obj [("op", .str op.name), ("children", .arr (toJsons children))]

/-- Several wire forms as JSON objects. -/
def toJsons : List WireForm → List Json
  | [] => []
  | form :: rest => toJson form :: toJsons rest
end

/-- Forms joined by a conjunction; a single form stays as it is. -/
def conjunction : List WireForm → Option WireForm
  | [] => none
  | [form] => some form
  | forms => some (.apply (.join .and) forms)

end WireForm

namespace Predicate

mutual
/-- The wire form of a predicate, all of whose parts must have one. -/
def wireForm? : Predicate → Option WireForm
  | .column name type => (WireTag.ofEngine? type).map (.column name)
  | .literal value type => do
    let tag ← WireTag.ofEngine? type
    let text ← value.render
    pure (.literal text tag)
  | .compare op left right => do
    let left ← wireForm? left
    let right ← wireForm? right
    pure (.apply (.compare op) [left, right])
  | .join op left right => do
    let left ← wireForm? left
    let right ← wireForm? right
    pure (.apply (.join op) [left, right])
  | .not child => (wireForm? child).map fun child => .apply .not [child]
  | .isNull child => (wireForm? child).map fun child => .apply .isNull [child]
  | .isIn child values => do
    let child ← wireForm? child
    let values ← wireForms? values
    pure (.apply .isIn (child :: values))
  | .unsupported _ => none
  | .foreign _ => none

/-- The wire forms of several predicates. -/
def wireForms? : List Predicate → Option (List WireForm)
  | [] => some []
  | p :: rest => do
    let form ← wireForm? p
    let forms ← wireForms? rest
    pure (form :: forms)
end

/-- `to_wire_json`: the wire form of the part of a predicate that can be sent. -/
def toWire? (p : Predicate) : Option WireForm := (p.prune false).bind wireForm?

/-- `conjunction_to_wire_json`: the wire form of a sequence of conditions that all have to hold. -/
def conjunctionToWire? (ps : List Predicate) : Option WireForm :=
  WireForm.conjunction (ps.filterMap toWire?)

/-- Which predicates a listing request carries. -/
structure HintSettings where
  /-- Whether predicates are sent at all. -/
  enabled : Bool
  /-- Whether predicates on data columns are sent beside those on partition columns. -/
  dataColumns : Bool
  deriving DecidableEq, Repr

/-- The wire form that a listing request carries for its partition and data predicates. -/
def hintForm? (settings : HintSettings) (partition data : List Predicate) : Option WireForm :=
  if settings.enabled then
    let first := conjunctionToWire? partition
    if settings.dataColumns then
      match first, conjunctionToWire? data with
      | some first, some second => some (.apply (.join .and) [first, second])
      | some form, none | none, some form => some form
      | none, none => none
    else first
  else none

/-- `build_predicate_hints`: the text that a listing request carries. -/
def hints? (settings : HintSettings) (partition data : List Predicate) : Option String :=
  (hintForm? settings partition data).map fun form => form.toJson.text

end Predicate
end SharedTables
