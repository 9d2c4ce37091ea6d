import SharedTables.Json.Basic
import SharedTables.Number.Binary64Text
import SharedTables.Text.Quoted

/-! Decoded values in messages: texts between single quotes, and words for null and truth values
that begin with a capital. -/
namespace SharedTables.Json

mutual
/-- The display of a value inside a message. -/
def display : Json → String
  | .null => "None"
  | .bool b => if b then "True" else "False"
  | .int n => toString n
  | .real x => x.text
  | .str s => Text.quoted s
  | .arr items => "[" ++ displayItems items ++ "]"
  | .obj members => "\x7b" ++ displayMembers members ++ "\x7d"

/-- The displays of items, separated by commas. -/
def displayItems : List Json → String
  | [] => ""
  | [item] => display item
  | item :: rest => display item ++ ", " ++ displayItems rest

/-- The displays of members, separated by commas. -/
def displayMembers : List (String × Json) → String
  | [] => ""
  | [(name, value)] => Text.quoted name ++ ": " ++ display value
  | (name, value) :: rest =>
    Text.quoted name ++ ": " ++ display value ++ ", " ++ displayMembers rest
end

/-- A value as text: a text stands for itself, other values are displayed. -/
def asText : Json → String
  | .str s => s
  | value => value.display

end SharedTables.Json
