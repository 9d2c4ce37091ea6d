import SharedTables.Json.Token

/-! JSON text read token by token. The state of reading is what may come next together with the
arrays and objects that are still open, innermost first. -/
namespace SharedTables.Json

/-- An array or object that waits for the value of its next item or member. -/
inductive Open
  /-- The items so far, last first. -/
  | array (items : List Json)
  /-- The members so far and the name of the next one. -/
  | object (members : List (String × Json)) (name : String)
  deriving Repr

/-- What may come next. -/
inductive Expected
  /-- A value. -/
  | value
  /-- The first item of an array, or its end. -/
  | firstItem
  /-- A comma or the end, after the last of these items (last first). -/
  | itemEnd (items : List Json)
  /-- The first name of an object, or its end. -/
  | firstName
  /-- A name, after these members. -/
  | name (members : List (String × Json))
  /-- The colon after a name. -/
  | colon (members : List (String × Json)) (name : String)
  /-- A comma or the end, after these members. -/
  | memberEnd (members : List (String × Json))
  /-- Nothing: the value is complete. -/
  | nothing (value : Json)
  deriving Repr

/-- The state of reading. -/
structure Reading where
  opened : List Open
  expected : Expected
  deriving Repr

/-- A complete value goes to the innermost open array or object, or ends the text. -/
def deliver (value : Json) : List Open → Reading
  | [] => ⟨[], .nothing value⟩
  | .array items :: outer => ⟨outer, .itemEnd (value :: items)⟩
  | .object members name :: outer => ⟨outer, .memberEnd (setMember name value members)⟩

/-- Reads a token where a value may begin. -/
def readValue (opened : List Open) : Token → Except Problem Reading
  | .scalar value => .ok (deliver value opened)
  | .text s => .ok (deliver (.str s) opened)
  | .openArray => .ok ⟨opened, .firstItem⟩
  | .openObject => .ok ⟨opened, .firstName⟩
  | .broken problem _ => .error problem
  | _ => .error .expectingValue

/-- Reads a token where the name of a member may stand. -/
def readName (opened : List Open) (members : List (String × Json)) :
    Token → Except Problem Reading
  | .text name => .ok ⟨opened, .colon members name⟩
  | .broken problem _ => .error problem
  | _ => .error .expectingName

/-- Reads one token. -/
def Reading.step (r : Reading) (token : Token) : Except Problem Reading :=
  match r.expected, token with
  | .value, token => readValue r.opened token
  | .firstItem, .closeArray => .ok (deliver (.arr []) r.opened)
  | .firstItem, token => readValue (.array [] :: r.opened) token
  | .itemEnd items, .comma => .ok ⟨.array items :: r.opened, .value⟩
  | .itemEnd items, .closeArray => .ok (deliver (.arr items.reverse) r.opened)
  | .itemEnd _, _ => .error .expectingComma
  | .firstName, .closeObject => .ok (deliver (.obj []) r.opened)
  | .firstName, token => readName r.opened [] token
  | .name members, token => readName r.opened members token
  | .colon members name, .colon => .ok ⟨.object members name :: r.opened, .value⟩
  | .colon _ _, _ => .error .expectingColon
  | .memberEnd members, .comma => .ok ⟨r.opened, .name members⟩
  | .memberEnd members, .closeObject => .ok (deliver (.obj members) r.opened)
  | .memberEnd _, _ => .error .expectingComma
  | .nothing _, _ => .error .extraData

/-- A problem with JSON text and the position where it was met. -/
structure ReadError where
  problem : Problem
  position : Nat
  deriving DecidableEq, Repr

/-- Where a problem lies: inside a broken string at its own place, else where the token begins. -/
def problemPosition (problem : Problem) (position : Nat) : Token → Nat
  | .broken inner place => if inner = problem then place else position
  | _ => position

/-- Reads the tokens of a text of the given length from a state. -/
def readTokens (length : Nat) (r : Reading) : List (Nat × Token) → Except ReadError Json
  | [] =>
    match r.expected with
    | .nothing value => .ok value
    | .value | .firstItem => .error ⟨.expectingValue, length⟩
    | .firstName | .name _ => .error ⟨.expectingName, length⟩
    | .colon _ _ => .error ⟨.expectingColon, length⟩
    | .itemEnd _ | .memberEnd _ => .error ⟨.expectingComma, length⟩
  | (position, token) :: rest =>
    match r.step token with
    | .ok r => readTokens length r rest
    | .error problem => .error ⟨problem, problemPosition problem position token⟩

/-- The value written by the characters of a text. -/
def readChars (cs : List Char) : Except ReadError Json :=
  readTokens cs.length ⟨[], .value⟩ (tokens 0 cs)

/-- The value written by a text, which must not begin with a byte order mark. -/
def read (s : String) : Except ReadError Json :=
  match s.toList with
  | '\ufeff' :: _ => .error ⟨.byteOrderMark, 0⟩
  | cs => readChars cs

/-- The words for a problem. -/
def Problem.text : Problem → String
  | .expectingValue => "Expecting value"
  | .expectingName => "Expecting property name enclosed in double quotes"
  | .expectingColon => "Expecting ':' delimiter"
  | .expectingComma => "Expecting ',' delimiter"
  | .extraData => "Extra data"
  | .unterminatedString => "Unterminated string starting at"
  | .controlCharacter => "Invalid control character at"
  | .badEscape => "Invalid \\escape"
  | .badNumericEscape => "Invalid \\uXXXX escape"
  | .byteOrderMark => "Unexpected UTF-8 BOM (decode using utf-8-sig)"

/-- The message for a problem in a text: what is wrong, and the line, the column and the position
where. Lines and columns count from one, positions from zero. -/
def ReadError.message (cs : List Char) (e : ReadError) : String :=
  let before := cs.take e.position
  let line := before.count '\n' + 1
  let column := (before.reverse.takeWhile (· != '\n')).length + 1
  e.problem.text ++ ": line " ++ toString line ++ " column " ++ toString column ++
    " (char " ++ toString e.position ++ ")"

end SharedTables.Json
