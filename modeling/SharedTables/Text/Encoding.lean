import SharedTables.Text.Half
import SharedTables.Text.Utf8

/-! Bytes whose encoding is not declared: a byte order mark or the zeros among the first four bytes
tell which of the five encodings it is. -/
namespace SharedTables.Text

/-- An encoding of text. A marked text begins with a byte order mark, which is no part of it. -/
inductive Encoding
  | utf8 (marked : Bool)
  | utf16 (bigEndian marked : Bool)
  | utf32 (bigEndian marked : Bool)
  deriving DecidableEq, Repr

namespace Encoding

/-- The encoding that the first bytes of a text of ASCII punctuation and letters show. -/
def ofZeros (bytes : List UInt8) : Encoding :=
  match bytes with
  | b0 :: b1 :: b2 :: b3 :: _ =>
    if b0 = 0 then (if b1 = 0 then .utf32 true false else .utf16 true false)
    else if b1 = 0 then (if b2 = 0 ∧ b3 = 0 then .utf32 false false else .utf16 false false)
    else .utf8 false
  | [b0, b1] =>
    if b0 = 0 then .utf16 true false
    else if b1 = 0 then .utf16 false false
    else .utf8 false
  | _ => .utf8 false

/-- The encoding of bytes. -/
def detect (bytes : List UInt8) : Encoding :=
  if [0x00, 0x00, 0xfe, 0xff].isPrefixOf bytes then .utf32 true true
  else if [0xff, 0xfe, 0x00, 0x00].isPrefixOf bytes then .utf32 false true
  else if [0xfe, 0xff].isPrefixOf bytes then .utf16 true true
  else if [0xff, 0xfe].isPrefixOf bytes then .utf16 false true
  else if [0xef, 0xbb, 0xbf].isPrefixOf bytes then .utf8 true
  else ofZeros bytes

/-- The code units of two bytes each. -/
def units16? (bigEndian : Bool) : List UInt8 → Option (List Nat)
  | [] => some []
  | a :: b :: rest =>
    let unit := if bigEndian then a.toNat * 256 + b.toNat else b.toNat * 256 + a.toNat
    (units16? bigEndian rest).map (unit :: ·)
  | _ => none

/-- The characters of code units. -/
def chars16 : List Nat → List Char
  | [] => []
  | [unit] => [unitChar unit]
  | high :: low :: rest =>
    match pairChar? high low with
    | some c => c :: chars16 rest
    | none => unitChar high :: chars16 (low :: rest)

/-- The characters of four bytes each. -/
def chars32? (bigEndian : Bool) : List UInt8 → Option (List Char)
  | [] => some []
  | a :: b :: c :: d :: rest =>
    let bytes := if bigEndian then [a, b, c, d] else [d, c, b, a]
    let unit := bytes.foldl (fun n byte => n * 256 + byte.toNat) 0
    if isHalf unit || decide unit.isValidChar then
      (chars32? bigEndian rest).map (unitChar unit :: ·)
    else none
  | _ => none

/-- Bytes of UTF-8 in which the three bytes of half a pair are those of the replacement character. -/
def replaceHalves : List UInt8 → List UInt8
  | 0xed :: a :: b :: rest =>
    if 0xa0 ≤ a ∧ a < 0xc0 ∧ 0x80 ≤ b ∧ b < 0xc0 then 0xef :: 0xbf :: 0xbd :: replaceHalves rest
    else 0xed :: replaceHalves (a :: b :: rest)
  | a :: rest => a :: replaceHalves rest
  | [] => []

/-- The characters of bytes in an encoding; `none` when they are not text in it. -/
def decode? (encoding : Encoding) (bytes : List UInt8) : Option (List Char) :=
  match encoding with
  | .utf8 marked => utf8Chars? (replaceHalves (bytes.drop (if marked then 3 else 0)))
  | .utf16 bigEndian marked =>
    (units16? bigEndian (bytes.drop (if marked then 2 else 0))).map chars16
  | .utf32 bigEndian marked => chars32? bigEndian (bytes.drop (if marked then 4 else 0))

end Encoding

/-- The characters of bytes whose encoding is not declared. -/
def decodeBytes? (bytes : List UInt8) : Option (List Char) :=
  (Encoding.detect bytes).decode? bytes

/-- Every line break as a line feed. -/
def plainBreaks : List Char → List Char
  | [] => []
  | '\r' :: '\n' :: rest => '\n' :: plainBreaks rest
  | '\r' :: rest => '\n' :: plainBreaks rest
  | c :: rest => c :: plainBreaks rest

end SharedTables.Text
