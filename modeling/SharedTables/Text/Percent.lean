import SharedTables.Text.Hex
import SharedTables.Text.Utf8

/-! Percent coding of one path segment: every byte of the text outside the unreserved characters
is written as a percent sign and two hexadecimal digits. -/
namespace SharedTables.Text

/-- The characters that stand for themselves in a path segment. -/
def isUnreserved (c : Char) : Bool :=
  c.isAlphanum || c = '_' || c = '.' || c = '-' || c = '~'

/-- One byte of a segment. -/
def percentByte (b : UInt8) : List Char :=
  let c := Char.ofNat b.toNat
  if b < 0x80 && isUnreserved c then [c]
  else ['%', hexCapital (b.toNat / 16), hexCapital (b.toNat % 16)]

/-- Characters as a path segment. -/
def percentChars (cs : List Char) : List Char :=
  (cs.flatMap String.utf8EncodeChar).flatMap percentByte

/-- Text as a path segment. -/
def percentEncode (s : String) : String := String.ofList (percentChars s.toList)

/-- The bytes that a segment stands for; a percent sign without two hexadecimal digits stands for
itself. -/
def percentBytes : List Char → List UInt8
  | [] => []
  | '%' :: high :: low :: rest =>
    match hexValue? high, hexValue? low with
    | some h, some l => UInt8.ofNat (16 * h + l) :: percentBytes rest
    | _, _ => 0x25 :: percentBytes (high :: low :: rest)
  | c :: rest => String.utf8EncodeChar c ++ percentBytes rest

/-- The text of a segment; bytes that are not UTF-8 become replacement characters. -/
def percentDecode (s : String) : String :=
  String.ofList (utf8Repaired (percentBytes s.toList))

end SharedTables.Text
