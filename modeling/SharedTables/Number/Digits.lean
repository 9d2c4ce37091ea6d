import SharedTables.Text.Blank
import SharedTables.Text.Digit

/-! Numbers read from text and written as text. Digits of every script count, and white space other
than the four separators of the control range may surround a number. -/
namespace SharedTables

/-- The number written by digits, most significant first. -/
def ofDigits (digits : List Nat) : Nat := digits.foldl (fun n d => 10 * n + d) 0

/-- The values of one or more digits, where single underscores may stand between two digits. -/
def groupedDigits? : List Char → Option (List Nat)
  | [] => none
  | [c] => (Text.digitValue? c).map ([·])
  | c :: '_' :: rest => do
    let d ← Text.digitValue? c
    let ds ← groupedDigits? rest
    pure (d :: ds)
  | c :: rest => do
    let d ← Text.digitValue? c
    let ds ← groupedDigits? rest
    pure (d :: ds)

/-- Whether a character may stand before or after a number. -/
def isNumberBlank (c : Char) : Bool := Text.isBlank c && !(0x1c ≤ c.toNat && c.toNat ≤ 0x1f)

/-- Characters without the blanks around a number. -/
def trimNumber (cs : List Char) : List Char :=
  ((cs.dropWhile isNumberBlank).reverse.dropWhile isNumberBlank).reverse

/-- Splits a sign off: whether it is a minus, and the rest. -/
def splitSign : List Char → Bool × List Char
  | '-' :: rest => (true, rest)
  | '+' :: rest => (false, rest)
  | rest => (false, rest)

/-- The integer with a given sign and size. -/
def signedInt (negative : Bool) (n : Nat) : Int := if negative then -(n : Int) else n

/-- Reads a signed integer whose digits may be grouped by single underscores. -/
def signedDigits? (cs : List Char) : Option Int :=
  let (negative, rest) := splitSign cs
  (groupedDigits? rest).map fun digits => signedInt negative (ofDigits digits)

/-- Reads an integer with blanks around it. -/
def readInt? (s : String) : Option Int := signedDigits? (trimNumber s.toList)

/-- Splits at the first character that satisfies a condition; the character itself is left out. -/
def splitFirst (p : Char → Bool) (cs : List Char) : List Char × Option (List Char) :=
  match cs.dropWhile (!p ·) with
  | [] => (cs, none)
  | _ :: rest => (cs.takeWhile (!p ·), some rest)

/-- Writes digits around a decimal point that stands after the first `point` of them: the digits
before it, at least a zero, and the digits after it. -/
def placePoint (digits : List Char) (point : Int) : List Char × List Char :=
  if point ≤ 0 then (['0'], List.replicate (-point).toNat '0' ++ digits)
  else if digits.length ≤ point.toNat then
    (digits ++ List.replicate (point.toNat - digits.length) '0', [])
  else (digits.take point.toNat, digits.drop point.toNat)

/-- An integer with its sign, also a plus. -/
def signedText (n : Int) : List Char :=
  (if n < 0 then '-' else '+') :: Nat.toDigits 10 n.natAbs

end SharedTables
