import SharedTables.Number.Digits
import SharedTables.Text.Case

/-! Decimal numbers as they were written: the digits and the exponent are kept apart, so trailing
zeros and zeros of either sign survive. -/
namespace SharedTables

/-- A decimal number with its written precision. -/
inductive Decimal
  /-- `coefficient * 10 ^ exponent` with a sign. -/
  | finite (negative : Bool) (coefficient : Nat) (exponent : Int)
  /-- Past every number, on either side. -/
  | infinite (negative : Bool)
  /-- No number; a signalling one says so, and a payload other than zero is kept. -/
  | nan (negative signalling : Bool) (payload : Nat)
  deriving DecidableEq, Repr, Inhabited

namespace Decimal

/-- The largest order of magnitude that a decimal number can have. -/
def largestOrder : Int := 999999999999999999

/-- The smallest exponent of a coefficient, also of one that is zero: no digit of a number stands
further behind the point. -/
def smallestExponent : Int := -1999999999999999997

/-- The values of characters that are all digits, possibly none. -/
def plainDigits? (cs : List Char) : Option (List Nat) := cs.mapM Text.digitValue?

/-- Reads digits with an optional point and an optional exponent. -/
def readFinite? (negative : Bool) (cs : List Char) : Option Decimal := do
  let (mantissa, power) := splitFirst (fun c => c = 'e' || c = 'E') cs
  let (whole, part) := splitFirst (· = '.') mantissa
  let wholeDigits ← plainDigits? whole
  let partDigits ← plainDigits? (part.getD [])
  if wholeDigits.isEmpty && partDigits.isEmpty then failure
  let exponent ← match power with
    | none => pure 0
    | some power => do
      let (minus, digits) := splitSign power
      let digits ← plainDigits? digits
      if digits.isEmpty then failure
      pure (signedInt minus (ofDigits digits))
  let coefficient := ofDigits (wholeDigits ++ partDigits)
  let exponent := exponent - partDigits.length
  let order := exponent + (Nat.toDigits 10 coefficient).length - 1
  if largestOrder < order || exponent < smallestExponent then failure
  pure (.finite negative coefficient exponent)

/-- Reads a decimal number: white space around it is ignored, and so are the underscores of what is
left. White space between two underscores is not around the number. -/
def read? (s : String) : Option Decimal := do
  let (negative, rest) := splitSign ((Text.trimChars s.toList).filter (· != '_'))
  let name := Text.lowerAfter [] rest
  if name = "inf".toList || name = "infinity".toList then pure (.infinite negative)
  else if "nan".toList.isPrefixOf name then
    let digits ← plainDigits? (name.drop 3)
    pure (.nan negative false (ofDigits digits))
  else if "snan".toList.isPrefixOf name then
    let digits ← plainDigits? (name.drop 4)
    pure (.nan negative true (ofDigits digits))
  else readFinite? negative rest

/-- The sign of a negative number. -/
def minus (negative : Bool) : List Char := if negative then ['-'] else []

/-- A finite number: without an exponent when none was positive and at most five zeros would follow
the point, else with one digit before the point. -/
def finiteText (coefficient : Nat) (exponent : Int) : List Char :=
  let digits := Nat.toDigits 10 coefficient
  let order := exponent + digits.length
  let point := if exponent ≤ 0 ∧ -6 < order then order else 1
  let (whole, part) := placePoint digits point
  whole ++ (if part.isEmpty then [] else '.' :: part) ++
    (if order = point then [] else 'E' :: signedText (order - point))

/-- The text of a decimal number. -/
def text : Decimal → String
  | .finite negative coefficient exponent =>
    String.ofList (minus negative ++ finiteText coefficient exponent)
  | .infinite negative => String.ofList (minus negative ++ "Infinity".toList)
  | .nan negative signalling payload =>
    String.ofList (minus negative ++ (if signalling then "sNaN" else "NaN").toList ++
      (if payload = 0 then [] else Nat.toDigits 10 payload))

end Decimal
end SharedTables
