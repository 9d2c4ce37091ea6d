import SharedTables.Number.Digits
import SharedTables.Number.Shortest
import SharedTables.Text.Case

/-! Binary floating-point numbers read from text and written with the fewest digits that read
back. -/
namespace SharedTables.Binary64

/-- Reads digits with an optional point and an optional exponent. -/
def readFinite? (negative : Bool) (cs : List Char) : Option Binary64 := do
  let (mantissa, power) := splitFirst (fun c => c = 'e' || c = 'E') cs
  let (whole, part) := splitFirst (· = '.') mantissa
  let wholeDigits ← if whole.isEmpty then pure [] else groupedDigits? whole
  let partDigits ← match part with
    | none => pure []
    | some part => if part.isEmpty then pure [] else groupedDigits? part
  if wholeDigits.isEmpty && partDigits.isEmpty then failure
  let exponent ← match power with
    | none => pure 0
    | some power => signedDigits? power
  pure (ofDecimal negative (ofDigits (wholeDigits ++ partDigits)) (exponent - partDigits.length))

/-- Reads a number with blanks around it; the words for infinity and for no number may be written
in any case. -/
def read? (s : String) : Option Binary64 :=
  let (negative, rest) := splitSign (trimNumber s.toList)
  let name := Text.lowerAfter [] rest
  if name = "inf".toList || name = "infinity".toList then some (.infinite negative)
  else if name = "nan".toList then some .nan
  else readFinite? negative rest

/-- Orders of magnitude that are written without an exponent: the point stands after at least
this many digits (a negative number counts zeros after the point) … -/
def leastPoint : Int := -3

/-- … and after at most this many. -/
def greatestPoint : Int := 16

/-- The text of digits whose point stands after the first `point` of them: positional within the
bounds, with a digit on both sides of the point; else with one digit before the point and a signed
exponent of at least two digits. -/
def decimalText (digits : List Char) (point : Int) : List Char :=
  if leastPoint ≤ point ∧ point ≤ greatestPoint then
    let (whole, part) := placePoint digits point
    whole ++ '.' :: (if part.isEmpty then ['0'] else part)
  else
    let exponent := signedText (point - 1)
    let padded := if exponent.length < 3 then exponent.take 1 ++ '0' :: exponent.drop 1 else exponent
    let (whole, part) := placePoint digits 1
    whole ++ (if part.isEmpty then [] else '.' :: part) ++ 'e' :: padded

/-- The text of a number. -/
def text : Binary64 → String
  | .nan => "nan"
  | .infinite negative => if negative then "-inf" else "inf"
  | .finite negative m e =>
    let body :=
      if m = 0 then decimalText ['0'] 1
      else
        let (digits, k) := Shortest.shortest m e
        let digits := Nat.toDigits 10 digits
        decimalText digits (digits.length + k)
    String.ofList (if negative then '-' :: body else body)

end SharedTables.Binary64
