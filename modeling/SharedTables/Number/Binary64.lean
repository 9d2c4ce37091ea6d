/-! Binary floating-point numbers of sixty-four bits, as exact values: rounding takes a quotient of
natural numbers to the nearest number with at most fifty-three significant bits. -/
namespace SharedTables

/-- The quotient rounded to the nearest whole number, a half to the even neighbour. -/
def roundQuotient (num den : Nat) : Nat :=
  let q := num / den
  let r := num % den
  if 2 * r < den then q
  else if den < 2 * r then q + 1
  else q + q % 2

/-- `x * base ^ e` as a quotient, for an exponent of either sign. -/
def scaleQuotient (num den base : Nat) (e : Int) : Nat × Nat :=
  if 0 ≤ e then (num * Nat.pow base e.toNat, den) else (num, den * Nat.pow base (-e).toNat)

/-- The exponent of the highest power of two that is at most `num / den`, for positive numbers. -/
def binaryOrder (num den : Nat) : Int :=
  let guess : Int := (num.log2 : Int) - den.log2
  let (n, d) := scaleQuotient num den 2 (-guess)
  if d ≤ n then guess else guess - 1

/-- A number of sixty-four bits. A finite number is its mantissa times a power of two. -/
inductive Binary64
  /-- The result of an undefined operation. -/
  | nan
  /-- Past the largest finite number, on either side. -/
  | infinite (negative : Bool)
  /-- `mantissa * 2 ^ exponent` with a sign, which zero has too. -/
  | finite (negative : Bool) (mantissa : Nat) (exponent : Int)
  deriving DecidableEq, Repr, Inhabited

namespace Binary64

/-- The lowest exponent of a mantissa. -/
def lowestExponent : Int := -1074

/-- The highest exponent of a mantissa. -/
def highestExponent : Int := 971

/-- The first number that is too large for a mantissa. -/
def mantissaLimit : Nat := 9007199254740992

/-- Mantissa and exponent of the number nearest to `num / den`, with no upper bound on the
exponent; a half goes to the even mantissa. -/
def nearest (num den : Nat) : Nat × Int :=
  if num = 0 then (0, lowestExponent)
  else
    let e := binaryOrder num den - 52
    let e := if e < lowestExponent then lowestExponent else e
    let (n, d) := scaleQuotient num den 2 (-e)
    let m := roundQuotient n d
    if m = mantissaLimit then (mantissaLimit / 2, e + 1) else (m, e)

/-- The number nearest to a quotient, infinite past the largest one. -/
def ofQuotient (negative : Bool) (num den : Nat) : Binary64 :=
  let (m, e) := nearest num den
  if highestExponent < e then .infinite negative else .finite negative m e

/-- The number nearest to `digits * 10 ^ exponent`. Exponents far outside the range are settled
before any power is computed. -/
def ofDecimal (negative : Bool) (digits : Nat) (exponent : Int) : Binary64 :=
  let order : Int := (digits.log2 : Int) * 30103 / 100000 + exponent
  if digits = 0 then .finite negative 0 lowestExponent
  else if 400 < order then .infinite negative
  else if order < -400 then .finite negative 0 lowestExponent
  else
    let (n, d) := scaleQuotient digits 1 10 exponent
    ofQuotient negative n d

/-- The number nearest to a rational number. -/
def ofRat (q : Rat) : Binary64 := ofQuotient (decide (q < 0)) q.num.natAbs q.den

/-- The exact value of a finite number. -/
def toRat? : Binary64 → Option Rat
  | .finite negative m e =>
    let (n, d) := scaleQuotient m 1 2 e
    some (if negative then -((n : Rat) / d) else (n : Rat) / d)
  | _ => none

/-- Whether the number is a zero of either sign. -/
def isZero : Binary64 → Bool
  | .finite _ m _ => m == 0
  | _ => false

end Binary64

/-- The rational number rounded to fifty-three significant bits, without an upper bound. -/
def roundRat (q : Rat) : Rat :=
  let (m, e) := Binary64.nearest q.num.natAbs q.den
  let (n, d) := scaleQuotient m 1 2 e
  if q < 0 then -((n : Rat) / d) else (n : Rat) / d

end SharedTables
