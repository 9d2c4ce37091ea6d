import SharedTables.Number.Binary64

/-! The shortest decimal that reads back as a given binary number. The decimals that read back
fill an interval around the number, with its ends when the mantissa is even; the first grid of one,
two, … seventeen digits that meets the interval wins, and on it the point nearest to the number. -/
namespace SharedTables.Shortest

/-- The exponent of the highest power of ten that is at most `num / den`, for positive numbers. -/
def decimalOrder (num den : Nat) : Int :=
  let guess : Int := binaryOrder num den * 30103 / 100000
  let (n, d) := scaleQuotient num den 10 (-(guess + 1))
  let (n', d') := scaleQuotient num den 10 (-guess)
  if d ≤ n then guess + 1 else if n' < d' then guess - 1 else guess

/-- The interval of the numbers that round to `m * 2 ^ e`, in quarters of a unit: its ends and
whether they belong to it. Below a power of two the neighbours are half as far apart. -/
def interval (m : Nat) (e : Int) : Nat × Nat × Bool :=
  let low := if 2 * m = Binary64.mantissaLimit ∧ Binary64.lowestExponent < e then 4 * m - 1 else 4 * m - 2
  (low, 4 * m + 2, m % 2 == 0)

/-- The point of the grid `10 ^ k` that reads back as `m * 2 ^ e`, if one of the two neighbours on
the grid does; of two the nearer, of two equally near the even one. -/
def onGrid (m : Nat) (e : Int) (k : Int) : Option Nat :=
  let (low, high, closed) := interval m e
  -- quarters of a unit, measured in steps of the grid, are `num / den`
  let (num, den) := scaleQuotient 1 1 2 (e - 2)
  let (num, den) := scaleQuotient num den 10 (-k)
  let below := 4 * m * num / den
  let readsBack (d : Nat) : Bool :=
    if closed then low * num ≤ d * den && d * den ≤ high * num
    else low * num < d * den && d * den < high * num
  let rounded := roundQuotient (4 * m * num) den
  if readsBack rounded then some rounded
  else if readsBack below then some below
  else if readsBack (below + 1) then some (below + 1)
  else none

/-- Removes the zeros at the end of a digit string. -/
def stripZeros (digits : Nat) (k : Int) : Nat → Nat × Int
  | 0 => (digits, k)
  | steps + 1 => if digits % 10 = 0 then stripZeros (digits / 10) (k + 1) steps else (digits, k)

/-- The shortest decimal `digits * 10 ^ k` for a positive number `m * 2 ^ e`. -/
def shortest (m : Nat) (e : Int) : Nat × Int :=
  let (num, den) := scaleQuotient m 1 2 e
  let order := decimalOrder num den
  let grid (p : Nat) : Option (Nat × Int) := (onGrid m e (order - p)).map (·, order - p)
  let (digits, k) := ((List.range 17).findSome? grid).getD (m, e)
  stripZeros digits k 17

end SharedTables.Shortest
