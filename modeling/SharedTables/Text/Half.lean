/-! Code units of two bytes. Two of them make a character past the first plane, and each is half of
the pair. A half that stands alone is no character: texts hold the replacement character for it. -/
namespace SharedTables.Text

/-- Whether a code unit is half of a pair. -/
def isHalf (unit : Nat) : Bool := 0xd800 ≤ unit && unit < 0xe000

/-- The character of a code unit that stands alone. -/
def unitChar (unit : Nat) : Char := if isHalf unit then '\ufffd' else Char.ofNat unit

/-- The character of two code units that form a pair. -/
def pairChar? (high low : Nat) : Option Char :=
  if 0xd800 ≤ high ∧ high < 0xdc00 ∧ 0xdc00 ≤ low ∧ low < 0xe000 then
    some (Char.ofNat (0x10000 + (high - 0xd800) * 0x400 + (low - 0xdc00)))
  else none

end SharedTables.Text
