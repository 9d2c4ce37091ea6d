import SharedTables.Text.Ranges

/-! White space, and text with the white space at its ends removed. -/
namespace SharedTables.Text

/-- The twenty-nine characters of white space: those that separate words, lines or paragraphs,
and the four separators of the control range. -/
def blankRanges : List (Nat × Nat) := [
  (0x0009, 0x000d), (0x001c, 0x0020), (0x0085, 0x0085), (0x00a0, 0x00a0), (0x1680, 0x1680),
  (0x2000, 0x200a), (0x2028, 0x2029), (0x202f, 0x202f), (0x205f, 0x205f), (0x3000, 0x3000)]

/-- Whether a character is white space. -/
def isBlank (c : Char) : Bool := inRanges blankRanges c

/-- Characters without the white space before the first and after the last other character. -/
def trimChars (cs : List Char) : List Char :=
  ((cs.dropWhile isBlank).reverse.dropWhile isBlank).reverse

/-- Text without the white space at its ends. -/
def trim (s : String) : String := String.ofList (trimChars s.toList)

end SharedTables.Text
