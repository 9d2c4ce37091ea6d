/-! Splitting text at single characters. -/
namespace SharedTables.Text

/-- Splits at every occurrence of a character. -/
def splitAll (mark : Char) : List Char → List (List Char)
  | [] => [[]]
  | c :: rest =>
    if c = mark then [] :: splitAll mark rest
    else
      match splitAll mark rest with
      | first :: others => (c :: first) :: others
      | [] => [[c]]

/-- Splits at the last occurrence of a character: what precedes it and what follows. -/
def splitLast? (mark : Char) : List Char → Option (List Char × List Char)
  | [] => none
  | c :: rest =>
    match splitLast? mark rest with
    | some (before, after) => some (c :: before, after)
    | none => if c = mark then some ([], rest) else none

end SharedTables.Text
