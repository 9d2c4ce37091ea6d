import SharedTables.Text.CaseTable
import SharedTables.Text.Ranges

/-! Lower case of text in every script. Two letters need more than a table: the dotted capital I
has two characters in lower case, and the small sigma at the end of a word has its own shape. -/
namespace SharedTables.Text

/-- The distance from a capital letter to its small letter. -/
def lowerDistance? (c : Char) : Option Int :=
  (capitalRuns.find? fun run =>
    run.1 ≤ c.toNat && c.toNat ≤ run.2.1 && (c.toNat - run.1) % run.2.2.1 == 0).map (·.2.2.2)

/-- The small letter of a single capital, other characters unchanged. -/
def lowerChar (c : Char) : Char :=
  match lowerDistance? c with
  | some distance => Char.ofNat (Int.toNat (c.toNat + distance))
  | none => c

/-- Whether the nearest character that counts for the shape of a sigma has case. -/
def besideLetter (cs : List Char) : Bool :=
  match cs.dropWhile (inRanges caseIgnorableRanges) with
  | c :: _ => inRanges casedRanges c
  | [] => false

/-- Lower case of the characters `cs` that follow the characters `before`, nearest first. -/
def lowerAfter (before : List Char) : List Char → List Char
  | [] => []
  | c :: after =>
    let small :=
      if c = 'Σ' then
        if besideLetter before && !besideLetter after then ['ς'] else ['σ']
      else if c = 'İ' then ['i', '\u0307']
      else [lowerChar c]
    small ++ lowerAfter (c :: before) after

/-- Text in lower case. -/
def lower (s : String) : String := String.ofList (lowerAfter [] s.toList)

end SharedTables.Text
