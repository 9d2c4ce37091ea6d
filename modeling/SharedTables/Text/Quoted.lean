import SharedTables.Text.Hex
import SharedTables.Text.Printable

/-! Quoted text for messages. A text stands between single quotes, or between double quotes when
it holds a single quote and no double quote; what cannot be shown is escaped by its number. -/
namespace SharedTables.Text

/-- The quote that surrounds characters: the single one unless only it occurs inside. -/
def quoteFor (cs : List Char) : Char :=
  if cs.contains '\'' && !cs.contains '"' then '"' else '\''

/-- The short escapes shared by text and bytes. -/
def shortEscape? (quote c : Char) : Option (List Char) :=
  if c = quote || c = '\\' then some ['\\', c]
  else if c = '\t' then some ['\\', 't']
  else if c = '\n' then some ['\\', 'n']
  else if c = '\r' then some ['\\', 'r']
  else none

/-- One character inside quotes. -/
def quotedChar (quote c : Char) : List Char :=
  match shortEscape? quote c with
  | some escape => escape
  | none =>
    if isPrintable c then [c]
    else if c.toNat < 0x100 then '\\' :: 'x' :: hexFixed 2 c.toNat
    else if c.toNat < 0x10000 then '\\' :: 'u' :: hexFixed 4 c.toNat
    else '\\' :: 'U' :: hexFixed 8 c.toNat

/-- Characters between quotes. -/
def quotedChars (cs : List Char) : List Char :=
  let quote := quoteFor cs
  quote :: cs.flatMap (quotedChar quote) ++ [quote]

/-- Text between quotes. -/
def quoted (s : String) : String := String.ofList (quotedChars s.toList)

/-- One byte inside quotes: the printable characters of ASCII stand for themselves. -/
def quotedByte (quote : Char) (b : UInt8) : List Char :=
  let c := Char.ofNat b.toNat
  match shortEscape? quote c with
  | some escape => escape
  | none =>
    if 0x20 ≤ b.toNat ∧ b.toNat < 0x7f then [c] else '\\' :: 'x' :: hexFixed 2 b.toNat

/-- Bytes between quotes, marked by a leading `b`. -/
def quotedBytes (bytes : List UInt8) : String :=
  let quote := quoteFor (bytes.map fun b => Char.ofNat b.toNat)
  String.ofList ('b' :: quote :: bytes.flatMap (quotedByte quote) ++ [quote])

end SharedTables.Text
