import SharedTables.Profile.Basic
import SharedTables.Time.Reader

/-! When the token of a profile expires. -/
namespace SharedTables.Profile

/-- How many digits a fraction of a second keeps. -/
def fractionDigits : Nat := 6

/-- Cuts every run of digits after a point to six, and fills shorter runs with zeros. The count is
the number of digits kept since the last point, if only digits followed it. -/
def sixDigits (count : Option Nat) : List Char → List Char
  | [] => fill count
  | c :: rest =>
    if count.isSome && Text.isDigit c then
      if count.getD 0 < fractionDigits then c :: sixDigits (count.map (· + 1)) rest
      else sixDigits count rest
    else
      let begins := c = '.' && (rest.head?.map Text.isDigit).getD false
      fill count ++ c :: sixDigits (if begins then some 0 else none) rest
where
  /-- The zeros that a run of digits lacks. -/
  fill (count : Option Nat) : List Char :=
    match count with
    | some n => List.replicate (fractionDigits - n) '0'
    | none => []

/-- A final `Z` written as an offset. -/
def spellOutUtc (cs : List Char) : List Char :=
  if cs.getLast? = some 'Z' then cs.dropLast ++ "+00:00".toList else cs

/-- `parse_expiration_time`: reads a time of expiration. Without an offset universal time is meant,
and fractions of a second are cut to microseconds. -/
def readExpiration? (s : String) : Option DateTime :=
  let cs := sixDigits none (spellOutUtc (Text.trimChars s.toList))
  (DateTime.read? (String.ofList cs)).map fun t => { t with offset := some (t.offset.getD 0) }

/-- `is_expired`: whether the token of a profile has expired at an instant, given in microseconds
since the start of 1970. A time of expiration that cannot be read does not count. -/
def isExpired (profile : Profile) (now : Int) : Except ProfileError Bool :=
  match profile with
  | .client _ => .ok false
  | .bearer p =>
    if !p.expiration.truthy then .ok false
    else
      match p.expiration with
      | .str s =>
        match readExpiration? s with
        | some t => .ok (decide (t.instant ≤ now))
        | none => .ok false
      | _ => .error .expirationNotText

end SharedTables.Profile
