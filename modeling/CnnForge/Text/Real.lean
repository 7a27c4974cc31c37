import CnnForge.Text.Numeral

namespace CnnForge.Text

attribute [local instance (2000)] instPowNat

/-- The real nearest to `m * 10 ^ e`. Exponents far outside the range of reals are cut off. -/
def realOf (negative : Bool) (m : Nat) (e : Int) : Float :=
  let size : Int := (Nat.toDigits 10 m).length
  let x : Float :=
    if m = 0 || e + size < -400 then 0.0
    else if e + size > 400 then 1.0 / 0.0
    else Float.ofScientific m (e < 0) e.natAbs
  if negative then -x else x

def splitDigits (cs : List Char) : List Char × List Char :=
  cs.span fun c => c == '_' || (digitValue? c).any (· < 10)

def readExponent? : List Char → Option Int
  | [] => some 0
  | c :: rest =>
    if c = 'e' || c = 'E' then
      match rest with
      | '-' :: ds => (digitsValue? 10 ds).map fun n => -(n : Int)
      | '+' :: ds => (digitsValue? 10 ds).map Int.ofNat
      | ds => (digitsValue? 10 ds).map Int.ofNat
    else none

def readUnsignedReal? (negative : Bool) (cs : List Char) : Option Float := do
  let (whole, rest) := splitDigits cs
  let (places, rest) := match rest with
    | '.' :: r => splitDigits r
    | r => ([], r)
  if whole.isEmpty && places.isEmpty then none
  let w ← if whole.isEmpty then some 0 else digitsValue? 10 whole
  let p ← if places.isEmpty then some 0 else digitsValue? 10 places
  let n := (places.filter (· != '_')).length
  let e ← readExponent? rest
  return realOf negative (w * 10 ^ n + p) (e - n)

def readReal? (s : String) : Option Float :=
  let cs := trimBlanks s.toList
  let (negative, body) := match cs with
    | '-' :: r => (true, r)
    | '+' :: r => (false, r)
    | r => (false, r)
  match String.ofList (body.map Char.toLower) with
  | "inf" | "infinity" => some (if negative then -(1.0 / 0.0) else 1.0 / 0.0)
  | "nan" => some (0.0 / 0.0)
  | _ => readUnsignedReal? negative body

end CnnForge.Text
