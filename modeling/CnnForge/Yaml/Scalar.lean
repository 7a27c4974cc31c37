import CnnForge.Failure
import CnnForge.Text.Real
import CnnForge.Value

namespace CnnForge.Yaml

inductive ScalarType where
  | null
  | bool
  | int
  | real
  | time
  | merge
  | default
  | text
deriving Repr, DecidableEq

namespace ScalarType

def truthWords : List String := ["yes", "true", "on"]

def falsityWords : List String := ["no", "false", "off"]

def isSpelling (word s : String) : Bool :=
  s == word || s == word.toUpper || s == word.capitalize

def isDigits (cs : List Char) : Bool := cs.all fun c => c.isDigit || c = '_'

def isNumber : List Char → Bool
  | c :: cs => c.isDigit && isDigits cs
  | [] => false

def isSixtieth : List Char → Bool
  | [c] => c.isDigit
  | [d, c] => '0' ≤ d && d ≤ '5' && c.isDigit
  | _ => false

def withoutSign : List Char → List Char
  | c :: cs => if c = '-' || c = '+' then cs else c :: cs
  | [] => []

def colonParts (cs : List Char) : List (List Char) := cs.splitOn ':'

def isExponent : List Char → Bool
  | [] => true
  | e :: s :: cs => (e = 'e' || e = 'E') && (s = '-' || s = '+') && !cs.isEmpty && cs.all Char.isDigit
  | _ => false

def isFraction (cs : List Char) : Bool :=
  let (_, rest) := cs.span fun c => c.isDigit || c = '_'
  isExponent rest

def isReal (cs : List Char) : Bool :=
  let body := withoutSign cs
  let (whole, rest) := body.span fun c => c.isDigit || c = '_'
  let plain := match rest with
    | '.' :: places => isNumber whole && isFraction places
    | _ => false
  let leading := match cs with
    | '.' :: places => (places.head?.any Char.isDigit) && isFraction places
    | _ => false
  let sixty := match (colonParts body).reverse with
    | last :: middle =>
      match middle.reverse with
      | first :: between =>
        let (minutes, places) := last.span (· != '.')
        isNumber first && between.all isSixtieth && isSixtieth minutes
          && places.head? == some '.' && isDigits (places.drop 1)
      | [] => false
    | [] => false
  plain || leading || sixty || isSpecial (String.ofList body) ".inf" || isSpecial (String.ofList cs) ".nan"
where
  isSpecial (s word : String) : Bool :=
    s == word || s == word.toUpper
      || s == (if word == ".nan" then ".NaN" else ".Inf")

def isInt (cs : List Char) : Bool :=
  let body := withoutSign cs
  match body with
  | ['0'] => true
  | '0' :: 'b' :: ds => !ds.isEmpty && ds.all fun c => c = '0' || c = '1' || c = '_'
  | '0' :: 'x' :: ds =>
    !ds.isEmpty && ds.all fun c =>
      c.isDigit || ('a' ≤ c && c ≤ 'f') || ('A' ≤ c && c ≤ 'F') || c = '_'
  | '0' :: ds => ds.all fun c => ('0' ≤ c && c ≤ '7') || c = '_'
  | c :: ds =>
    ('1' ≤ c && c ≤ '9')
      && (isDigits ds
        || match colonParts ds with
          | first :: rest => isDigits first && !rest.isEmpty && rest.all isSixtieth
          | [] => false)
  | [] => false

def takeDigits? (least most : Nat) (cs : List Char) : Option (Nat × List Char) :=
  let ds := (cs.take most).takeWhile Char.isDigit
  if ds.length < least then none
  else some (ds.foldl (fun n c => n * 10 + (c.toNat - 48)) 0, cs.drop ds.length)

def dropChar? (c : Char) : List Char → Option (List Char)
  | d :: cs => if d = c then some cs else none
  | [] => none

def takeDate? (least : Nat) (cs : List Char) : Option ((Nat × Nat × Nat) × List Char) := do
  let (y, cs) ← takeDigits? 4 4 cs
  let (m, cs) ← takeDigits? least 2 (← dropChar? '-' cs)
  let (d, cs) ← takeDigits? least 2 (← dropChar? '-' cs)
  return ((y, m, d), cs)

def isZone (cs : List Char) : Bool :=
  let cs := cs.dropWhile fun c => c = ' ' || c = '\t'
  match cs with
  | ['Z'] => true
  | s :: rest =>
    (s = '-' || s = '+') && match takeDigits? 1 2 rest with
      | some (_, []) => true
      | some (_, ':' :: [a, b]) => a.isDigit && b.isDigit
      | _ => false
  | [] => false

def takeTime? (cs : List Char) : Option (Nat × Nat × Nat) := do
  let cs ← match cs with
    | c :: rest =>
      if c = 'T' || c = 't' then some rest
      else if c = ' ' || c = '\t' then some (rest.dropWhile fun c => c = ' ' || c = '\t')
      else none
    | [] => none
  let (h, cs) ← takeDigits? 1 2 cs
  let (m, cs) ← takeDigits? 2 2 (← dropChar? ':' cs)
  let (s, cs) ← takeDigits? 2 2 (← dropChar? ':' cs)
  let cs := match cs with
    | '.' :: rest => rest.dropWhile Char.isDigit
    | rest => rest
  if cs.isEmpty || isZone cs then return (h, m, s) else none

def readMoment? (cs : List Char) : Option ((Nat × Nat × Nat) × Option (Nat × Nat × Nat)) :=
  match takeDate? 2 cs with
  | some (d, []) => some (d, none)
  | _ => do
    let (d, rest) ← takeDate? 1 cs
    let t ← takeTime? rest
    return (d, some t)

def ofContent (s : String) : ScalarType :=
  let cs := s.toList
  if s == "" || s == "~" || isSpelling "null" s then .null
  else if (truthWords ++ falsityWords).any (isSpelling · s) then .bool
  else if isReal cs then .real
  else if isInt cs then .int
  else if s == "<<" then .merge
  else if s == "=" then .default
  else if (readMoment? cs).isSome then .time
  else .text

def ofTag? (tag : String) : Option ScalarType :=
  match tag with
  | "tag:yaml.org,2002:null" => some .null
  | "tag:yaml.org,2002:bool" => some .bool
  | "tag:yaml.org,2002:int" => some .int
  | "tag:yaml.org,2002:float" => some .real
  | "tag:yaml.org,2002:timestamp" => some .time
  | "tag:yaml.org,2002:str" => some .text
  | _ => none

def sixties (parts : List Int) : Int := parts.foldl (fun n p => n * 60 + p) 0

def readIntValue (s : String) : Except Failure Int := do
  let cs := s.toList.filter (· != '_')
  let sign : Int := if cs.head? = some '-' then -1 else 1
  if cs.isEmpty then throw .index
  let body := withoutSign cs
  let orValue (n : Option Int) : Except Failure Int :=
    match n with
    | some n => pure (sign * n)
    | none => throw .value
  match body with
  | ['0'] => return 0
  | '0' :: 'b' :: ds => orValue (Text.readInt? 2 (String.ofList ds))
  | '0' :: 'x' :: ds => orValue (Text.readInt? 16 (String.ofList ds))
  | '0' :: _ => orValue (Text.readInt? 8 (String.ofList body))
  | [] => throw .index
  | _ =>
    if body.contains ':' then
      orValue ((colonParts body).mapM (fun p => Text.readInt? 10 (String.ofList p)) |>.map sixties)
    else orValue (Text.readInt? 10 (String.ofList body))

def readRealValue (s : String) : Except Failure Float := do
  let cs := (s.toList.filter (· != '_')).map Char.toLower
  let sign : Float := if cs.head? = some '-' then -1.0 else 1.0
  if cs.isEmpty then throw .index
  let body := withoutSign cs
  let orValue (x : Option Float) : Except Failure Float :=
    match x with
    | some x => pure (sign * x)
    | none => throw .value
  match String.ofList body with
  | ".inf" => return sign * (1.0 / 0.0)
  | ".nan" => return 0.0 / 0.0
  | plain =>
    if body.contains ':' then
      orValue <| (colonParts body).mapM (fun p => Text.readReal? (String.ofList p)) |>.map fun ps =>
        (ps.reverse.foldl (fun (v, b) p => (v + p * b, b * 60.0)) (0.0, 1.0)).1
    else orValue (Text.readReal? plain)

def daysInMonth (y m : Nat) : Nat :=
  if m = 2 then if y % 4 = 0 && (y % 100 != 0 || y % 400 = 0) then 29 else 28
  else if m = 4 || m = 6 || m = 9 || m = 11 then 30
  else 31

def readTimeValue (s : String) : Except Failure Value := do
  match readMoment? s.toList with
  | none => throw .property
  | some ((y, m, d), clock) =>
    unless 1 ≤ y && 1 ≤ m && m ≤ 12 && 1 ≤ d && d ≤ daysInMonth y m do throw .value
    match clock with
    | none => return .other "date"
    | some (h, n, s) =>
      unless h < 24 && n < 60 && s < 60 do throw .value
      return .other "datetime"

def value (t : ScalarType) (s : String) : Except Failure Value :=
  match t with
  | .null => pure .null
  | .bool =>
    if truthWords.contains s.toLower then pure (.bool true)
    else if falsityWords.contains s.toLower then pure (.bool false)
    else throw .key
  | .int => (readIntValue s).map .int
  | .real => (readRealValue s).map .real
  | .time => readTimeValue s
  | .merge | .default => throw .markup
  | .text => pure (.text s)

end ScalarType

end CnnForge.Yaml
