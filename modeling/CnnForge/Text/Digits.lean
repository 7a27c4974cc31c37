namespace CnnForge.Text

def hexDigit (d : Nat) : Char :=
  if d < 10 then Char.ofNat (48 + d) else Char.ofNat (87 + d)

/-- Digits of `n` in `base`, most significant first, in front of `acc`. `fuel` bounds their number. -/
def digitsAux (base : Nat) : Nat → Nat → List Char → List Char
  | 0, _, acc => acc
  | fuel + 1, n, acc =>
    let acc := hexDigit (n % base) :: acc
    if n / base = 0 then acc else digitsAux base fuel (n / base) acc

def digits (base n : Nat) : List Char :=
  digitsAux base (n.log2 + 1) n []

def padLeft (width : Nat) (c : Char) (s : String) : String :=
  ("".pushn c (width - s.length)) ++ s

def padRight (width : Nat) (s : String) : String :=
  s.pushn ' ' (width - s.length)

/-- Integer `n` in `base`, filled with zeros between sign and digits to `width` characters. -/
def zeroPadded (base width : Nat) (n : Int) : String :=
  if n < 0 then
    "-" ++ padLeft (width - 1) '0' (String.ofList (digits base n.natAbs))
  else
    padLeft width '0' (String.ofList (digits base n.natAbs))

def hex (width : Nat) (n : Int) : String := zeroPadded 16 width n

def hexUpper (width : Nat) (n : Int) : String := (hex width n).map Char.toUpper

def decimal (width : Nat) (n : Int) : String := zeroPadded 10 width n

def groupThrees (cs : List Char) : List Char :=
  let rec go : List Char → Nat → List Char → List Char
    | [], _, acc => acc
    | c :: rest, k, acc =>
      if k = 3 then go rest 1 (c :: ',' :: acc) else go rest (k + 1) (c :: acc)
  go cs.reverse 0 []

def grouped (n : Int) : String :=
  (if n < 0 then "-" else "") ++ String.ofList (groupThrees (digits 10 n.natAbs))

def bracketed (xs : List String) : String :=
  "[" ++ ", ".intercalate xs ++ "]"

def parenthesized : List String → String
  | [x] => "(" ++ x ++ ",)"
  | xs => "(" ++ ", ".intercalate xs ++ ")"

def truth (b : Bool) : String := if b then "True" else "False"

/-- The text of an optional value, `None` when it is absent. -/
def orNone (f : α → String) : Option α → String
  | none => "None"
  | some a => f a

end CnnForge.Text
