namespace CnnForge.Text

def decimalZeros : List Nat :=
  [0x30, 0x660, 0x6f0, 0x7c0, 0x966, 0x9e6, 0xa66, 0xae6, 0xb66, 0xbe6, 0xc66, 0xce6, 0xd66, 0xde6,
   0xe50, 0xed0, 0xf20, 0x1040, 0x1090, 0x17e0, 0x1810, 0x1946, 0x19d0, 0x1a80, 0x1a90, 0x1b50,
   0x1bb0, 0x1c40, 0x1c50, 0xa620, 0xa8d0, 0xa900, 0xa9d0, 0xa9f0, 0xaa50, 0xabf0, 0xff10, 0x104a0,
   0x10d30, 0x11066, 0x110f0, 0x11136, 0x111d0, 0x112f0, 0x11450, 0x114d0, 0x11650, 0x116c0,
   0x11730, 0x118e0, 0x11950, 0x11c50, 0x11d50, 0x11da0, 0x16a60, 0x16ac0, 0x16b50, 0x1d7ce,
   0x1d7d8, 0x1d7e2, 0x1d7ec, 0x1d7f6, 0x1e140, 0x1e2f0, 0x1e950, 0x1fbf0]

def isBlank (c : Char) : Bool :=
  let n := c.toNat
  (9 ≤ n && n ≤ 13) || (0x1c ≤ n && n ≤ 0x20) || n == 0x85 || n == 0xa0 || n == 0x1680
    || (0x2000 ≤ n && n ≤ 0x200a) || n == 0x2028 || n == 0x2029 || n == 0x202f || n == 0x205f
    || n == 0x3000

/-- `cs` without the blanks at both ends. -/
def trimBlanks (cs : List Char) : List Char :=
  ((cs.dropWhile isBlank).reverse.dropWhile isBlank).reverse

def digitValue? (c : Char) : Option Nat :=
  let n := c.toNat
  if n < 128 then
    if c.isDigit then some (n - 48)
    else if 'a' ≤ c && c ≤ 'z' then some (n - 87)
    else if 'A' ≤ c && c ≤ 'Z' then some (n - 55)
    else none
  else (decimalZeros.find? fun z => z ≤ n && n < z + 10).map (n - ·)

/-- Value of digits in `base` with single underscores between them; `none` for anything else. -/
def digitsValue? (base : Nat) (cs : List Char) : Option Nat :=
  let rec go : List Char → Bool → Nat → Option Nat
    | [], afterDigit, acc => if afterDigit then some acc else none
    | '_' :: rest, afterDigit, acc => if afterDigit then go rest false acc else none
    | c :: rest, _, acc =>
      match digitValue? c with
      | some d => if d < base then go rest true (acc * base + d) else none
      | none => none
  go cs false 0

def markedBase? : Char → Option Nat
  | 'x' | 'X' => some 16
  | 'o' | 'O' => some 8
  | 'b' | 'B' => some 2
  | _ => none

/-- An unsigned numeral. With base zero the numeral's own mark decides, and without a mark the
numeral is decimal and starts with a zero only if it is zero. -/
def numeral? (base : Nat) (cs : List Char) : Option Nat :=
  match cs with
  | '0' :: m :: rest =>
    match markedBase? m with
    | some b =>
      if base = 0 || base = b then
        let rest := match rest with
          | '_' :: r => r
          | r => r
        digitsValue? b rest
      else digitsValue? base cs
    | none =>
      if base = 0 then
        match digitsValue? 10 cs with
        | some 0 => some 0
        | _ => none
      else digitsValue? base cs
  | _ => digitsValue? (if base = 0 then 10 else base) cs

def maxNumeralDigits : Nat := 4300

def readInt? (base : Nat) (s : String) : Option Int :=
  let cs := trimBlanks s.toList
  let (negative, body) := match cs with
    | '-' :: r => (true, r)
    | '+' :: r => (false, r)
    | r => (false, r)
  if (base = 10 || base = 0) && maxNumeralDigits < (body.filter (· != '_')).length then none
  else (numeral? base body).map fun n => if negative then -(n : Int) else n

end CnnForge.Text
