import CnnForge.Failure
import CnnForge.Text.Digits

namespace CnnForge.Text

inductive Align where
  | left | right | center | afterSign
deriving Repr, DecidableEq, Inhabited

inductive Sign where
  | minusOnly | always | blank
deriving Repr, DecidableEq, Inhabited

structure Field where
  fill : Char := ' '
  align : Align := .right
  sign : Sign := .minusOnly
  marked : Bool := false
  width : Nat := 0
  separator : Option Char := none
  base : Char := 'd'
deriving Repr, DecidableEq, Inhabited

namespace Field

def alignOf? : Char → Option Align
  | '<' => some .left
  | '>' => some .right
  | '^' => some .center
  | '=' => some .afterSign
  | _ => none

def readAlign : List Char → Option (Char × Align) × List Char
  | c :: d :: rest =>
    match alignOf? d with
    | some a => (some (c, a), rest)
    | none =>
      match alignOf? c with
      | some a => (some (' ', a), d :: rest)
      | none => (none, c :: d :: rest)
  | [c] =>
    match alignOf? c with
    | some a => (some (' ', a), [])
    | none => (none, [c])
  | [] => (none, [])

def readSign : List Char → Sign × List Char
  | '+' :: r => (.always, r)
  | '-' :: r => (.minusOnly, r)
  | ' ' :: r => (.blank, r)
  | r => (.minusOnly, r)

def readFlag (c : Char) : List Char → Bool × List Char
  | d :: r => if d = c then (true, r) else (false, d :: r)
  | [] => (false, [])

def readNat (cs : List Char) : Nat × List Char :=
  let ds := cs.takeWhile Char.isDigit
  (ds.foldl (fun n d => n * 10 + (d.toNat - 48)) 0, cs.dropWhile Char.isDigit)

def read? (spec : String) : Option Field :=
  let (aligned, r) := readAlign spec.toList
  let (sign, r) := readSign r
  let (marked, r) := readFlag '#' r
  let (zero, r) := readFlag '0' r
  let (width, r) := readNat r
  let (separator, r) := match r with
    | ',' :: r => (some ',', r)
    | '_' :: r => (some '_', r)
    | r => (none, r)
  let base? := match r with
    | [] => some 'd'
    | [c] => if "bcdoxXn".toList.contains c then some c else none
    | _ => none
  let (fill, align) := match aligned with
    | some fa => fa
    | none => if zero then ('0', .afterSign) else (' ', .right)
  base?.map fun base => { fill, align, sign, marked, width, separator, base }

def separate (sep : Char) (k : Nat) (cs : List Char) : List Char :=
  let rec go : List Char → Nat → List Char → List Char
    | [], _, acc => acc
    | c :: rest, n, acc =>
      if n = k then go rest 1 (c :: sep :: acc) else go rest (n + 1) (c :: acc)
  go cs.reverse 0 []

def render (f : Field) (n : Int) : String :=
  let base := match f.base with
    | 'b' => 2
    | 'o' => 8
    | 'x' | 'X' => 16
    | _ => 10
  let ds := digits base n.natAbs
  let ds := match f.separator with
    | some s => separate s (if base = 10 then 3 else 4) ds
    | none => ds
  let body := String.ofList ds
  let body := if f.base = 'X' then body.map Char.toUpper else body
  let mark := if f.marked then
      match f.base with
      | 'b' => "0b"
      | 'o' => "0o"
      | 'x' => "0x"
      | 'X' => "0X"
      | _ => ""
    else ""
  let lead := (if n < 0 then "-" else match f.sign with
    | .always => "+"
    | .blank => " "
    | .minusOnly => "") ++ mark
  let body := if f.base = 'c' then String.singleton (Char.ofNat n.toNat) else body
  let lead := if f.base = 'c' then "" else lead
  let room := f.width - (lead.length + body.length)
  match f.align with
  | .left => (lead ++ body).pushn f.fill room
  | .right => "".pushn f.fill room ++ lead ++ body
  | .center => ("".pushn f.fill (room / 2) ++ lead ++ body).pushn f.fill (room - room / 2)
  | .afterSign => lead ++ "".pushn f.fill room ++ body

end Field

inductive Piece where
  | literal (s : String)
  | field (f : Field)
deriving Repr, DecidableEq, Inhabited

abbrev Template := List Piece

namespace Template

def readField (body : List Char) : Except Failure Field :=
  let name := body.takeWhile (· != ':')
  let spec := (body.dropWhile (· != ':')).drop 1
  match name with
  | [] | ['0'] =>
    match Field.read? (String.ofList spec) with
    | some f => .ok f
    | none => .error .value
  | c :: _ => .error (if c.isDigit then .index else .key)

def read (text : String) : Except Failure Template :=
  let rec go : Nat → List Char → List Char → Template → Except Failure Template
    | 0, _, _, _ => .error .value
    | fuel + 1, cs, lit, acc =>
      let flush := if lit.isEmpty then acc else .literal (String.ofList lit.reverse) :: acc
      match cs with
      | [] => .ok flush.reverse
      | '\x7b' :: '\x7b' :: r => go fuel r ('\x7b' :: lit) acc
      | '\x7d' :: '\x7d' :: r => go fuel r ('\x7d' :: lit) acc
      | '\x7d' :: _ => .error .value
      | '\x7b' :: r =>
        let body := r.takeWhile (· != '\x7d')
        match r.dropWhile (· != '\x7d') with
        | [] => .error .value
        | _ :: rest => do
          let f ← readField body
          go fuel rest [] (.field f :: flush)
      | c :: r => go fuel r (c :: lit) acc
  go (text.length + 1) text.toList [] []

def render (t : Template) (n : Int) : String :=
  t.foldl (fun acc p =>
    match p with
    | .literal s => acc ++ s
    | .field f => acc ++ f.render n) ""

end Template

end CnnForge.Text
