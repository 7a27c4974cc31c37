import CnnForge.Text.Digits

namespace CnnForge.Text

attribute [default_instance 20000] instPowNat
attribute [local instance (2000)] instPowNat

structure Fraction where
  num : Nat
  den : Nat
deriving Repr, Inhabited

structure RoundingInterval where
  value : Fraction
  low : Fraction
  high : Fraction
  closed : Bool
deriving Repr, Inhabited

def quarters (m : Nat) (q : Int) : Fraction :=
  if q ≥ 2 then ⟨m * 2 ^ (q - 2).toNat, 1⟩ else ⟨m, 2 ^ (2 - q).toNat⟩

def RoundingInterval.of (m : Nat) (q : Int) (least : Bool) : RoundingInterval :=
  { value := quarters (4 * m) q, high := quarters (4 * m + 2) q,
    low := if m = 2 ^ 52 ∧ !least then quarters (4 * m - 1) q else quarters (4 * m - 2) q,
    closed := m % 2 = 0 }

namespace Fraction

def le (a b : Fraction) : Bool := a.num * b.den ≤ b.num * a.den

def scale (a : Fraction) (k : Int) : Fraction :=
  if k ≥ 0 then ⟨a.num * 10 ^ k.toNat, a.den⟩ else ⟨a.num, a.den * 10 ^ (-k).toNat⟩

/-- Exponent of the leading decimal digit, searched among `fuel` exponents below 1. -/
def magnitude (a : Fraction) (fuel : Nat) : Int :=
  if a.num ≥ a.den then ((digits 10 (a.num / a.den)).length : Int) - 1
  else
    let rec go : Nat → Nat → Int
      | 0, k => -(k : Int)
      | fuel + 1, k => if a.num * 10 ^ k ≥ a.den then -(k : Int) else go fuel (k + 1)
    go fuel 1

end Fraction

namespace RoundingInterval

def contains (r : RoundingInterval) (n : Nat) (e : Int) : Bool :=
  let x : Fraction := Fraction.scale ⟨n, 1⟩ e
  if r.closed then r.low.le x && x.le r.high
  else !(x.le r.low) && !(r.high.le x)

def onGrid? (r : RoundingInterval) (e : Int) : Option Nat :=
  let v := r.value.scale (-e)
  let n := v.num / v.den
  let rest := v.num % v.den
  let up := 2 * rest > v.den || (2 * rest = v.den && n % 2 = 1)
  let (first, second) := if up then (n + 1, n) else (n, n + 1)
  if first ≠ 0 && r.contains first e then some first
  else if second ≠ 0 && r.contains second e then some second
  else none

def shortest (r : RoundingInterval) : Nat × Int :=
  let top := r.value.magnitude 400
  let rec go : Nat → Int → Nat × Int
    | 0, e => ((r.onGrid? e).getD 0, e)
    | fuel + 1, e =>
      match r.onGrid? e with
      | some n => (n, e)
      | none => go fuel (e - 1)
  go 18 top

end RoundingInterval

def layoutDigits (ds : List Char) (point : Int) : String :=
  let n := ds.length
  if point ≤ 0 then "0." ++ "".pushn '0' (-point).toNat ++ String.ofList ds
  else if point ≥ n then String.ofList ds ++ "".pushn '0' (point - n).toNat ++ ".0"
  else String.ofList (ds.take point.toNat) ++ "." ++ String.ofList (ds.drop point.toNat)

def layoutScientific (ds : List Char) (point : Int) : String :=
  let e := point - 1
  let mantissa := match ds with
    | [d] => String.singleton d
    | d :: rest => String.ofList (d :: '.' :: rest)
    | [] => "0"
  mantissa ++ "e" ++ (if e < 0 then "-" else "+") ++ decimal 2 (e.natAbs : Int)

/-- The text of a floating-point number. Exponents from -4 to 15 are written positionally. -/
def ofReal (x : Float) : String :=
  let bits := x.toBits.toNat
  let sign := if bits ≥ 2 ^ 63 then "-" else ""
  let biased : Nat := bits / 2 ^ 52 % 2 ^ 11
  let fraction := bits % 2 ^ 52
  if biased = 2047 then (if fraction = 0 then sign ++ "inf" else "nan")
  else if biased = 0 ∧ fraction = 0 then sign ++ "0.0"
  else
    let (m, q) := if biased = 0 then (fraction, (-1074 : Int))
      else (2 ^ 52 + fraction, (biased : Int) - 1075)
    let (n, e) := (RoundingInterval.of m q (biased ≤ 1)).shortest
    let ds := (digits 10 n).reverse.dropWhile (· == '0') |>.reverse
    let point := e + (digits 10 n).length
    sign ++ if -4 < point ∧ point ≤ 16 then layoutDigits ds point else layoutScientific ds point

end CnnForge.Text
