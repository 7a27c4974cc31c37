namespace CnnForge.Bits

-- Powers of numbers are the built-in ones, whatever algebra is imported beside them.
attribute [default_instance 20000] instPowNat
attribute [local instance (2000)] instPowNat

/-- Index of the lowest set bit of `x`, by trying `fuel` positions from `k` on. -/
def lowestFrom (x : Nat) : Nat → Nat → Nat
  | 0, k => k
  | fuel + 1, k => if x.testBit k then k else lowestFrom x fuel (k + 1)

/-- Index of the least significant set bit, `-1` when there is none. -/
def lowest (x : Int) : Int :=
  if x = 0 then -1 else lowestFrom x.natAbs (x.natAbs.log2 + 1) 0

/-- Index of the most significant set bit, `-1` when there is none. -/
def highest (x : Int) : Int :=
  if x = 0 then -1 else x.natAbs.log2

def countBelow (x : Nat) : Nat → Nat
  | 0 => 0
  | n + 1 => countBelow x n + (if x.testBit n then 1 else 0)

def count (x : Int) : Nat := countBelow x.natAbs (x.natAbs.log2 + 1)

/-- Position of the `n`-th set bit of `x`, counted from 1 at the right end; `-1` when `x` has fewer
set bits or `n` is not positive. -/
def nth (n x : Int) : Int :=
  if n ≤ 0 then -1
  else
    match ((List.range (x.natAbs.log2 + 1)).filter x.natAbs.testBit)[n.toNat - 1]? with
    | some k => k
    | none => -1

/-- Bits of `x` and `y` in two's complement, both set. -/
def and : Int → Int → Int
  | .ofNat x, .ofNat y => .ofNat (x &&& y)
  | .ofNat x, .negSucc y => .ofNat (x - (x &&& y))
  | .negSucc x, .ofNat y => .ofNat (y - (y &&& x))
  | .negSucc x, .negSucc y => .negSucc (x ||| y)

def or (x y : Int) : Int := -(and (-x - 1) (-y - 1)) - 1

def xor (x y : Int) : Int := and (or x y) (-(and x y) - 1)

def up (x : Int) (k : Nat) : Int := x * 2 ^ k

def down (x : Int) (k : Nat) : Int := x >>> k

def low (k : Nat) (x : Int) : Int := x.emod (2 ^ k)

def byte (x : Int) : Int := low 8 x

def unsigned (x : Int) : Int := if x < 0 then x + 256 else x

def signed (x : Int) : Int := if x > 127 then x - 256 else x

def roundUp4 (x : Int) : Int := (x + 3).fdiv 4 * 4

def roundDown4 (x : Int) : Int := x.fdiv 4 * 4

/-- Index of the first smallest element, `none` for an empty list. -/
def argMin : List Int → Option Nat
  | [] => none
  | x :: xs =>
    let rec go : List Int → Nat → Nat → Int → Nat
      | [], _, best, _ => best
      | y :: ys, i, best, value =>
        if y < value then go ys (i + 1) i y else go ys (i + 1) best value
    some (go xs 1 0 x)

def overlap (a b : Int × Int) : Bool :=
  (a.1 ≥ b.1 && a.1 ≤ b.2) || (a.2 ≥ b.1 && a.2 ≤ b.2)
    || (b.1 ≥ a.1 && b.1 ≤ a.2) || (b.2 ≥ a.1 && b.2 ≤ a.2)

def positions (x : Nat) : List Nat :=
  (List.range (x.log2 + 1)).filter x.testBit

end CnnForge.Bits
