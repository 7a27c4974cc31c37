import CnnForge.Failure
import CnnForge.Text.Digits

namespace CnnForge

inductive Counter where
  | macc | comp | add | mul | bitwise | swMacc | swComp | trueMacc | trueSwMacc
deriving Repr, DecidableEq, Inhabited

namespace Counter

def all : List Counter :=
  [macc, comp, add, mul, bitwise, swMacc, swComp, trueMacc, trueSwMacc]

def name : Counter → String
  | macc => "macc"
  | comp => "comp"
  | add => "add"
  | mul => "mul"
  | bitwise => "bitwise"
  | swMacc => "sw_macc"
  | swComp => "sw_comp"
  | trueMacc => "true_macc"
  | trueSwMacc => "true_sw_macc"

def ofName? (s : String) : Option Counter := all.find? (·.name = s)

def toNat : Counter → Nat
  | macc => 0
  | comp => 1
  | add => 2
  | mul => 3
  | bitwise => 4
  | swMacc => 5
  | swComp => 6
  | trueMacc => 7
  | trueSwMacc => 8

end Counter

structure Statistics where
  counts : Array (Array Int) := Array.replicate 9 #[0]
deriving Repr, Inhabited

/-- The position in a list of `size` elements that index `i` means; a negative one counts from the
end. -/
def position? (size : Nat) (i : Int) : Option Nat :=
  let j := if i < 0 then i + size else i
  if 0 ≤ j ∧ j < size then some j.toNat else none

theorem position?_lt {size i : Nat} {k : Int} (found : position? size k = some i) : i < size := by
  simp only [position?, Option.ite_none_right_eq_some, Option.some.injEq] at found
  obtain ⟨⟨low, high⟩, rfl⟩ := found
  exact (Int.toNat_lt low).mpr high

theorem position?_natCast {size k : Nat} (inside : k < size) : position? size k = some k := by
  have counted : ¬ (k : Int) < 0 := by omega
  simp [position?, counted, inside]

theorem eq_of_position?_natCast {size k i : Nat} (found : position? size k = some i) : i = k := by
  have counted : ¬ (k : Int) < 0 := by omega
  simp only [position?, counted, if_false, Option.ite_none_right_eq_some, Option.some.injEq] at found
  omega

namespace Statistics

def counter (s : Statistics) (c : Counter) : Array Int := s.counts.getD c.toNat #[]

def total (s : Statistics) (c : Counter) : Int := (s.counter c).foldl (· + ·) 0

def get (s : Statistics) (layer : Int) (c : Counter) : Except Failure Int :=
  let a := s.counter c
  if (a.size : Int) ≤ layer then .ok 0
  else match position? a.size layer with
    | some j => .ok (a.getD j 0)
    | none => .error .index

def addAt (xs : Array Int) (layer : Int) (value : Int) : Except Failure (Array Int) :=
  let xs := xs ++ Array.replicate ((layer + 1 - xs.size).toNat) 0
  match position? xs.size layer with
  | some j => .ok (xs.modify j (· + value))
  | none => .error .index

def account (s : Statistics) (layer : Int) (c : Counter) (value : Int) :
    Except Failure Statistics := do
  let a ← addAt (s.counter c) layer value
  return { s with counts := s.counts.setIfInBounds c.toNat a }

def ops (s : Statistics) : Int :=
  s.total .macc + s.total .comp + s.total .add + s.total .mul + s.total .bitwise

def layerOps (s : Statistics) (layer : Int) : Except Failure Int := do
  return (← s.get layer .macc) + (← s.get layer .comp) + (← s.get layer .add)
    + (← s.get layer .mul) + (← s.get layer .bitwise)

def softwareOps (s : Statistics) : Int := s.total .swMacc + s.total .swComp

end Statistics

end CnnForge
