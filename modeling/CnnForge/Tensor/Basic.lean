namespace CnnForge

def shapeSize : List Nat → Nat
  | [] => 1
  | n :: rest => n * shapeSize rest

structure Tensor where
  shape : List Nat
  data : Array Int
  size_eq : data.size = shapeSize shape
deriving DecidableEq

namespace Tensor

def ofFn (shape : List Nat) (f : Nat → Int) : Tensor :=
  ⟨shape, Array.ofFn fun k : Fin (shapeSize shape) => f k, by simp⟩

instance : Inhabited Tensor := ⟨ofFn [0] fun _ => 0⟩

instance : Repr Tensor := ⟨fun t _ => repr (t.shape, t.data)⟩

def ofArray? (shape : List Nat) (data : Array Int) : Option Tensor :=
  if h : data.size = shapeSize shape then some ⟨shape, data, h⟩ else none

def full (shape : List Nat) (x : Int) : Tensor :=
  ⟨shape, Array.replicate (shapeSize shape) x, by simp⟩

def zeros (shape : List Nat) : Tensor := full shape 0

def size (t : Tensor) : Nat := t.data.size

def rank (t : Tensor) : Nat := t.shape.length

def dim (t : Tensor) (i : Nat) : Nat := t.shape.getD i 0

def flat (t : Tensor) (k : Nat) : Int := t.data.getD k 0

def get3 (t : Tensor) (c y x : Nat) : Int :=
  t.flat ((c * t.dim 1 + y) * t.dim 2 + x)

def offset : List Nat → List Nat → Nat
  | _, [] => 0
  | [], i :: _ => i
  | _ :: rest, i :: is => i * shapeSize rest + offset rest is

def get (t : Tensor) (index : List Nat) : Int := t.flat (offset t.shape index)

def unravel : List Nat → Nat → List Nat
  | [], _ => []
  | _ :: rest, k => k / shapeSize rest :: unravel rest (k % shapeSize rest)

def map (f : Int → Int) (t : Tensor) : Tensor :=
  ⟨t.shape, t.data.map f, by simp [t.size_eq]⟩

def zipWith? (f : Int → Int → Int) (a b : Tensor) : Option Tensor :=
  if h : a.shape = b.shape then
    some ⟨a.shape, a.data.zipWith f b.data, by simp [a.size_eq, b.size_eq, h]⟩
  else none

def reshape? (t : Tensor) (shape : List Nat) : Option Tensor :=
  if h : shapeSize shape = shapeSize t.shape then
    some ⟨shape, t.data, by rw [t.size_eq, h]⟩
  else none

def completing? (total others : Nat) : Option Nat :=
  if others = 0 then none
  else if total % others = 0 then some (total / others) else none

/-- The same elements with another shape, in which at most one size is `none` and follows from the
number of elements. -/
def reshapeWith? (t : Tensor) (shape : List (Option Nat)) : Option Tensor :=
  let others := shapeSize (shape.filterMap id)
  match shape.filter Option.isNone with
  | [] => t.reshape? (shape.filterMap id)
  | [_] => do
    let n ← completing? t.size others
    t.reshape? (shape.map (·.getD n))
  | _ => none

/-- The elements of axis 0 from `i` up to `j`, cut at the end. -/
def slice (t : Tensor) (i j : Nat) : Tensor :=
  match t.shape with
  | [] => t
  | n :: rest =>
    let j := min j n
    let w := shapeSize rest
    ofFn ((j - i) :: rest) fun k => t.flat (i * w + k)

def part (t : Tensor) (i : Nat) : Tensor :=
  match t.shape with
  | [] => t
  | _ :: rest =>
    let w := shapeSize rest
    ofFn rest fun k => t.flat (i * w + k)

def transpose (t : Tensor) (perm : List Nat) : Tensor :=
  let shape := perm.map t.dim
  let weights := perm.map fun a => shapeSize (t.shape.drop (a + 1))
  ofFn shape fun k =>
    t.flat ((List.zipWith (· * ·) (unravel shape k) weights).foldl (· + ·) 0)

def squeeze (t : Tensor) : Tensor :=
  (t.reshape? (t.shape.filter (· ≠ 1))).getD t

def stride4 (t : Tensor) (s0 s1 : Nat) : Tensor :=
  let h := (t.dim 2 + s0 - 1) / s0
  let w := (t.dim 3 + s1 - 1) / s1
  let shape := [t.dim 0, t.dim 1, h, w]
  ofFn shape fun k =>
    let x := k % w
    let y := k / w % h
    let c := k / (w * h)
    t.flat ((c * t.dim 2 + y * s0) * t.dim 3 + x * s1)

def stride3 (t : Tensor) (s : Nat) : Tensor :=
  let n := (t.dim 2 + s - 1) / s
  ofFn [t.dim 0, t.dim 1, n] fun k => t.flat (k / n * t.dim 2 + k % n * s)

def anyNonzero (t : Tensor) : Bool := t.data.any (· ≠ 0)

def anyNegative (t : Tensor) : Bool := t.data.any (· < 0)

def minimum? (t : Tensor) : Option Int := t.data.foldl (fun m x =>
  match m with
  | none => some x
  | some m => some (min m x)) none

def maximum? (t : Tensor) : Option Int := t.data.foldl (fun m x =>
  match m with
  | none => some x
  | some m => some (max m x)) none

def clip (lo hi : Int) (t : Tensor) : Tensor := t.map fun x => min hi (max lo x)

def concat? : List Tensor → Option Tensor
  | [] => none
  | t :: ts =>
    match t.shape with
    | [] => none
    | _ :: rest =>
      if ts.all fun u => u.shape.tail = rest ∧ u.shape ≠ [] then
        let n := (t :: ts).foldl (fun acc u => acc + u.dim 0) 0
        let data := (t :: ts).foldl (fun acc u => acc ++ u.data) #[]
        ofArray? (n :: rest) data
      else none

end Tensor

end CnnForge
