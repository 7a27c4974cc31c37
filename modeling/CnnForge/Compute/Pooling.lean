import CnnForge.Compute.Convolution
import CnnForge.Session

namespace CnnForge.Compute

attribute [local instance (2000)] Zero.ofOfNat0

inductive PoolKind where
  | maximum
  | average (rounded : Bool)
deriving Repr, DecidableEq, Inhabited

/-- `a / n` rounded to the nearest integer, halves to the even one. -/
def roundHalfEven (a : Int) (n : Nat) : Int :=
  let q := a.fdiv n
  let r := a.fmod n
  if 2 * r < n then q
  else if 2 * r > n then q + 1
  else if q % 2 = 0 then q else q + 1

def roundHalfUp (a : Int) (n : Nat) : Int := (2 * a + n).fdiv (2 * n)

def maximum? : List Int → Option Int
  | [] => none
  | x :: xs => some (xs.foldl max x)

def poolWindow (kind : PoolKind) (xs : List Int) : Option Int :=
  match kind with
  | .maximum => maximum? xs
  | .average rounded =>
    if xs.isEmpty then none
    else if rounded then some (roundHalfEven xs.sum xs.length)
    else some (xs.sum.tdiv xs.length)

def clampByte (x : Int) : Int := max (-128) (min 127 x)

/-- The value of a window by the direct rule, in which halves go up. The average of nothing is the
least byte. -/
def poolWindowDirect (kind : PoolKind) (xs : List Int) : Option Int :=
  match kind with
  | .maximum => maximum? xs
  | .average rounded =>
    if xs.isEmpty then some (-128)
    else if rounded then some (clampByte (roundHalfUp xs.sum xs.length))
    else some (clampByte (xs.sum.tdiv xs.length))

/-- Elements of a cut at `stop`; a negative `stop` counts from the end. -/
def cutLength (n : Nat) (stop : Int) : Nat :=
  if stop < 0 then (n + stop).toNat else min n stop.toNat

structure PoolSettings where
  pool : Pair
  stride : Pair
  dilation : Pair := .both 1
  kind : PoolKind
deriving Repr, Inhabited

def poolCount (n : Nat) (pool stride dilation : Int) : Except Failure Int :=
  if stride = 0 then .error .divisionByZero
  else
    let stop := (n - pool + dilation - 1).fdiv stride * stride + pool
    .ok (1 + ((cutLength n stop : Int) - pool - dilation + 1).fdiv stride)

/-- Where the elements of a window are in a channel with `columns` columns. -/
def windowPlaces (s : PoolSettings) (columns y x : Nat) : List Int :=
  (List.range s.pool.row.toNat).flatMap fun (i : Nat) =>
    (List.range s.pool.column.toNat).map fun (j : Nat) =>
      (y * s.stride.row + i * s.dilation.row) * columns + x * s.stride.column + j * s.dilation.column

/-- The elements of a window. What lies in memory outside of a channel is not known. -/
def windowAt (t : Tensor) (s : PoolSettings) (c y x : Nat) : Except Failure (List Int) :=
  (windowPlaces s (t.dim 2) y x).mapM fun (place : Int) =>
    if 0 ≤ place ∧ place < t.dim 1 * t.dim 2 then .ok (t.flat (c * (t.dim 1 * t.dim 2) + place.toNat))
    else .error .index

def pooledShape (s : PoolSettings) (t : Tensor) : Except Failure (List Nat) := do
  let h ← poolCount (t.dim 1) s.pool.row s.stride.row s.dilation.row
  let w ← poolCount (t.dim 2) s.pool.column s.stride.column s.dilation.column
  if h < 0 || w < 0 || s.pool.row < 0 || s.pool.column < 0 then throw .value
  if s.pool.product = 0 then throw .value
  return [t.dim 0, h.toNat, w.toNat]

/-- Pools windows of a strided view. A window that leaves its channel is refused, as its value is not known. -/
def poolStrided (s : PoolSettings) (t : Tensor) : Except Failure Tensor := do
  let shape ← pooledShape s t
  let (h, w) := (shape.getD 1 0, shape.getD 2 0)
  let values ← (List.range (shapeSize shape)).mapM fun k => do
    let window ← windowAt t s (k / (w * h)) (k / w % h) (k % w)
    return (poolWindow s.kind window).getD 0
  let values := values.toArray
  return Tensor.ofFn shape fun k => values.getD k 0

def axisPositions (n : Nat) (start step count : Int) : List Nat :=
  (List.range count.toNat).filterMap fun (i : Nat) =>
    let p := start + i * step
    if 0 ≤ p ∧ p < n then some p.toNat else none

def poolDirect (s : PoolSettings) (t : Tensor) (outputSize : List Int) : Except Failure Tensor := do
  let h := (outputSize.getD 1 0).toNat
  let w := (outputSize.getD 2 0).toNat
  if outputSize.any (· < 0) then throw .value
  if h > 0 ∧ w > 0 ∧ t.dim 0 > (outputSize.headD 0).toNat then throw .index
  let window (k : Nat) : List Int :=
    let rows := axisPositions (t.dim 1) ((k / w % h : Nat) * s.stride.row) s.dilation.row s.pool.row
    let columns := axisPositions (t.dim 2) ((k % w : Nat) * s.stride.column) s.dilation.column
      s.pool.column
    rows.flatMap fun y => columns.map fun x => t.get3 (k / (w * h)) y x
  let values ← (List.range (t.dim 0 * h * w)).mapM fun k =>
    match poolWindowDirect s.kind (window k) with
    | some v => .ok v
    | none => .error .value
  let values := values.toArray
  return Tensor.ofFn (outputSize.map Int.toNat) fun k => values.getD k 0

/-- Whether axes of two shapes have equal sizes, up to sizes of one. -/
def comparable (a b : List Nat) : Bool :=
  a.length = b.length ∧ (List.range a.length).all fun i =>
    a.getD i 0 = b.getD i 0 ∨ a.getD i 0 = 1 ∨ b.getD i 0 = 1

/-- Whether two comparable tensors agree where axes of size one are repeated. -/
def agree (a b : Tensor) : Bool :=
  if a.shape = b.shape then a.data == b.data
  else
    let shape := (List.range a.rank).map fun i =>
      if a.dim i = 1 then b.dim i else a.dim i
    (List.range (shapeSize shape)).all fun k =>
      let index := Tensor.unravel shape k
      let entry (t : Tensor) : Int :=
        t.get (index.zipIdx.map fun (p, i) => if t.dim i = 1 then 0 else p)
      entry a == entry b

/-- Two-dimensional pooling. In debug mode the direct rule has to give the same result. -/
def pool2d (s : PoolSettings) (t : Tensor) (inputSize outputSize : List Int) : Run Tensor := do
  if !hasSize t inputSize then throw (.check "")
  let debug := (← Run.options).debug
  let reference ← if debug then some <$> Run.lift (poolDirect s t outputSize) else pure none
  let shape ← Run.lift (pooledShape s t)
  if let some r := reference then
    if !comparable r.shape shape then throw .property
    let pooled ← Run.lift (poolStrided s t)
    if !agree r pooled then Run.stop "NumPy <-> Python mismatch in compute.pool2d"
  -- The size is checked first, as it does not depend on what the windows read.
  if shape.map Int.ofNat ≠ outputSize then
    throw (.check s!"shape mismatch {shapeText shape} vs {sizeText outputSize}")
  Run.lift (poolStrided s t)

/-- One-dimensional pooling. Averages are always cut, and a maximum is over adjacent elements. -/
def pool1d (t : Tensor) (inputSize outputSize : List Int) (pool stride dilation : Int)
    (average : Bool) : Except Failure Tensor := do
  if !hasSize t inputSize then throw (.check "")
  if outputSize.any (· < 0) then throw .value
  if stride = 0 then throw .value
  let n := (outputSize.getD 1 0).toNat
  if n > 0 ∧ t.dim 0 > (outputSize.headD 0).toNat then throw .index
  let values ← (List.range (t.dim 0 * n)).mapM fun k =>
    let start := (k % n : Nat) * stride
    let window (step : Int) : List Int :=
      (axisPositions (t.dim 1) start step pool).map fun x => t.flat (k / n * t.dim 1 + x)
    match poolWindowDirect (if average then .average false else .maximum)
        (window (if average then dilation else 1)) with
    | some v => .ok v
    | none => .error .value
  let values := values.toArray
  return Tensor.ofFn (outputSize.map Int.toNat) fun k => values.getD k 0

end CnnForge.Compute
