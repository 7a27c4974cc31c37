import CnnForge.Failure
import CnnForge.Geometry
import CnnForge.Tensor.Basic
import CnnForge.Text.Digits

namespace CnnForge.Compute

@[specialize] def sumFrom (f : Nat → Int) : Nat → Int → Int
  | 0, acc => acc
  | n + 1, acc => sumFrom f n (acc + f n)

@[inline] def sumBelow (n : Nat) (f : Nat → Int) : Int := sumFrom f n 0

def shapeText (shape : List Nat) : String := Text.parenthesized (shape.map toString)

def sizeText (size : List Int) : String := Text.bracketed (size.map toString)

def hasSize (t : Tensor) (size : List Int) : Bool := t.shape.map Int.ofNat == size

/-- Sizes after stretching by `f`; fails if the elements do not fit into the new size. -/
def stretchedSize (n f : Int) : Except Failure Nat :=
  let m := n * f - 1
  if m < 0 then .error .value
  else if n ≠ 1 ∧ (m + f - 1).fdiv f ≠ n then .error .value
  else .ok m.toNat

def stretch (t : Tensor) (f : Pair) : Except Failure Tensor := do
  let h ← stretchedSize (t.dim 1) f.row
  let w ← stretchedSize (t.dim 2) f.column
  let fr := f.row.toNat
  let fc := f.column.toNat
  return Tensor.ofFn [t.dim 0, h, w] fun k =>
    let x := k % w
    let y := k / w % h
    if y % fr = 0 ∧ x % fc = 0 then t.get3 (k / (w * h)) (y / fr) (x / fc) else 0

def pad (t : Tensor) (top bottom left right : Nat) : Tensor :=
  let h := t.dim 1 + top + bottom
  let w := t.dim 2 + left + right
  Tensor.ofFn [t.dim 0, h, w] fun k =>
    let x := k % w
    let y := k / w % h
    if top ≤ y ∧ y < top + t.dim 1 ∧ left ≤ x ∧ x < left + t.dim 2 then
      t.get3 (k / (w * h)) (y - top) (x - left)
    else 0

def correlate (p w : Tensor) (s d : Nat × Nat) (h width : Nat) : Tensor :=
  let pw := p.dim 2
  let ph := p.dim 1
  let cs := w.dim 1
  let kh := w.dim 2
  let kw := w.dim 3
  Tensor.ofFn [w.dim 0, h, width] fun k =>
    let x := k % width
    let y := k / width % h
    let o := k / (width * h)
    sumBelow cs fun c => sumBelow kh fun i => sumBelow kw fun j =>
      w.flat (((o * cs + c) * kh + i) * kw + j)
        * p.flat ((c * ph + y * s.1 + i * d.1) * pw + x * s.2 + j * d.2)

def expandGroups (w : Tensor) (channels groups : Int) : Except Failure Tensor :=
  let share := (channels.fdiv groups).toNat
  let n := w.dim 0
  let area := w.dim 2 * w.dim 3
  if n = 0 ∨ share = 0 then .ok (Tensor.zeros [n, channels.toNat, w.dim 2, w.dim 3])
  else if n * share > channels.toNat ∨ share > w.dim 1 then .error .index
  else
    .ok (Tensor.ofFn [n, channels.toNat, w.dim 2, w.dim 3] fun k =>
      let c := k / area % channels.toNat
      let i := k / area / channels.toNat
      if i * share ≤ c ∧ c < i * share + share then
        w.flat ((i * w.dim 1 + (c - i * share)) * area + k % area)
      else 0)

def addBias (t : Tensor) (channels : Int) (bias : Option (Array Int)) : Except Failure Tensor :=
  match bias with
  | none => .ok t
  | some b =>
    if channels > t.dim 0 ∨ channels > b.size then .error .index
    else
      let area := shapeSize t.shape.tail
      .ok (Tensor.ofFn t.shape fun k =>
        let o := k / area
        t.flat k + (if o < channels then b.getD o 0 else 0))

structure ConvolutionSettings where
  kernelSize : Pair
  stride : Pair
  pad : Pair
  dilation : Pair
  fractional : Pair := .both 1
  outputPad : Pair := .both 0
  groups : Int := 1
deriving Repr, Inhabited

def checkSpread (n : Nat) (k : Int) : Except Failure Unit :=
  if k < 1 then .error .value
  else if n = k ∨ n = 1 then .ok () else .error .value

def spread (n : Nat) (d : Int) : Int := (n - 1) * d + 1

def windows (n k s : Int) : Except Failure Int :=
  if s = 0 then .error .divisionByZero else .ok ((n - k).fdiv s + 1)

def windowCount (n dilation kernel pad stride : Int) : Int :=
  (n - dilation * (kernel - 1) - 1 + 2 * pad).fdiv stride + 1

def prepareData (s : ConvolutionSettings) (data : Tensor) : Except Failure Tensor := do
  let data ← if s.fractional.anyAbove 1 then stretch data s.fractional else pure data
  let (p, q) := (s.pad, s.outputPad)
  if p.row = 0 && p.column = 0 && q.row = 0 && q.column = 0 then return data
  if p.row < 0 || p.column < 0 || p.row + q.row < 0 || p.column + q.column < 0 then throw .value
  return pad data p.row.toNat (p.row + q.row).toNat p.column.toNat (p.column + q.column).toNat

def convolve2d (s : ConvolutionSettings) (data weight : Tensor) (bias : Option (Array Int))
    (inputSize outputSize : List Int) : Except Failure Tensor := do
  if !hasSize data inputSize then throw (.check "")
  let channels := inputSize.headD 0
  let data ← prepareData s data
  if weight.rank ≠ 4 then throw .index
  if s.dilation.anyAbove 1 then
    checkSpread (weight.dim 2) s.kernelSize.row
    checkSpread (weight.dim 3) s.kernelSize.column
  let d := s.dilation
  let dilated := d.anyAbove 1
  let kh := if dilated then spread s.kernelSize.row.toNat d.row else weight.dim 2
  let kw := if dilated then spread s.kernelSize.column.toNat d.column else weight.dim 3
  let h ← windows (data.dim 1) kw s.stride.row
  let w ← windows (data.dim 2) kh s.stride.column
  if h < 0 || w < 0 then throw .value
  let weight ← if s.groups > 1 then expandGroups weight channels s.groups else pure weight
  if data.dim 0 ≠ weight.dim 1 then throw .value
  let step := if dilated then (d.row.toNat, d.column.toNat) else (1, 1)
  let out := correlate data weight (s.stride.row.toNat, s.stride.column.toNat) step h.toNat w.toNat
  let out ← addBias out (outputSize.headD 0) bias
  if !hasSize out outputSize then
    throw (.check
      s!"Shape mismatch: NumPy result {shapeText out.shape} vs expected {sizeText outputSize}")
  return out

def transposedPad (s : ConvolutionSettings) : Pair :=
  ⟨s.dilation.row * (s.kernelSize.row - 1) - s.pad.row,
   s.dilation.column * (s.kernelSize.column - 1) - s.pad.column⟩

def convolveTransposed2d (s : ConvolutionSettings) (data weight : Tensor)
    (bias : Option (Array Int)) (inputSize outputSize : List Int) : Except Failure Tensor :=
  convolve2d { s with pad := transposedPad s } data weight bias inputSize outputSize

structure Convolution1dSettings where
  kernelSize : Int
  stride : Int
  pad : Int
  dilation : Int
  fractional : Int := 1
  outputPad : Int := 0
  groups : Int := 1
deriving Repr, Inhabited

def prepareLine (s : Convolution1dSettings) (data : Tensor) : Except Failure Tensor := do
  let data ← if s.fractional > 1 then do
      let n ← stretchedSize (data.dim 1) s.fractional
      let f := s.fractional.toNat
      pure (Tensor.ofFn [data.dim 0, n, 1] fun k =>
        if k % n % f = 0 then data.get3 (k / n) (k % n / f) 0 else 0)
    else pure data
  if s.pad = 0 && s.outputPad = 0 then return data
  if s.pad < 0 || s.pad + s.outputPad < 0 then throw .value
  return pad data s.pad.toNat (s.pad + s.outputPad).toNat 0 0

def convolveLine (s : Convolution1dSettings) (data weight : Tensor) (bias : Option (Array Int))
    (channels outputs : Int) (expected : List Int) : Except Failure Tensor := do
  let data ← prepareLine s data
  if s.dilation > 1 then checkSpread (weight.dim 2) s.kernelSize
  let k := if s.dilation > 1 then spread s.kernelSize.toNat s.dilation else weight.dim 2
  let n ← windows (data.dim 1) k s.stride
  if n < 0 then throw .value
  let weight ← if s.groups > 1 then expandGroups weight channels s.groups else pure weight
  if data.dim 0 ≠ weight.dim 1 then throw .value
  let step := if s.dilation > 1 then s.dilation.toNat else 1
  let out := correlate data weight (s.stride.toNat, 1) (step, 1) n.toNat 1
  let some out := out.reshape? [weight.dim 0, n.toNat] | throw .value
  let out ← addBias out outputs bias
  if !hasSize out expected then
    let text := Text.parenthesized (expected.map toString)
    throw (.check s!"Shape mismatch: NumPy result {shapeText out.shape} vs expected {text}.")
  return out

def convolve1d (s : Convolution1dSettings) (data weight : Tensor) (bias : Option (Array Int))
    (inputSize outputSize : List Int) : Except Failure Tensor := do
  if !hasSize data inputSize then throw (.check "")
  if s.groups = 0 then throw .divisionByZero
  let channels := inputSize.headD 0
  let outputs := outputSize.headD 0
  let share := channels.fdiv s.groups
  if outputs < 0 || share < 0 then throw .value
  let some weight := weight.reshapeWith? [some outputs.toNat, some share.toNat, none, some 1]
    | throw .value
  let some data := data.reshapeWith? [some channels.toNat, none, some 1] | throw .value
  convolveLine s data weight bias channels outputs (outputSize.take 2)

def convolveTransposed1d (s : Convolution1dSettings) (data weight : Tensor)
    (bias : Option (Array Int)) (inputSize outputSize : List Int) : Except Failure Tensor :=
  convolve1d { s with pad := s.dilation * (s.kernelSize - 1) - s.pad } data weight bias inputSize
    outputSize

end CnnForge.Compute
