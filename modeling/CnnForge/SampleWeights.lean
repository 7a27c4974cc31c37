import CnnForge.Operator
import CnnForge.SampleData

namespace CnnForge

structure WeightLayer where
  operator : Operator
  bypass : Bool := false
  quantization : Option Int := none
  outputShift : Option Int := none
  groups : Int := 1
deriving Repr, Inhabited

structure LayerWeights where
  kernels : Tensor
  inputChannels : Int
  outputChannels : Int
deriving Repr, Inhabited

structure WeightSet where
  weights : List LayerWeights := []
  outputShifts : List (Option Int) := []
deriving Repr, Inhabited

namespace SampleWeights

def bitsOf (x : Int) : Int := Bits.highest (if x < 0 then x + 1 else x).natAbs + 2

/-- Weights reduced to `bits` bits; one-bit weights of quantization `-1` are the signs. More than
eight bits are refused. -/
def requantize (bits : Int) (t : Tensor) : Except Failure Tensor := do
  let some hi := t.maximum? | throw .value
  let some lo := t.minimum? | throw .value
  let present := max (bitsOf lo) (bitsOf hi)
  if present > 8 then throw (.refused "ERROR: Weight file includes values larger than 8 bit!")
  if bits = -1 then return t.map fun x => if x ≥ 0 then 1 else -1
  else if present > bits.natAbs then return t.map fun x => Bits.down x (present - bits.natAbs).toNat
  else return t

def kernelsOf (t : Tensor) : Except Failure Tensor :=
  let shape := match t.shape with
    | [_, _, h, w] => [none, some h, some w]
    | s => [none, s.getLast?]
  match t.reshapeWith? shape with
  | some k => .ok k
  | none => .error .value

def layerWeights (l : WeightLayer) (t : Tensor) : Except Failure LayerWeights := do
  let t ← requantize (l.quantization.getD 8) t
  let transposed := l.operator == .convTranspose2d
  let some m := t.shape[0]? | throw .index
  let some n := t.shape[1]? | throw .index
  return { kernels := ← kernelsOf t,
           outputChannels := Int.ofNat m * if transposed then l.groups else 1,
           inputChannels := Int.ofNat n * if transposed then 1 else l.groups }

/-- Whether layer `l` is passed over. The bypass flag is that of layer number `k`, the number of
tensors used so far. -/
def skips (layers : List WeightLayer) (k : Nat) (l : WeightLayer) : Except Failure Bool :=
  if l.operator == .passthrough then .ok true
  else
    match layers[k]? with
    | some x => .ok x.bypass
    | none => .error .index

def assign (layers : List WeightLayer) (tensors : List Tensor) :
    Nat → List WeightLayer → Except Failure WeightSet
  | _, [] => .ok {}
  | k, l :: rest => do
    if ← skips layers k l then
      let s ← assign layers tensors k rest
      return { s with outputShifts := l.outputShift :: s.outputShifts }
    let some t := tensors[k]? | throw .index
    let w ← layerWeights l t
    let shift := l.outputShift.getD 0 + (8 - (l.quantization.getD 8).natAbs)
    let s ← assign layers tensors (k + 1) rest
    return { weights := w :: s.weights, outputShifts := some shift :: s.outputShifts }

def tensorsOf : List Tensor → List Tensor
  | [t] => if t.shape.isEmpty then [] else (List.range (t.dim 0)).map t.part
  | ts => ts

def path (dataset : String) (name : Option String) : String :=
  joinPath "tests" (name.getD s!"weights_{dataset.toLower}" ++ ".npy")

def load (dataset : String) (name : Option String) (layers : List WeightLayer) : Run WeightSet := do
  let path := path dataset name
  let ts ← SampleData.stored path
  Run.putLine s!"Reading weights from {path}..."
  Run.lift (assign layers (tensorsOf ts) 0 layers)

def assignBias (without : List Int) : Nat → Nat → List Tensor → List (Option Tensor)
  | 0, _, _ => []
  | n + 1, layer, ts =>
    if without.contains (layer : Int) then none :: assignBias without n (layer + 1) ts
    else ts.head? :: assignBias without n (layer + 1) ts.tail

def loadBias (layers : Nat) (name : Option String) (without : List Int) : Run (List (Option Tensor)) := do
  match name with
  | none => return List.replicate layers none
  | some n =>
    let path := joinPath "tests" s!"bias_{n}.npy"
    let ts ← SampleData.stored path
    Run.putLine s!"Reading bias from {path}..."
    return assignBias without layers 0 ts

end SampleWeights

end CnnForge
