import CnnForge.SoftwareNet.Plan
import CnnForge.Tensor.Channels

namespace CnnForge.SoftwareNet

structure WeightOrder where
  shape : List Int
  axes : List Nat
deriving Repr, DecidableEq, Inhabited

namespace WeightOrder

def window (outputs channels : Int) (kernel : Pair) : WeightOrder :=
  ⟨[outputs, channels, kernel.row, kernel.column], [0, 2, 3, 1]⟩

def image (outputs channels : Int) (size kernel : Pair) : WeightOrder :=
  ⟨[outputs, channels, size.row, size.column, kernel.row, kernel.column], [0, 4, 5, 2, 3, 1]⟩

/-- The weights in the order in which they are stored. A negative size follows from the others. -/
def relaid? (w : WeightOrder) (kernel : Tensor) : Option Tensor :=
  let shape := w.shape.map fun n => if n < 0 then none else some n.toNat
  (kernel.reshapeWith? shape).map (·.transpose w.axes)

end WeightOrder

def weightOrder (l : SoftwareLayer) : Except Failure WeightOrder :=
  if l.kernelSize == .both 1 && l.inputSize == .both 1 then
    if l.sourceSize.product = 0 then .error .divisionByZero
    else .ok (.image l.outputChannels (l.inputChannels.fdiv l.sourceSize.product) l.sourceSize
      l.kernelSize)
  else if l.flatten then .ok (.image l.outputChannels l.inputChannels l.sourceSize l.kernelSize)
  else .ok (.window l.outputChannels l.inputChannels l.kernelSize)

def storedWeights (l : SoftwareLayer) : Except Failure Tensor :=
  match l.kernel with
  | none => .error .property
  | some k => do
    match (← weightOrder l).relaid? k with
    | some t => .ok t
    | none => .error .value

def storedBias (l : SoftwareLayer) : Except Failure (List Int) :=
  match l.bias with
  | some b => .ok b.data.toList
  | none =>
    if l.outputChannels < 0 then .error .value
    else .ok (List.replicate l.outputChannels.toNat 0)

end CnnForge.SoftwareNet
