import CnnForge.Network.Inputs
import CnnForge.Simulator.Pooling
import CnnForge.SoftwareNet.Plan

namespace CnnForge.SoftwareNet

def prepareInput (i : Nat) (l : SoftwareLayer) (t : Tensor) : Run Tensor := do
  let o ← Run.options
  let t ← Run.lift (Network.operandsOf (o.legacyTest && i != 0) l.operands t)
  Simulator.showInput i t.sizes t (some 1) (some 1) (some l.operator) l.operands.toNat
  if l.operands > 1 && !l.poolFirst then
    Run.stop "Element-wise operations are currently not implemented for CMSIS-NN"
  let one := l.operator == .conv1d
  if one then Run.check (l.inputSize.column = 1)
  let sizes := if one then [l.inputSize.row] else l.inputSize.toList
  let free (n : Int) : Option Nat := if n < 0 then none else some n.toNat
  let t ← Run.orFail .value (t.reshapeWith? (some (t.dim 0) :: some (t.dim 1) :: sizes.map free))
  let (t, size) ← Simulator.poolingLayer
    { layer := i, inputSize := (t.part 0).sizes, measured := true, pool := l.pool,
      stride := l.poolStride, average := l.poolAverage, passes := some 1, channelsPerPass := some 1,
      operator := some l.operator, operands := t.dim 0, rounded := o.roundAverage } t
  let expected := if one then [l.inputChannels, l.pooledSize.row]
    else l.inputChannels :: l.pooledSize.toList
  Run.check (size == expected && (!one || l.pooledSize.column == 1))
  if l.operands > 1 then
    let part := (t.part 0).sizes
    let width := if l.isPassthrough then l.outputWidth else 8
    let c ← Simulator.elementwiseLayer l.elementwise i part l.shift
      ((List.range (t.dim 0)).map t.part) width
    if part.length < 3 then throw .index
    return c
  Run.orFail .value (t.reshape? (t.shape.drop 1))

def kernelsOf (l : SoftwareLayer) (shape : List Int) : Run Tensor := do
  let t ← Run.orFail .property l.kernel
  Run.orFail .value (t.reshapeWith? (shape.map fun n => if n < 0 then none else some n.toNat))

def kernels2d (l : SoftwareLayer) (channels : Int) : Run Tensor :=
  kernelsOf l [l.outputChannels, channels, l.kernelSize.row, l.kernelSize.column]

def flattenInput (l : SoftwareLayer) (t : Tensor) : Run (Tensor × Int) := do
  if !l.flatten then return (t, l.inputChannels)
  let channels := l.inputChannels * l.inputSize.product
  let t ← Run.orFail .value (t.reshape? [channels.toNat, 1, 1])
  if (← Run.options).verbose then Run.putLine s!"FLATTEN TO {channels}x1x1...\n"
  return (t, channels)

def applyOperator (i : Nat) (l : SoftwareLayer) (t : Tensor) : Run (Tensor × List Int) := do
  let bias := l.bias.map (·.data)
  let settings (t : Tensor) : Simulator.LayerSettings :=
    { layer := i, inputSize := t.sizes, outputShift := l.shift, outputChannels := l.outputChannels,
      activation := l.activation, outputWidth := l.outputWidth, groups := l.groups }
  match l.operator with
  | .conv2d | .linear =>
    let (t, channels) ← flattenInput l t
    let k ← kernels2d l channels
    Simulator.conv2dLayer (settings t) l.kernelSize l.padding l.dilation l.stride k bias t
  | .convTranspose2d =>
    let k ← kernels2d l l.inputChannels
    Simulator.convTranspose2dLayer (settings t) l.kernelSize l.padding l.dilation l.stride
      (.both 1) k bias t
  | .conv1d =>
    let k ← kernelsOf l [l.outputChannels, l.inputChannels, l.kernelSize.row]
    Simulator.conv1dLayer (settings t) l.kernelSize.row l.padding.row l.dilation.row l.stride.row k
      bias t
  | .passthrough => return (t, t.sizes)
  | .unknown _ => Run.stop s!"Unknown operator `{l.operator.name}`."

def computeLayer (i : Nat) (l : SoftwareLayer) (t : Tensor) : Run (Tensor × List Int) := do
  let t ← prepareInput i l t
  let (out, size) ← applyOperator i l t
  Run.check (size.take 3 == l.outputChannels :: l.outputSize.toList)
  return (out, size)

end CnnForge.SoftwareNet
