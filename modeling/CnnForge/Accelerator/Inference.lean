import CnnForge.Accelerator.Plan
import CnnForge.Network.Inputs
import CnnForge.Simulator.Pooling

namespace CnnForge.Accelerator

def combineOperands (i : Nat) (l : PlannedLayer) (t : Tensor) : Run Tensor := do
  let part := (t.part 0).shape.map Int.ofNat
  let width := if l.isPassthrough then l.outputWidth else 8
  let c ← Simulator.elementwiseLayer l.elementwise i part l.shift
    ((List.range (t.dim 0)).map t.part) width
  if part.length < 3 then throw .index
  return c

def splitInput (p : Plan) (i : Nat) (l : PlannedLayer) (t : Tensor) : Run Tensor := do
  let o ← Run.options
  let t ← Run.lift (Network.operandsOf (o.legacyTest && i != p.start) l.operands t)
  let t := if o.reshapeInputs then
    t.selectChannels l.inputChannelSkip.toNat l.inputChannels.toNat else t
  Simulator.showInput i t.sizes t (some l.inExpand) (some l.inExpandThresh) (some l.operator)
    l.operands.toNat
  return t

def combineBefore (i : Nat) (l : PlannedLayer) (t : Tensor) : Run Tensor :=
  if l.operands > 1 && !l.poolFirst then do
    let c ← combineOperands i l t
    Run.orFail .value (c.reshape? (1 :: c.shape))
  else pure t

def shapeInput (l : PlannedLayer) (t : Tensor) : Run Tensor := do
  let rows := l.inputSize.row.toNat
  let columns := l.inputSize.column.toNat
  let one := l.operator == .conv1d
  if one then Run.check (l.inputSize.column = 1)
  if l.inputSize.row < 0 || l.inputSize.column < 0 then throw .value
  let shape := if one then [some (t.dim 0), none, some rows]
    else [some (t.dim 0), none, some rows, some columns]
  Run.orFail .value (t.reshapeWith? shape)

def poolInput (logFolder : String) (i : Nat) (l : PlannedLayer) (t : Tensor) : Run Tensor := do
  let o ← Run.options
  let one := l.operator == .conv1d
  let (t, size) ← Simulator.poolingLayer
    { layer := i, inputSize := (t.part 0).sizes, measured := true, pool := l.pool, stride := l.poolStride,
      average := l.poolAverage, passes := some l.inExpand, channelsPerPass := some l.inExpandThresh,
      operator := some l.operator, operands := t.dim 0, rounded := o.roundAverage,
      logFolder := if o.logPooling then some logFolder else none, dilation := l.poolDilation } t
  let expected := if one then [l.inputChannels, l.pooledSize.row]
    else [l.inputChannels, l.pooledSize.row, l.pooledSize.column]
  if size != expected || (one && l.pooledSize.column != 1) then
    Run.stop (s!"Input dimensions do not match in layer {i}. Expected: "
      ++ s!"{Simulator.timesText expected}, got {Simulator.timesText size}.")
  return t

def combineAfter (i : Nat) (l : PlannedLayer) (t : Tensor) : Run Tensor :=
  if l.operands > 1 && l.poolFirst then combineOperands i l t
  else Run.orFail .value (t.reshape? (t.shape.drop 1))

def prepareInput (p : Plan) (logFolder : String) (i : Nat) (l : PlannedLayer) (t : Tensor) :
    Run Tensor := do
  let t ← splitInput p i l t
  let t ← combineBefore i l t
  let t ← shapeInput l t
  let t ← poolInput logFolder i l t
  combineAfter i l t

def kernelsOf (l : PlannedLayer) (shape : List Int) : Run Tensor := do
  let t ← Run.orFail .property l.kernel
  if shape.any (· < 0) then throw .value
  Run.orFail .value (t.reshape? (shape.map Int.toNat))

def channelsEach (l : PlannedLayer) (channels : Int) : Run Int :=
  if l.groups = 0 then throw .divisionByZero else pure (channels.fdiv l.groups)

def kernels2d (l : PlannedLayer) (channels : Int) : Run Tensor := do
  if l.bypass then
    let shape := [l.outputChannels, channels, l.kernelSize.row, l.kernelSize.row]
    return Tensor.full (shape.map Int.toNat) 1
  kernelsOf l [l.outputChannels, ← channelsEach l channels, l.kernelSize.row, l.kernelSize.column]

def kernels1d (l : PlannedLayer) : Run Tensor := do
  if l.bypass then
    return Tensor.full ([l.outputChannels, l.inputChannels, l.kernelSize.row].map Int.toNat) 1
  kernelsOf l [l.outputChannels, ← channelsEach l l.inputChannels, l.kernelSize.row]

def flattenInput (l : PlannedLayer) (t : Tensor) : Run (Tensor × Int) := do
  if !l.flatten then return (t, l.inputChannels)
  let channels := l.inputChannels * l.pooledSize.product
  let t ← Run.orFail .value (t.reshape? [channels.toNat, 1, 1])
  if (← Run.options).verbose then
    Simulator.printData true s!"FLATTEN TO {channels}x1x1" t t.sizes (some 1) (some channels)
  return (t, channels)

def applyOperator (i : Nat) (l : PlannedLayer) (t : Tensor) : Run (Tensor × List Int) := do
  let bias := l.bias.map (·.data)
  let settings (t : Tensor) : Simulator.LayerSettings :=
    { layer := i, inputSize := t.sizes, outputShift := l.shift, outputChannels := l.outputChannels,
      activation := l.activation, outputWidth := l.outputWidth, groups := l.groups,
      bypass := l.bypass }
  match l.operator with
  | .conv2d | .linear =>
    let (t, channels) ← flattenInput l t
    let k ← kernels2d l channels
    Simulator.conv2dLayer (settings t) l.kernelSize l.padding l.dilation l.stride k bias t
  | .convTranspose2d =>
    let k ← kernels2d l l.inputChannels
    Simulator.convTranspose2dLayer (settings t) l.kernelSize l.padding l.dilation l.stride
      l.outputPadding k bias t
  | .conv1d =>
    let k ← kernels1d l
    Simulator.conv1dLayer (settings t) l.kernelSize.row l.padding.row l.dilation.row l.stride.row k
      bias t
  | .passthrough => return (t, t.sizes)
  | .unknown _ => Run.stop s!"Unknown operator `{l.operator.name}`."

def computeLayer (p : Plan) (logFolder : String) (i : Nat) (l : PlannedLayer) (t : Tensor) :
    Run (Tensor × List Int) := do
  let t ← prepareInput p logFolder i l t
  let (out, size) ← applyOperator i l t
  Run.check (size.take 3 == [l.outputChannels, l.outputSize.row, l.outputSize.column])
  return (out, size)

end CnnForge.Accelerator
