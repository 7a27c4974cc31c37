import CnnForge.Config.Layer
import CnnForge.Geometry
import CnnForge.SampleWeights

namespace CnnForge

structure Layer where
  processors : Nat
  outputProcessors : Option Nat := none
  inSequences : Option (List Int) := none
  next : Int := -1
  nextGiven : Bool := false
  previous : Int := -1
  simulatedNext : Option Int := none
  snoopNext : Option Int := none
  operator : Operator := .conv2d
  elementwise : Elementwise := .none
  operands : Int := 1
  activation : Option Activation := none
  kernel : Option Tensor := none
  bias : Option Tensor := none
  kernelSize : Pair := .both 1
  quantization : Option Int := none
  outputShift : Option Int := none
  inputChannels : Int := 0
  outputChannels : Int := 0
  givenInputChannels : Option Int := none
  givenOutputChannels : Option Int := none
  inputOffset : Option Int := none
  outputOffset : Int := 0
  inputSkip : Int := 0
  inputChannelSkip : Int := 0
  givenInputDim : Option (List Int) := none
  inputDim : Option (List Int) := none
  autoInputDim : Option (List Int) := none
  pooledDim : Option Pair := none
  outputDim : Option Pair := none
  padding : Pair := .both 0
  outputPadding : Pair := .both 0
  pool : Pair := .both 1
  poolStride : Pair := .both 1
  poolDilation : Pair := .both 1
  poolAverage : Bool := false
  poolFirst : Bool := true
  dilation : Pair := .both 1
  stride : Pair := .both 1
  groups : Int := 1
  bigData : Bool := false
  outputWidth : Int := 8
  streaming : Bool := false
  flatten : Bool := false
  bypass : Bool := false
  writeGap : Int := 0
  biasGroups : Option (List Int) := none
  calcx4 : Bool := false
  readAhead : Bool := false
  tcalc : Option Bool := none
deriving Repr, Inhabited

namespace Layer

def intOf (v : Value) : Except Failure Int :=
  match v.int? with
  | some n => .ok n
  | none => .error .kind

def optIntOf (v : Value) : Except Failure (Option Int) :=
  match v with
  | .null => .ok none
  | v => (intOf v).map some

def pairOf (s : ListSetting) : Except Failure Pair :=
  match s.toList with
  | r :: c :: _ => do return ⟨← intOf r, ← intOf c⟩
  | _ => .error .index

def optListOf (v : Value) : Except Failure (Option (List Int)) :=
  match v with
  | .null => .ok none
  | v =>
    match v.list? with
    | some xs => (xs.mapM intOf).map some
    | none => .error .kind

def ofConfig (c : LayerConfig) : Except Failure Layer := do
  let next ← optIntOf c.nextSequence
  return {
    processors := (← intOf c.processors).toNat
    outputProcessors := (← optIntOf c.outputProcessors).map Int.toNat
    inSequences := ← optListOf c.inSequences
    next := next.getD (-1)
    nextGiven := next.isSome
    simulatedNext := ← optIntOf c.simulatedSequence
    snoopNext := ← optIntOf c.snoopSequence
    operator := c.operator
    elementwise := c.elementwise
    operands := ← intOf c.operands
    activation := c.activation
    kernelSize := ⟨c.kernelSize.1, c.kernelSize.2⟩
    quantization := ← optIntOf c.quantization
    givenInputChannels := ← optIntOf c.inputChannels
    givenOutputChannels := ← optIntOf c.outputChannels
    inputOffset := ← optIntOf c.inputOffset
    outputOffset := ← intOf c.outputOffset
    inputSkip := ← intOf c.inputSkip
    inputChannelSkip := ← intOf c.inputChannelSkip
    givenInputDim := ← optListOf c.inputDim
    padding := ← pairOf c.padding
    outputPadding := ← pairOf c.outputPadding
    pool := ← pairOf c.pool
    poolStride := ← pairOf c.poolStride
    poolDilation := ← pairOf c.poolDilation
    poolAverage := c.average
    poolFirst := c.poolFirst
    dilation := ← pairOf c.dilation
    stride := ← pairOf c.stride
    groups := ← intOf c.convGroups
    bigData := c.bigData
    outputWidth := ← intOf c.outputWidth
    streaming := c.streaming
    flatten := c.flatten
    bypass := c.bypass
    writeGap := ← intOf c.writeGap
    biasGroups := ← optListOf c.biasGroups
    calcx4 := c.calcx4
    readAhead := c.readAhead
    tcalc := c.tcalc }

def weightLayer (c : LayerConfig) : Except Failure WeightLayer := do
  return {
    operator := c.operator
    bypass := c.bypass
    quantization := ← optIntOf c.quantization
    outputShift := ← optIntOf c.outputShift
    groups := ← intOf c.convGroups }

def hasKernel (l : Layer) : Bool := l.operator != .passthrough && !l.bypass

def pools (l : Layer) : Bool := l.pool.anyAbove 1

def inputPair (l : Layer) : Except Failure Pair :=
  match l.inputDim with
  | some (r :: c :: _) => .ok ⟨r, c⟩
  | some _ => .error .index
  | none => .error .kind

def pooledPair (l : Layer) : Except Failure Pair :=
  match l.pooledDim with
  | some p => .ok p
  | none => .error .kind

def outputPair (l : Layer) : Except Failure Pair :=
  match l.outputDim with
  | some p => .ok p
  | none => .error .kind

end Layer

structure Network where
  layers : Array Layer
  spare : Array Layer := #[]
  hasBias : Bool := false
  data : Tensor
  finalLayer : Nat
  firstLayer : Nat
  snoop : Option (List Int) := none
deriving Repr, Inhabited

end CnnForge
