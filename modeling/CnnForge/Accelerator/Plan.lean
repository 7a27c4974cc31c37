import CnnForge.Network.Layer

namespace CnnForge.Accelerator

attribute [local instance (2000)] instPowNat

structure PlannedLayer extends Layer where
  inputSize : Pair := .both 0
  pooledSize : Pair := .both 0
  outputSize : Pair := .both 0
  inExpand : Int := 0
  inExpandInvol : Int := 0
  inExpandThresh : Int := 0
  outExpand : Int := 0
  outExpandThresh : Int := 0
  tramMax : Int := 0
  effectivePad : Pair := .both 0
  groupMap : Option (List Nat) := none
  broadcast : Option Bool := none
  emulatesElementwise : Bool := false
deriving Repr, Inhabited

namespace PlannedLayer

def bits (l : PlannedLayer) : Int := l.quantization.getD 0

def shift (l : PlannedLayer) : Int := l.outputShift.getD 0

def maskBits (l : PlannedLayer) : Int := if l.bypass then 8 else l.bits.natAbs

def inOffset (l : PlannedLayer) : Int := l.inputOffset.getD 0

def sharesTram (l : PlannedLayer) : Bool := l.tcalc.getD false

def outMap (l : PlannedLayer) : Nat := l.outputProcessors.getD 0

def isPassthrough (l : PlannedLayer) : Bool := l.operator == .passthrough

def isPointwise (l : PlannedLayer) : Bool := l.operator.isConv2d && l.kernelSize == .both 1

def isDepthwise (l : PlannedLayer) : Bool := l.groups > 1

def movesChannels (l : PlannedLayer) : Bool := l.isDepthwise && l.broadcast != some true

def sizeText (l : PlannedLayer) (separator : String) (p : Pair) : String :=
  if l.operator == .conv1d then toString p.row else s!"{p.row}{separator}{p.column}"

def crossed (l : PlannedLayer) (p : Pair) : String := l.sizeText "x" p

def slashed (l : PlannedLayer) (p : Pair) : String := l.sizeText "/" p

def inputText (l : PlannedLayer) : String := l.crossed l.inputSize

def outputText (l : PlannedLayer) : String := l.crossed l.outputSize

def poolText (l : PlannedLayer) : String := l.crossed (if l.pools then l.pool else .both 0)

end PlannedLayer

def groupBits (d : Device) (map : Nat) (group : Nat) : Nat :=
  (map >>> (group * d.groupSize)) % 2 ^ d.groupSize

def groupPart (d : Device) (map : Nat) (group : Nat) : Nat :=
  groupBits d map group <<< (group * d.groupSize)

def groupsOf (d : Device) (map : Nat) : List Nat :=
  (List.range d.groups).filter fun g => groupBits d map g ≠ 0

structure Plan where
  layers : Array PlannedLayer
  spare : Array Layer := #[]
  hasBias : Bool := false
  data : Tensor
  start : Nat
  first : Nat
  final : Nat
  terminating : Nat
  snoop : Option (List Int) := none
  inputProcessors : Nat := 0
  fifoGroup : Bool := false
  binary : Bool := false
  processorsUsed : Nat := 0
  groupsUsed : List Nat := []
deriving Repr, Inhabited

namespace Plan

def used (p : Plan) : List Nat := (List.range p.layers.size).drop p.first

def layer (p : Plan) (i : Nat) : PlannedLayer := p.layers.getD i default

def startLayer (p : Plan) : PlannedLayer := p.layer p.start

def endLayer (p : Plan) : PlannedLayer := p.layer p.terminating

def streams (p : Plan) : Bool := p.layers.any (·.streaming)

def mainGroup (p : Plan) : Nat := p.groupsUsed.headD 0

end Plan

end CnnForge.Accelerator
