namespace CnnForge

structure LayerRegisters where
  nextLayer : Option Nat := none
  rows : Nat := 0
  columns : Nat := 0
  oneD : Nat := 0
  poolRows : Nat := 0
  poolColumns : Nat := 0
  stride : Nat := 0
  writeBase : Nat := 0
  writeSlot : Nat := 0
  writeMask : Nat := 0
  writeChannel : Nat := 0
  readBase : Nat := 0
  control : Nat := 0
  control2 : Nat := 0
  maskCount : Option Nat := none
  maskCount1 : Option Nat := none
  maskCount2 : Option Nat := none
  outChannels : Option Nat := none
  tram : Nat := 0
  enable : Nat := 0
  post : Nat := 0
  stream1 : Nat := 0
  stream2 : Nat := 0
  rollover : Nat := 0
  last : Nat := 0
  firstStream : Option Nat := none
  lastStream : Option Nat := none
  spacing : Option Nat := none
deriving Repr, Inhabited

structure RegisterFields where
  pipeline : Option Nat := none
  padCount : Nat := 0
  padEnable : Nat := 0
  countDiff : Option Nat := none
  countIncrement : Option Nat := none
  multiPassStride : Option Nat := none
  crossChannel : Nat := 0
  readAhead : Option Nat := none
  columnPrime : Option Nat := none
  rowPrime : Nat := 0
  shiftCount : Option Nat := none
  maskStart : Nat := 0
  maskMax : Nat := 0
  countBits : Nat := 0
  pointerBits : Nat := 0
  tramBits : Nat := 0
  streamStartBits : Nat := 0
  streamDeltaBits : Nat := 0
  rolloverBits : Nat := 0
  frameBits : Nat := 0
  pointerIncrementBits : Nat := 0
deriving Repr, Inhabited

structure ControlRegisters where
  control : Nat := 0
  sram : Nat := 1
  layerCount : Nat := 2
  sramTest : Nat := 3
  frame : Nat := 0
  mlator : Nat := 0
  snoop : Option Nat := none
  alwaysOn : Nat := 1024
  readySelect : Nat := 0
  pipelineReadySelect : Nat := 0
  fifoReadySelect : Nat := 0
  alwaysOnReadySelect : Nat := 0
deriving Repr, Inhabited

structure SelfTest where
  start : Nat := 0
  wait : Nat := 0
  error : Nat := 0
deriving Repr, Inhabited

structure SelfTests where
  data : SelfTest := {}
  mask : SelfTest := {}
  tram : SelfTest := {}
  bias : SelfTest := {}
  clearAll : Nat := 0
  clear : Nat := 0
  clearWait : Nat := 0
deriving Repr, Inhabited

structure Features where
  streamBias : Bool := false
  depthwise : Bool := false
  calcx4 : Bool := false
  gcfr : Bool := false
  pipeline : Bool := false
  pll : Bool := false
  binaryWeights : Bool := false
  linkLayer : Bool := false
  readAhead : Bool := false
  multiPassStride : Bool := false
  kernelBypass : Bool := false
  arbitraryPadding : Bool := false
  arbitraryStride : Bool := false
  arbitraryOutputWidth : Bool := false
  fifoGo : Bool := false
  snoop : Bool := false
  streamUnpaddedFinal : Bool := false
  needsRegisterClear : Bool := false
  needsSemaphoreWake : Bool := false
  needsOneShotClear : Bool := true
  needsNewStreaming : Bool := false
  needsFifoComplete : Bool := true
  emulatesMultiPassElementwise : Bool := false
  usesProcessors : Bool := true
  modernSimulation : Bool := false
deriving Repr, Inhabited

inductive DeviceKind where
  | cmsisNn | max78000 | max78002
deriving Repr, DecidableEq, Inhabited

structure Device where
  kind : DeviceKind
  partNumber : String
  apbBase : Nat := 0
  maxLayers : Nat := 0
  maxStreamLayers : Nat := 0
  maxStartLayer : Nat := 0
  layerRegisterWords : Nat := 0
  fifoBase : Nat := 0
  cnnBase : Nat := 0
  groups : Nat := 0
  groupsAll : Nat := 0
  groupSize : Nat := 0
  shared : Nat := 0
  maxProcessors : Nat := 0
  maxRowCol : Nat := 0
  maxChannels : Nat := 0
  frameSizeMax : Nat := 0
  layerReg : LayerRegisters := {}
  fields : RegisterFields := {}
  controlReg : ControlRegisters := {}
  tests : SelfTests := {}
  features : Features := {}
  tramSize : Nat := 0
  tramSpacing : Nat := 0
  biasSize : Nat := 0
  maskWidthSmall : Nat := 0
  maskWidthLarge : Nat := 0
  maskSpacing : Nat := 0
  maskInstances : Nat := 1
  maskInstancesEach : Nat := 1
  biasBase : Nat := 0
  tramBase : Nat := 0
  maskBase : Nat := 0
  dataBase : Nat := 0
  groupSpacing : Nat := 0
  instanceSize : Nat := 0
  instanceWidth : Nat := 0
  instanceCount : Nat := 0
  instanceShift : Nat := 0
  writePointerShift : Nat := 0
  memorySize : Nat := 0
  biasScale : Nat := 128
  fastFifoBase : Nat := 0
  transposePads : List Int := []
  transposeOutputPads : List Int := []
  flashSize : Nat := 0
  riscvSramOrigin : Nat := 0
  startCycles : Nat := 0
  padCycles : Nat := 0
  maxDilation : Nat := 1
  maxPoolDilation : Nat := 1
  maxPoolPasses : Nat := 1
  ipoSpeed : Nat := 100
  apbSpeed : Nat := 50
  pllSpeed : Nat := 0
deriving Repr, Inhabited

namespace Device

def fifoControl : Nat := 0
def fifoStatus : Nat := 1
def fifoData : Nat := 2

def fastFifoControl : Nat := 0
def fastFifoStatus : Nat := 1
def fastFifoInterruptEnable : Nat := 2
def fastFifoData : Nat := 4

def isSoftware (d : Device) : Bool := d.kind == .cmsisNn

end Device

end CnnForge
