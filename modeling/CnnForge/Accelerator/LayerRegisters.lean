import CnnForge.Accelerator.Describe
import CnnForge.Accelerator.RegisterPlan

namespace CnnForge.Accelerator

attribute [local instance (2000)] instPowNat Zero.ofOfNat0

structure LayerContext where
  device : Device
  options : Options
  plan : Plan
  index : Nat
  layer : PlannedLayer
  group : Nat
  kernels : KernelSpan
  bias : BiasPlace
  localOutput : Bool
  lastSlot : Int
deriving Inhabited

def gapsOf (map : Nat) : List Nat :=
  let ps := Bits.positions map
  ps.zipWith (fun a b => b - a - 1) ps.tail

def needsLocalOutput (l : PlannedLayer) (map : Nat) : Bool :=
  match gapsOf map with
  | [] => false
  | g :: rest =>
    let lo := rest.foldl min g
    let hi := rest.foldl max g
    lo != hi || (hi > 0 && l.isPassthrough)

def usesLocalOutput (d : Device) (p : Plan) (l : PlannedLayer) : Bool :=
  p.groupsUsed.any fun g => needsLocalOutput l (groupPart d l.outMap g)

def lastSlotOf (l : PlannedLayer) (count : Nat) : Int :=
  if l.isPassthrough then
    if count = 0 then 0 else ((count * l.outputWidth).fdiv 8 - 1).fdiv 4
  else if l.isDepthwise then
    if l.broadcast == some true then
      (min ((count : Int) - 1) 3 + 1) * l.outputWidth.fdiv 8 - 1
    else (count * l.outputWidth + 7).fdiv 8 - 1
  else 0

def lastSlot (d : Device) (p : Plan) (l : PlannedLayer) : Int :=
  p.groupsUsed.foldl (fun n g => max n (lastSlotOf l (Bits.count (groupBits d l.processors g)))) 0

namespace LayerContext

variable (c : LayerContext)

def groupProcessors : Nat := groupBits c.device c.layer.processors c.group

def counted : Pair :=
  let l := c.layer
  if l.flatten then l.pool
  else if l.operator == .convTranspose2d then
    ⟨l.stride.row * l.inputSize.row, l.stride.column * l.inputSize.column⟩
  else if l.isPassthrough && l.emulatesElementwise then
    ⟨l.inputSize.row * l.inExpand, l.inputSize.column⟩
  else l.inputSize

def remainder (n pool dilation stride : Int) : Int :=
  n - (n - pool - dilation + 1).fdiv stride * stride

def padFields (pad : Int) : List BitField :=
  let f := c.device.fields
  [flag (pad > 0) f.padEnable, fieldIf (pad > 0) (pad - 1) f.padCount]

def paddedCount (n pad : Int) : Except Failure Int :=
  let f := c.device.fields
  if pad < 2 ^ 2 && n - 1 + 2 * pad < 2 ^ f.countBits then
    .ok (Bits.or (n - 1) (Bits.up pad f.padCount) + 2 * pad)
  else .error (.check "")

def rows : Except Failure Int :=
  let l := c.layer
  let n := c.counted
  let pad := l.effectivePad.row
  match c.device.fields.countDiff with
  | some position =>
    let last := n.row - remainder n.row l.pool.row l.poolDilation.row l.poolStride.row
    let rest := if l.operator == .conv1d then 1
      else remainder n.column l.pool.column l.poolDilation.column l.poolStride.column
    let next := (rest + (l.poolStride.row - 1) * n.column) * (l.inputSkip + 1) * l.operands
      * l.inExpand
    if last < 2 ^ c.device.fields.countBits && (pad ≤ 0 || pad - 1 < 2 ^ 2) then
      .ok (wordOf (⟨last, 0⟩ :: ⟨next, position⟩ :: c.padFields pad))
    else .error (.check "")
  | none => c.paddedCount n.row pad

def columns : Except Failure Int :=
  let l := c.layer
  let n := c.counted
  let pad := l.effectivePad.column
  match c.device.fields.countDiff with
  | some position =>
    let rest := remainder n.column l.pool.column l.poolDilation.column l.poolStride.column
    let last := n.column - rest
    if last < 2 ^ c.device.fields.countBits && (pad ≤ 0 || pad - 1 < 2 ^ 2) then
      .ok (wordOf (⟨last, 0⟩ :: ⟨rest, position⟩ :: c.padFields pad))
    else .error (.check "")
  | none => c.paddedCount n.column pad

def poolCount (pool dilation : Int) : Except Failure Int :=
  let n := (pool - 1) * dilation
  if n < 2 ^ 4 then
    .ok (wordOf [⟨n, 0⟩, match c.device.fields.countIncrement with
      | some position => ⟨dilation - 1, position⟩
      | none => ⟨0, 0⟩])
  else .error (.check "")

def stride : Except Failure Int :=
  let l := c.layer
  let n := if l.operator == .convTranspose2d then 0
    else if l.poolStride.row > 1 then l.poolStride.row - 1 else l.stride.row - 1
  if n < 2 ^ 4 then
    .ok (wordOf [⟨n, 0⟩, match c.device.fields.multiPassStride with
      | some position =>
        ⟨l.poolStride.row * l.operands * l.inExpand * (l.inputSkip + 1), position⟩
      | none => ⟨0, 0⟩])
  else .error (.check "")

def pointer (n : Int) : Except Failure Int :=
  if n < 2 ^ c.device.fields.pointerBits then .ok n else .error (.check "")

def outputBlock : Int :=
  let l := c.layer
  let first (map : Nat) : Int := Bits.roundDown4 (Bits.lowest map)
  if !l.isPassthrough then first l.outMap
  else
    let part := groupPart c.device l.outMap c.group
    if part > 0 then first part else 0

def writeBase : Except Failure Int :=
  let d := c.device
  let l := c.layer
  let base := l.outputOffset.fdiv 4
  let size : Int := d.groupSize
  let shared : Int := d.shared
  let words : Int := d.instanceSize
  if c.localOutput then
    let block := Bits.roundDown4 (Bits.lowest (l.outMap >>> (c.group * d.shared) : Nat))
    c.pointer (Bits.or base ((block + c.group * shared) * words))
  else if !l.isPassthrough && l.movesChannels then
    let start := Bits.lowest l.processors
    let ahead := (c.group : Int) - start.fdiv size
    if ahead ≥ 0 then
      let target := ahead * size + Bits.lowest l.outMap
        - (if ahead = 0 then 0 else start.fmod size)
      c.pointer (Bits.or base (Bits.up (target.fdiv shared) d.writePointerShift))
    else c.pointer 0
  else
    let block := c.outputBlock
    c.pointer (Bits.or base (Bits.or (block.fmod shared * words)
      (Bits.up (block.fdiv shared) d.writePointerShift)))

def writeSlot : Except Failure Int :=
  let l := c.layer
  let words : Int := c.device.instanceSize
  c.pointer <|
    if l.operator.isConv2d then
      if l.kernelSize == .both 1 && l.groups = 1 then 1
      else if l.movesChannels then words * 4
      else 0
    else if l.isPassthrough then
      if Bits.count l.processors > 4 || (l.operands > 1 && l.inExpand > 1) then words * 4 else words
    else 0

def writeChannel : Int :=
  let l := c.layer
  if l.outExpand > 1 then l.outputWidth.fdiv 8 * (l.writeGap + 1) else 0

def sources : Except Failure Int := do
  let groups := ((List.range c.device.groups).drop (c.plan.mainGroup + 1)).filter fun g =>
    groupBits c.device c.layer.processors g ≠ 0
  let bits := wordOf (groups.map fun g => ⟨1, g⟩)
  match c.bias.group with
  | .none => return bits
  | .all => throw .kind
  | .one g => return if g = c.group then bits else Bits.or bits (Bits.up 1 g.toNat)

def control : Except Failure Int := do
  let l := c.layer
  let f := c.device.fields
  let leads := (c.index != c.plan.start || !c.options.fastFifoQuad) && !l.isPassthrough
    && c.group == c.plan.mainGroup && l.groups = 1
  let sources ← if leads then c.sources else pure 0
  let optional (position : Option Nat) (b : Bool) (value : Int) : BitField :=
    match position with
    | some k => fieldIf b value k
    | none => ⟨0, 0⟩
  let shifts := if l.sharesTram then (l.inExpand - 1).fdiv 4 else l.inExpand - 1
  let primes := f.columnPrime.isSome && !l.isPassthrough
  return wordOf [
    flag true 5, flag l.bigData 6, flag l.pools 7, flag (!l.poolAverage) 8,
    flag (l.activation == some .relu) 9, flag (!c.localOutput) 11, ⟨sources, 12⟩,
    flag (l.outputWidth != 8) 16, flag (l.isDepthwise && l.broadcast == some true) 29,
    optional f.readAhead l.readAhead 1, fieldIf primes (l.kernelSize.row - 1) f.rowPrime,
    optional f.columnPrime primes (l.kernelSize.column - 1),
    optional f.shiftCount l.readAhead shifts, flag l.bypass 30]

def flatSteps : Int :=
  let l := c.layer
  if l.flatten then l.inExpand * l.pooledSize.product - 1 else 0

/-- Passes over the input, less one; of the steps of a flattened layer only the lowest four bits. -/
def passCount : Int :=
  let l := c.layer
  if l.flatten then c.flatSteps.fmod 16
  else if l.isPassthrough && l.emulatesElementwise then 0
  else l.inExpand - 1

def control2 : Except Failure Int :=
  let l := c.layer
  let f := c.device.fields
  let span := Bits.highest l.outMap - Bits.roundDown4 (Bits.lowest l.outMap)
  let skip := if l.isPassthrough then l.writeGap else l.outExpand * (l.writeGap + 1) - 1
  if c.passCount < 2 ^ 4 && skip < 2 ^ f.pointerIncrementBits then
    .ok (wordOf [⟨span * l.maskBits, f.crossChannel⟩, ⟨c.passCount, 0⟩, ⟨skip, 4⟩])
  else .error (.check "")

structure MaskRange where
  length : Int := 0
  offset : Int := 0
  place : Int := 0
deriving Repr, DecidableEq, Inhabited

def masks : Except Failure MaskRange := do
  let l := c.layer
  if l.isPassthrough then return {}
  let bits := l.maskBits
  let count := if l.bypass then l.outputChannels.fdiv l.groups else c.kernels.count
  let length := (count - 1) * bits
  let length := if c.index = c.plan.start && l.calcx4 then (length + bits + 3).fdiv 4 - bits
    else length
  let size := l.kernelSize.product
  if size = 0 then throw .divisionByZero
  let words := (9 * c.kernels.offset).fdiv size
  let words := if l.calcx4 then c.device.interleavedKernel words else words
  return { length, offset := words * 8, place := (9 * c.kernels.offset).fmod size }

def maskRegisters (m : MaskRange) : Except Failure (List (Nat × Int × String)) :=
  let l := c.layer
  let r := c.device.layerReg
  let fits (bits : Nat) (n : Int) : Bool := n < 2 ^ bits
  let last := m.length + m.offset
  let passes := (l.outExpand - 1) * 8
  match r.maskCount1, r.maskCount2 with
  | some first, some second =>
    if l.isPassthrough then
      if fits 19 passes then .ok [(second, passes, " // Mask offset")] else .error (.check "")
    else if fits 19 m.offset && fits 19 last then
      .ok [(first, last, " // Mask count"), (second, m.offset, " // Mask offset")]
    else .error (.check "")
  | _, _ =>
    let register := r.maskCount.getD 0
    let f := c.device.fields
    let comment := " // Mask offset and count"
    if !l.isPassthrough then
      if fits 16 m.offset && fits 16 last then
        .ok [(register, wordOf [⟨m.offset, f.maskStart⟩, ⟨last, f.maskMax⟩], comment)]
      else .error (.check "")
    else if l.emulatesElementwise then .ok [(register, 0, comment)]
    else if fits 16 passes then .ok [(register, passes, comment)]
    else .error (.check "")

def outputChannels : Int :=
  let l := c.layer
  if l.bypass then l.outputChannels - 1
  else if !l.isPassthrough && l.groups = 1 then
    let n := c.kernels.channels - 1
    if l.calcx4 then n.fdiv 4 else n
  else if l.isDepthwise then (c.lastSlot + 1) * l.inExpand - 1
  else c.lastSlot

def oneD (m : MaskRange) : Except Failure Int := do
  let l := c.layer
  let check (b : Bool) : Except Failure Unit := if b then .ok () else .error (.check "")
  check (0 ≤ c.lastSlot && c.lastSlot < 2 ^ 4)
  let single := l.isPointwise || (l.isPassthrough && l.operands = 1)
  let kind : List BitField ←
    if l.operator == .conv1d then do
      check (l.kernelSize.row < 2 ^ 4)
      pure [⟨l.kernelSize.row, 8⟩, flag true 12]
    else pure [flag single 8]
  let operands : List BitField ←
    if l.operands > 1 then do
      let some code := l.elementwise.encoding? | throw .unsupported
      pure [flag true 13, ⟨code, 14⟩, ⟨l.operands - 1, 18⟩, flag (l.pools && l.poolFirst) 16,
        flag (!l.isPassthrough) 17]
    else pure []
  check (0 ≤ m.place && m.place < 2 ^ 4)
  return wordOf (⟨c.lastSlot, 0⟩ :: kind ++ operands ++ [⟨m.place, 4⟩])

def tramBefore : Int :=
  ((c.plan.layers.toList.take c.index).map fun l => l.tramMax * l.inExpand).sum

def tram : Except Failure Int :=
  let l := c.layer
  let f := c.device.fields
  let flat := c.flatSteps
  if l.operator == .conv1d || (l.isPointwise && (c.index = 0 || !l.streaming)) then
    if flat ≥ 2 ^ 4 then
      if flat < 2 ^ 16 then .ok (wordOf [⟨flat, 16⟩, ⟨2 * flat + 1, 0⟩]) else .error (.check "")
    else .ok 0
  else
    let last := l.tramMax - 1
    if last ≥ 2 ^ 16 then .error (.check "")
    else if c.index > 0 && l.streaming then
      let before := c.tramBefore
      if before < 2 ^ f.tramBits && last + before < 2 ^ 16 then
        .ok (wordOf [⟨last + before, 0⟩, ⟨before, 16⟩])
      else .error (.check "")
    else .ok last

def weightCode : Except Failure Int :=
  let bits := c.layer.bits
  if bits.natAbs = 1 then .ok 1
  else if bits = 2 then .ok 2
  else if bits = 4 then .ok 3
  else if bits = 0 || bits = 8 then .ok 0
  else .error (.check "")

def biasStart : Except Failure (Option Int) := do
  let l := c.layer
  let some start := c.bias.offsets[c.group]? | throw .index
  let check (n : Int) : Except Failure (Option Int) :=
    if n < 2 ^ 12 then .ok (some n) else .error (.check "")
  if l.groups = 1 && c.bias.group == .one c.group then
    match start with
    | some n => check (if l.calcx4 then n.fdiv 4 else n)
    | none => throw .kind
  else
    match start with
    | some n =>
      if l.isDepthwise || (c.options.fastFifoQuad && c.index = 0) then
        check (if l.broadcast == some true then n.fdiv 4 else n)
      else return none
    | none => return none

def post : Except Failure Int := do
  let l := c.layer
  let code ← c.weightCode
  if l.isPassthrough && l.shift != 0 then throw (.check "")
  let bias ← c.biasStart
  let flat := c.flatSteps
  let depthwise := l.isDepthwise
  return wordOf [
    ⟨code, 22⟩,
    ⟨if l.shift < 0 then Bits.or (-l.shift) 16 else l.shift, 13⟩,
    flag bias.isSome 12, ⟨bias.getD 0, 0⟩,
    flag (l.isPassthrough || depthwise) 24, flag (l.isPassthrough && l.operands = 1) 25,
    flag (l.activation == some .abs) 26,
    flag (flat ≥ 2 ^ 4) 27, fieldIf (flat ≥ 2 ^ 4) (Bits.down flat 4) 18,
    flag (l.operator == .convTranspose2d) 28, flag l.calcx4 29, flag depthwise 30,
    flag l.sharesTram 31]

def enables : Int :=
  let bits : Int := c.groupProcessors
  if !c.layer.isPassthrough && !c.layer.bypass then wordOf [⟨bits, 16⟩, ⟨bits, 0⟩] else bits

end LayerContext

end CnnForge.Accelerator
