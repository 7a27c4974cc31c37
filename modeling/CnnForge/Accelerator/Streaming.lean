import CnnForge.Accelerator.LayerRegisters

namespace CnnForge.Accelerator

attribute [local instance (2000)] Zero.ofOfNat0

structure StreamCounts where
  start : Int := 0
  startPixels : Int := 0
  delta1 : Int := 0
  delta2 : Int := 0
deriving Repr, DecidableEq, Inhabited

def quarter (n : Int) : Int := (n + 3).fdiv 4

namespace LayerContext

variable (c : LayerContext)

def unit (n : Int) : Int := if c.layer.bigData then quarter n else n

def previous : Except Failure PlannedLayer := elementAt c.plan.layers c.layer.previous

def followingCounts : Except Failure StreamCounts := do
  let o := c.options
  let l := c.layer
  let atStart := c.index = c.plan.start
  if atStart && o.fifo then
    let start := match o.overrideStart with
      | some n => n
      | none =>
        if l.streaming then (l.pool.row - 1) * l.inputSize.column + l.pool.column
        else c.unit l.inputSize.product
    let start := start * l.pool.row
    if l.streaming then
      return {
        start
        delta1 := o.overrideDelta1.getD ((l.poolStride.column - 1) * l.operands)
        delta2 := o.overrideDelta2.getD ((l.pool.row - 1) * l.inputSize.column * l.operands) }
    return { start }
  else if c.index > c.plan.start && l.streaming then
    let p ← c.previous
    let width := p.pooledSize.column + 2 * p.effectivePad.column
    return {
      start := width * (p.kernelSize.row - 1 + l.pool.row - 1) + p.kernelSize.column - 1
        + l.pool.column + o.increaseStart
      delta1 := l.poolStride.column * l.operands + o.increaseDelta1
      delta2 := (l.poolStride.row - 1) * width + l.pool.column * l.operands + o.increaseDelta2 }
  else return {}

def rowStep : Int := max (c.layer.pool.row * c.layer.poolDilation.row) c.layer.poolStride.row

def columnStep : Int :=
  max (c.layer.pool.column * c.layer.poolDilation.column) c.layer.poolStride.column

def newerRules : Bool := c.options.debugNewStreaming && c.index > 0

def endsStream : Except Failure Bool := do
  if c.index = c.plan.final then return true
  return !(← elementAt c.plan.layers c.layer.next).streaming

def windows : Int :=
  let l := c.layer
  let n := l.inputSize.column
  if c.newerRules then
    let k := n.fdiv c.columnStep
    if k * l.poolStride.column + l.pool.column > n then k - 1 else k
  else
    let k := n.fdiv l.poolStride.column
    if k * l.poolStride.column + l.pool.column - 1 > n then k - 1 else k

def columnRest : Int :=
  let n := c.layer.inputSize.column
  if c.newerRules && c.columnStep = 1 then 0 else n - c.windows * c.columnStep

def skippedColumns : Int :=
  max 0 (c.layer.inputSize.column - c.windows * c.layer.poolStride.column)

def paddedWidth : Int := c.layer.inputSize.column + 2 * c.layer.effectivePad.column

def firstStart : Int :=
  let l := c.layer
  if l.streaming then
    if l.poolStride.row = 1 && l.pool.row = 1 then c.columnStep
    else (c.rowStep - 1) * c.paddedWidth + c.columnStep
  else l.inputSize.product

def laterStart (last : Bool) : Int :=
  let l := c.layer
  let pad := l.effectivePad.column
  let lead := if c.newerRules then (if pad = 0 then l.poolStride.row else pad) else pad
  let base := lead * c.paddedWidth
    + (c.rowStep * c.paddedWidth + pad + 2 * c.columnStep) * l.operands
  base + (if l.readAhead then l.poolStride.column else 0)
    + (if last && c.options.debugNewStreaming then c.columnRest * l.poolStride.column else 0)

def rowAdvance (delta1 : Int) : Int :=
  let l := c.layer
  let rest := if c.newerRules then c.columnRest else c.skippedColumns
  if l.poolStride.row = 1 then delta1 + rest
  else
    let tail := if c.index = c.plan.start && !c.newerRules then l.pool.column - 1 else 0
    (l.poolStride.row - 1) * l.inputSize.column + rest + tail

def pipelined (n : Int) : Int := if c.options.pipeline == some true && n > 0 then n + 1 else n

def ownCounts : Except Failure StreamCounts := do
  let o := c.options
  let l := c.layer
  let atStart := c.index = c.plan.start
  let last ← if l.streaming then c.endsStream else pure false
  let started : StreamCounts :=
    match (if atStart then o.overrideStart else none) with
    | some n => { start := n, startPixels := n }
    | none =>
      if atStart && o.fifo then { start := c.unit c.firstStart, startPixels := c.firstStart }
      else if c.index > c.plan.start && l.streaming then
        { start := c.unit (c.laterStart last), startPixels := c.laterStart last }
      else {}
  if !l.streaming then return started
  if atStart then
    let delta1 := o.overrideDelta1.getD
      (c.pipelined (c.unit (l.poolStride.column * l.operands - 1)))
    let delta2 := o.overrideDelta2.getD (c.pipelined (c.unit (c.rowAdvance delta1)))
    return { started with delta1, delta2 }
  else
    let delta1 := c.unit (l.poolStride.column * l.operands) + o.increaseDelta1
    return { started with delta1, delta2 := c.unit (c.rowAdvance delta1) + o.increaseDelta2 }

def streamCounts : Except Failure StreamCounts :=
  if c.device.features.needsNewStreaming then c.ownCounts else c.followingCounts

def invol : Int :=
  if c.index > c.plan.start && c.layer.streaming then
    ((c.plan.layers.toList.take c.index).map (·.inExpandInvol)).sum
  else 0

def toPasses (n : Int) : Except Failure Int :=
  let passes := c.layer.inExpand
  if passes = 0 then .error .divisionByZero
  else .ok (n + (passes - n.fmod passes).fmod passes)

def rollover (s : StreamCounts) : Except Failure Int := do
  let l := c.layer
  let atStart := c.index = c.plan.start
  match (if atStart then c.options.overrideRollover else none) with
  | some n => return n
  | none =>
    if !c.device.features.needsNewStreaming then
      if l.bigData then c.toPasses 12
      else
        c.toPasses (s.start + (l.pool.row - 1) * l.inputSize.column
          + max (max l.stride.column l.poolStride.column) l.pool.column)
    else if atStart then
      let n := s.startPixels + c.columnStep
      return if l.bigData then n * (l.poolStride.column * 4) else n
    else
      let n ← c.toPasses (s.startPixels
        + (l.inExpand - 1) * (c.rowStep * l.inputSize.column + l.effectivePad.column + c.columnStep)
        + c.columnStep)
      return c.unit n

end LayerContext

end CnnForge.Accelerator
