import CnnForge.KernelMemory.Search
import CnnForge.KernelMemory.Stream

namespace CnnForge

attribute [local instance (2000)] instPowNat

inductive PackNote where
  | line (text : String)
  | warning (text : String)
deriving Repr, Inhabited

inductive PackFailure where
  | exhausted (layer : Nat) (offset needed : Int)
  | mismatch (message : String)
  | failure (cause : Failure)
deriving Repr, Inhabited

structure Packing where
  memory : KernelMemory := {}
  tops : Array Int := #[]
  notes : Array PackNote := #[]
deriving Inhabited

abbrev Pack := EStateM PackFailure Packing

structure PackSettings where
  device : Device
  quad : Bool := false
  greedy : Bool := true
  legacy : Bool := false
  start : Int := 0
  debug : Bool := false

structure KernelSpan where
  offset : Int
  length : Int := 0
  count : Int := 0
  channels : Int := 0
deriving Repr, DecidableEq, Inhabited

namespace Pack

def note (n : PackNote) : Pack Unit := modify fun s => { s with notes := s.notes.push n }

def lift (x : Except Failure α) : Pack α :=
  match x with
  | .ok a => pure a
  | .error e => throw (.failure e)

end Pack

structure Placement where
  layer : Nat
  offset : Nat
  quad : Bool
deriving Repr, Inhabited

namespace Placement

/-- Processor and column of target column `target`. In quad mode four targets share a column. -/
def cell (pl : Placement) (d : Device) (p target : Nat) : Nat × Nat :=
  if pl.quad then (p + target % 4 * d.groupSize, pl.offset + target / 4)
  else (p, pl.offset + target)

def storeByte (pl : Placement) (d : Device) (p target : Nat) (value : Int) : Pack Nat := do
  let (q, column) := pl.cell d p target
  if column + 1 > d.maskWidth q then throw (.exhausted pl.layer column 1)
  if q ≥ d.maxProcessors then throw (.failure .index)
  let m ← Pack.lift ((← get).memory.store pl.layer q column value)
  modify fun s => { s with memory := m }
  return if m.used q column = 9 then target + 1 else target

def place (pl : Placement) (d : Device) (p target : Nat) : StreamItem → Pack Nat
  | .byte value => pl.storeByte d p target value
  | .skip => pure (target + 1)
  | .note text => do Pack.note (.line text); return target
  | .missing => throw (.failure .index)

def fillWord (pl : Placement) (d : Device) (p target : Nat) : Pack Unit := do
  let (q, column) := pl.cell d p target
  let n := 9 - (← get).memory.used q column
  for _ in List.range (max n 1) do
    let _ ← pl.storeByte d p target 0

def fillWords (pl : Placement) (d : Device) (p first stop : Nat) : Pack Unit :=
  (List.range (stop - first)).forM fun i => pl.fillWord d p (first + i)

def wordAfter (pl : Placement) (d : Device) (m : KernelMemory) (p target : Nat) : Nat :=
  let column := pl.offset + target
  if column < d.maskWidth p && m.used p column > 0 then target + 1 else target

end Placement

namespace KernelLayer

/-- The processors of the layer. In quad mode only those of the first group count. -/
def inputMap (l : KernelLayer) (d : Device) (quad : Bool) : Nat :=
  if quad then l.processors % 2 ^ d.groupSize else l.processors

def checkSize (l : KernelLayer) (layer : Nat) (t : Tensor) : Pack Unit := do
  let rows := l.kernelSize.row
  let columns := l.kernelSize.column
  match t.shape.reverse with
  | [] => throw (.failure .index)
  | w :: h :: _ :: _ =>
    if (w : Int) ≠ rows ∨ (h : Int) ≠ columns then
      throw (.mismatch (s!"The configured kernel dimensions ({rows}x{columns}) for layer {layer} "
        ++ s!"do not match the weights file ({w}x{h})!"))
  | w :: _ =>
    if (w : Int) ≠ rows then
      throw (.mismatch (s!"The configured kernel dimensions ({rows}) for layer {layer} "
        ++ s!"do not match the weights file ({w})!"))

def extent (l : KernelLayer) (s : PackSettings) (a : ArrangedKernels) (quad : Bool) : KernelSpan :=
  let start : Int := l.startColumn s.device
  let map := l.outputProcessors
  let first := Bits.lowest map - if l.outExpand > 1 then start else 0
  let outputs := 1 + Bits.highest map - first
  let passes : Int := a.passes
  let (kernels, count, channels) :=
    if l.groups = 1 then
      let k := outputs * l.outExpand * passes
      (k, k + start * l.outExpand * passes, k + start * l.outExpand * passes)
    else (passes, passes + start * passes, outputs * passes + start * passes)
  let (kernels, count, channels) :=
    if !s.legacy && l.flatten then
      let each : Int := a.kernels.dim 1
      let surplus := (l.outExpand * Bits.count map - l.outputChannels : Int) * each
      (kernels * each - surplus, count * each - surplus, count * each - surplus)
    else (kernels, count, channels)
  let rest := kernels.fmod l.perByte * l.kernelBytes * (l.perByte - 1)
  let length := (kernels * l.kernelBytes * l.bits + rest + 71).fdiv 72
  if quad then
    { offset := s.start, length := (length + 3).fdiv 4, count := (count + 3).fdiv 4,
      channels := (channels + 3).fdiv 4 }
  else { offset := s.start, length, count, channels }

def findColumn (s : PackSettings) (layer : Nat) (length : Int) (processors : List Nat) :
    Pack Int := do
  let d := s.device
  let st ← get
  if s.greedy then
    if h : 0 < d.shared then
      if processors.any (· ≥ d.maxProcessors) then throw (.failure .index)
      let space : SearchSpace :=
        { taken := st.memory.taken, width := fun p => d.maskWidth p, columns := d.maskWidthLarge,
          step := d.shared, step_pos := h, length }
      match space.search processors processors 0 with
      | .ok column => return column
      | .error (.exhausted offset) => throw (.exhausted layer offset length)
      | .error .outside => throw (.failure .index)
    else throw (.failure .divisionByZero)
  else
    processors.foldlM (fun (acc : Int) p =>
      match st.tops[p]? with
      | some t => pure (max t acc)
      | none => throw (.failure .index)) s.start

/-- The column at which the layer starts, from the one that was found: columns that output
alignment leaves empty may lie over those to the left, and an offset is a multiple of four. -/
def alignColumn (l : KernelLayer) (d : Device) (afterPlain : Bool) (column : Int) : Nat :=
  let column := if l.interleaved && afterPlain then column * 4 else column
  let shift := ((l.startColumn d : Int) + l.perByte - 1).fdiv l.perByte
  SearchSpace.roundUp d.shared (max 0 (column - shift)).toNat

def lead (l : KernelLayer) (d : Device) (a : ArrangedKernels) : Nat :=
  l.startColumn d * l.kernelBytes * a.passes

def stream (l : KernelLayer) (s : PackSettings) (a : ArrangedKernels) (layer p rank : Nat) :
    List StreamItem :=
  List.replicate (l.lead s.device a % 9 / l.perByte) (.byte 0)
    ++ a.outputItems l s.debug layer p rank

def goal (l : KernelLayer) (d : Device) (length : Int) : Nat := (length + l.startColumn d).toNat

def lengthTo (l : KernelLayer) (d : Device) (stop : Nat) : Int :=
  if l.flatten then stop else stop - l.startColumn d

def setTop (d : Device) (top : Int) (p : Nat) : Pack Unit := do
  if p ≥ d.maxProcessors then throw (.failure .index)
  modify fun st => { st with tops := st.tops.setIfInBounds p top }

def packProcessor (l : KernelLayer) (s : PackSettings) (a : ArrangedKernels) (pl : Placement)
    (length : Int) (p rank : Nat) : Pack Int := do
  let d := s.device
  let start : Int := l.startColumn d
  let target ← (l.stream s a pl.layer p rank).foldlM (pl.place d p) (l.lead d a / 9)
  let target := if pl.quad then ((target - start + 3).fdiv 4 + start).toNat else target
  let next := pl.wordAfter d (← get).memory p target
  pl.fillWords d p next (l.goal d length)
  let length := l.lengthTo d (max next (l.goal d length))
  let owners := if pl.quad then (List.range 4).map fun g => p + g * d.groupSize else [p]
  owners.forM (setTop d (pl.offset + length))
  return length

def noteAlignment (l : KernelLayer) (d : Device) (layer : Nat) : Pack Unit := do
  if l.startColumn d > 0 && l.quantization ≠ 8 then
    Pack.note (.warning (s!"Warning: Layer {layer} with {l.quantization}-bit quantization uses "
      ++ "unaligned output processors, this may cause issues"))

def findSpan (l : KernelLayer) (s : PackSettings) (a : ArrangedKernels) (layer : Nat)
    (quad afterPlain : Bool) : Pack KernelSpan := do
  let d := s.device
  l.noteAlignment d layer
  if l.perByte = 0 then throw (.failure .divisionByZero)
  let span := l.extent s a quad
  let map := l.inputMap d quad
  if map = 0 then throw (.failure .value)
  let column ← findColumn s layer span.length (Bits.positions map)
  let offset := l.alignColumn d afterPlain column
  if offset + span.length > d.maskWidth (Bits.highest map) then
    throw (.exhausted layer offset span.length)
  if l.outputProcessors = 0 then throw (.failure .value)
  return { span with offset }

def packProcessors (l : KernelLayer) (s : PackSettings) (a : ArrangedKernels) (pl : Placement)
    (length : Int) : Pack Int :=
  (Bits.positions (l.inputMap s.device pl.quad)).zipIdx.foldlM
    (fun length (p, rank) => l.packProcessor s a pl length p rank) length

def pack (l : KernelLayer) (s : PackSettings) (layer : Nat) (afterPlain : Bool) : Pack KernelSpan := do
  let quad := layer = 0 && s.quad
  let a ← Pack.lift (l.arrange quad)
  l.checkSize layer a.kernels
  let span ← l.findSpan s a layer quad afterPlain
  let length ← l.packProcessors s a { layer, offset := span.offset.toNat, quad } span.length
  return { span with length }

end KernelLayer

def packActive (s : PackSettings) (layers : List KernelLayer) (first : Nat) (l : KernelLayer) (i : Nat) :
    Pack KernelSpan :=
  if i < first || !l.active then pure { offset := s.start }
  else
    let afterPlain := i > 0 && !((layers[i - 1]?.map (·.interleaved)).getD true)
    l.pack s i afterPlain

def packLayers (s : PackSettings) (layers : List KernelLayer) (first : Nat) : Pack (List KernelSpan) := do
  modify fun st => { st with tops := Array.replicate s.device.maxProcessors 0 }
  layers.zipIdx.mapM fun (l, i) => packActive s layers first l i

end CnnForge
