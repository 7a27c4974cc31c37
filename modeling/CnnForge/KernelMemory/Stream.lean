import CnnForge.Bits
import CnnForge.Device.Address
import CnnForge.Geometry
import CnnForge.Text.Grid

namespace CnnForge

attribute [local instance (2000)] instPowNat

structure KernelLayer where
  active : Bool := true
  kernel : Option Tensor := none
  kernelSize : Pair
  quantization : Int
  processors : Nat
  outputProcessors : Nat
  inputChannels : Nat
  outputChannels : Nat
  outExpand : Nat
  outExpandThresh : Nat
  inExpand : Nat
  inExpandThresh : Nat
  groups : Int
  flatten : Bool := false
  interleaved : Bool := false
deriving Repr, Inhabited

namespace KernelLayer

def bits (l : KernelLayer) : Nat := l.quantization.natAbs

def perByte (l : KernelLayer) : Nat := 8 / l.bits

def kernelBytes (l : KernelLayer) : Nat := l.kernelSize.product.toNat

def startColumn (l : KernelLayer) (d : Device) : Nat :=
  ((Bits.lowest l.outputProcessors).fmod d.shared).toNat

end KernelLayer

structure ArrangedKernels where
  kernels : Tensor
  passes : Nat
  channels : Nat
deriving Repr, Inhabited

namespace KernelLayer

def interleave (l : KernelLayer) (k : Tensor) : Except Failure Tensor := do
  if l.outputChannels % 4 ≠ 0 then throw (.check "")
  let some t := k.reshapeWith? [some (l.outputChannels / 4), some 4, none] | throw .value
  let some t := (t.transpose [1, 0, 2]).reshape? k.shape | throw .value
  return t

def spread (l : KernelLayer) (k : Tensor) : Except Failure Tensor := do
  let q := l.perByte
  if l.outputChannels % (4 * q) ≠ 0 then throw (.check "")
  let some t := k.reshape? [l.outputChannels / (4 * q), q, 4, l.inputChannels, l.kernelBytes]
    | throw .value
  let some t := (t.transpose [0, 2, 1, 3, 4]).reshape? k.shape | throw .value
  return t

def flattened (l : KernelLayer) (k : Tensor) : Except Failure Tensor := do
  let some t := k.reshapeWith? [some l.outputChannels, some l.inExpand, none] | throw .value
  let some t := (t.transpose [0, 2, 1]).reshapeWith?
      [some (l.outputChannels * l.inExpandThresh), none, some l.kernelSize.row.toNat,
        some l.kernelSize.column.toNat] | throw .value
  return t

/-- The kernels of a layer in packing order; `quad` is set for an input that is spread over the four
groups of processors. -/
def arrange (l : KernelLayer) (quad : Bool) : Except Failure ArrangedKernels := do
  if l.quantization = 0 then throw .divisionByZero
  let some k := l.kernel | throw .property
  let (t, passes, channels) ←
    if l.flatten then pure (← l.flattened k, 1, l.inExpandThresh)
    else if l.interleaved then pure (← l.interleave k, l.inExpand, l.inputChannels)
    else if quad && l.perByte ≠ 1 then pure (← l.spread k, l.inExpand, l.inputChannels)
    else pure (k, l.inExpand, l.inputChannels)
  return ⟨if l.quantization = -1 then t.clip (-1) 0 else t, passes, channels⟩

end KernelLayer

inductive StreamItem where
  | byte (value : Int)
  | skip
  | note (text : String)
  | missing
deriving Repr, Inhabited

namespace ArrangedKernels

/-- The elements of kernel `i` as unsigned weights of `l`, `none` beyond the last kernel. -/
def weights? (a : ArrangedKernels) (l : KernelLayer) (i : Nat) : Option (List Int) :=
  if i < a.kernels.dim 0 then some ((a.kernels.part i).data.toList.map (Bits.low l.bits)) else none

def kernelIndex (a : ArrangedKernels) (l : KernelLayer) (source pass i : Nat) : Nat :=
  let n := i + pass * l.perByte
  source + n % a.passes * l.inExpandThresh + n / a.passes * a.channels

def shares (a : ArrangedKernels) (l : KernelLayer) (channel source pass : Nat) :
    List (Option (List Int)) :=
  (List.range l.perByte).map fun i =>
    if channel < l.outputChannels then a.weights? l (a.kernelIndex l source pass i) else none

def overlay (bits : Nat) (size : Nat) (ks : List (Option (List Int))) : List Int :=
  (ks.zipIdx).foldl (fun acc (k, i) =>
    match k with
    | none => acc
    | some k => acc.zipWith (fun x y => Bits.or x (Bits.up y (i * bits))) k)
    (List.replicate size 0)

def packed (bits perByte : Nat) (ks : List Int) : List Int :=
  (List.range ((ks.length + perByte - 1) / perByte)).map fun i =>
    (List.range perByte).foldl (fun e j =>
      Bits.or e (Bits.up (ks.getD (i * perByte + j) 0) (j * bits))) 0

def describe (layer processor channel first count total : Nat) (k : List Int) : String :=
  let shown := Text.renderGridWith (Text.hex 2) (Tensor.ofFn [k.length] fun i => k.getD i 0)
  let last : Int := first + count - 1
  s!"Layer {layer} processor {processor} channel {channel} m[{first}..{last}] of {total}: {shown}"

def passItems (a : ArrangedKernels) (l : KernelLayer) (debug : Bool) (layer p rank channel pass : Nat) :
    List StreamItem :=
  let size := l.kernelBytes
  let inputs := if l.flatten then a.channels * l.perByte else a.channels
  let source := rank + channel * inputs
  if pass * l.inExpandThresh + rank < inputs ∧ source < a.kernels.dim 0 then
    let ks := a.shares l channel source pass
    let k :=
      if l.flatten then (ks.map (·.getD [])).flatten
      else overlay l.bits (shapeSize a.kernels.shape.tail) ks
    let count := if channel < l.outputChannels then l.perByte else 0
    let note := describe layer p (rank + pass * l.inExpandThresh) channel count l.outputChannels k
    (if debug then [.note note] else [])
      ++ (if l.flatten then (packed l.bits l.perByte k).map .byte
        else if k.length < size then [.missing]
        else (k.take size).reverse.map .byte)
  else List.replicate (size / l.perByte) (.byte 0)

/-- Moves over output processors that are not used, as many at once as share a byte. `fuel` bounds
the bits of `map`. -/
def skipUnused (perByte : Nat) : Nat → Nat → Nat × List StreamItem
  | 0, map => (map, [])
  | fuel + 1, map =>
    if map ≠ 0 ∧ map % 2 ^ perByte = 0 then
      let (m, items) := skipUnused perByte fuel (map >>> perByte)
      (m, .skip :: items)
    else (map, [])

/-- Items for the output channels of one pass over the output, from column `column` up to `stop`.
`fuel` bounds the number of columns. -/
def columnItems (a : ArrangedKernels) (l : KernelLayer) (debug : Bool) (layer p rank stop : Nat) :
    Nat → Nat → Nat → Nat → List (List StreamItem) × Nat
  | 0, _, channel, _ => ([], channel)
  | fuel + 1, column, channel, map =>
    if column < stop then
      let (map, skips) := skipUnused l.perByte (map.log2 + 1) map
      let items := (List.range a.passes).map (a.passItems l debug layer p rank channel)
      let step := if l.flatten then 1 else l.perByte
      let (rest, channel) := columnItems a l debug layer p rank stop fuel (column + step)
        (channel + step) (map >>> l.perByte)
      (skips :: items ++ rest, channel)
    else ([], channel)

def outputItems (a : ArrangedKernels) (l : KernelLayer) (debug : Bool) (layer p rank : Nat) :
    List StreamItem :=
  let map := l.outputProcessors >>> (Bits.lowest l.outputProcessors).toNat
  let span := if l.groups = 1 then l.outExpandThresh else 1
  let passes := if l.groups = 1 then l.outExpand else 1
  ((List.range passes).foldl (fun ((items, channel) : List (List StreamItem) × Nat) pass =>
      let (more, channel) := a.columnItems l debug layer p rank ((pass + 1) * span) (span + 1)
        (pass * span) channel map
      (items ++ more, channel)) ([], 0)).1.flatten

end ArrangedKernels

end CnnForge
