import CnnForge.Bus.Basic
import CnnForge.Tensor.Basic

namespace CnnForge

attribute [local instance (2000)] instPowNat

structure DataShape where
  channels : Nat
  height : Nat
  width : Nat
deriving Repr, DecidableEq, Inhabited

namespace DataShape

def pixels (s : DataShape) : Nat := s.height * s.width

def bytes (s : DataShape) : Nat := s.channels * s.height * s.width

end DataShape

structure InputLayout where
  planar : Bool := false
  processors : Nat
  offset : Int := 0
  shape : DataShape
  inExpand : Nat := 1
  operands : Nat := 1
  inExpandThresh : Nat := 64
  padding : Nat := 0
deriving Repr, Inhabited

structure InputBlock where
  position : Nat
  lanes : Nat
  first : Nat
deriving Repr, DecidableEq, Inhabited

def InputBlock.count (b : InputBlock) : Nat := Bits.count b.lanes

structure InputWord where
  address : Int
  row : Nat
  column : Nat
  value : Option Int
deriving Repr, DecidableEq, Inhabited

namespace InputLayout

def blocksFrom (l : InputLayout) (d : Device) (step : Nat) : Nat → List Nat → List InputBlock
  | _, [] => []
  | first, position :: rest =>
    let lanes := (l.processors >>> (position % d.maxProcessors)) % 2 ^ step
    if lanes = 0 then l.blocksFrom d step first rest
    else
      let b : InputBlock := ⟨position, lanes, first⟩
      if first + b.count ≥ l.shape.channels then [b]
      else b :: l.blocksFrom d step (first + b.count) rest

def blocks (l : InputLayout) (d : Device) : List InputBlock :=
  let step := if l.planar then 1 else 4
  l.blocksFrom d step 0 ((List.range ((d.maxChannels + step - 1) / step)).map (· * step))

def pass (l : InputLayout) (b : InputBlock) : Nat := b.first / l.inExpandThresh

def start (l : InputLayout) (d : Device) (b : InputBlock) : Int :=
  let group := b.position % d.maxProcessors / d.groupSize
  let inst := b.position % d.groupSize / d.shared
  let pass := l.pass b
  d.dataBase + d.groupSpacing * group + d.instanceSize * 16 * inst + pass * 4 * l.operands
    + if pass = 0 then l.offset else 0

/-- Element of the input, `none` outside. -/
def element? (data : Tensor) (c row column : Nat) : Option Int :=
  if c < data.dim 0 ∧ row < data.dim 1 ∧ column < data.dim 2 then some (data.get3 c row column)
  else none

/-- The value of operand `op` of a pixel: the channels of the block in the byte lanes of their
processors, zero in all others. -/
def packedValue (l : InputLayout) (data : Tensor) (b : InputBlock) (row column op : Nat) : Option Int :=
  ((List.range 4).foldl (fun (acc : Option Int × Nat) i =>
    if b.lanes.testBit i then
      if acc.2 < data.dim 0 / l.operands then
        (do
          let v ← acc.1
          let x ← element? data (acc.2 + op * l.shape.channels) row column
          return Bits.or v (Bits.up (Bits.byte x) (i * 8)), acc.2 + 1)
      else (acc.1, acc.2 + 1)
    else acc) (some 0, b.first)).1

/-- The words of a block in the packed layout. The operands of a pixel follow each other, and those
of other passes lie between two pixels. -/
def packedWords (l : InputLayout) (d : Device) (data : Tensor) (b : InputBlock) : List InputWord :=
  let start := l.start d b
  (List.range l.shape.pixels).flatMap fun (n : Nat) =>
    (List.range l.operands).map fun (op : Nat) =>
      let row := n / l.shape.width
      let column := n % l.shape.width
      { address := start + 4 * (n * l.inExpand * l.operands + op), row, column,
        value := l.packedValue data b row column op }

def packedEnd (l : InputLayout) (d : Device) (b : InputBlock) : Int :=
  l.start d b + 4 * (l.shape.pixels * l.inExpand * l.operands)

def planarWords (l : InputLayout) (d : Device) (data : Tensor) (b : InputBlock) : List InputWord :=
  let start := l.start d b
  let pixels := l.shape.pixels
  (List.range ((pixels + 3) / 4)).map fun (i : Nat) =>
    let last := min (4 * i + 3) (pixels - 1)
    { address := Bits.roundDown4 (start + (min (4 * i + 3) pixels : Nat)), row := last / l.shape.width,
      column := last % l.shape.width,
      value := (List.range 4).foldlM (fun v k =>
        let n := 4 * i + k
        if n < pixels then
          (element? data b.first (n / l.shape.width) (n % l.shape.width)).map fun x =>
            Bits.or v (Bits.up (Bits.byte x) (k * 8))
        else some v) 0 }

end InputLayout

inductive ByteStep where
  | byte (offset value : Int)
  | flush
  | missing
deriving Repr, DecidableEq, Inhabited

namespace InputLayout

/-- Element in `row` of channel `c`; a negative row counts from the end. -/
def rowElement? (data : Tensor) (c : Nat) (row : Int) (column : Nat) : Option Int :=
  let row := if row < 0 then row + data.dim 1 else row
  if row < 0 then none else element? data c row.toNat column

def zeroBytes (offset : Int) (n : Nat) : List ByteStep :=
  (List.range n).map fun (i : Nat) => .byte (offset + i) 0

def rowBytes (l : InputLayout) (data : Tensor) (c : Nat) (first stop offset : Int) : List ByteStep :=
  (List.range (stop - first).toNat).flatMap fun (r : Nat) =>
    (List.range l.shape.width).map fun (x : Nat) =>
      match rowElement? data c (first + r) x with
      | some v => .byte (offset + r * l.shape.width + x) (Bits.unsigned v)
      | none => .missing

/-- Parts of a split channel from number `part` on. Two parts overlap by the padding, and every part
starts in a new memory instance. -/
def splitBytes (l : InputLayout) (d : Device) (data : Tensor) (c split : Nat) :
    Nat → Nat → Int → Int → List (List ByteStep) × Int
  | 0, _, _, offset => ([], offset)
  | fuel + 1, part, row, offset =>
    let chunk := l.shape.height / split
    let inner := part + 1 < split
    let overlap : Int := if inner then l.padding else 0
    let stop := (part + 1) * chunk + overlap
    let bytes := l.rowBytes data c row stop offset
    let offset := offset + bytes.length
    let row := max row stop - 2 * overlap
    let next := (offset + d.instanceSize - 1).fdiv d.instanceSize * d.instanceSize
    let (flush, offset) :=
      if inner then (if next ≠ offset then [ByteStep.flush] else [], next) else ([], offset)
    let (rest, offset) := l.splitBytes d data c split fuel (part + 1) row offset
    (bytes :: flush :: rest, offset)

def planarBytes (l : InputLayout) (d : Device) (data : Tensor) (b : InputBlock) (split : Nat) :
    List ByteStep × Int :=
  let start := l.start d b
  let pad := if split > 1 then l.padding * l.shape.width else 0
  let (parts, offset) := l.splitBytes d data b.first split split 0 0 (start + pad)
  (zeroBytes start pad ++ parts.flatten ++ zeroBytes offset pad, offset + pad)

end InputLayout

end CnnForge
