import CnnForge.DataMemory.Layout

namespace CnnForge

structure OutputLayout where
  processors : Nat
  shape : DataShape
  offset : Int := 0
  outExpand : Nat := 1
  outExpandThresh : Nat := 64
  bits : Nat := 8
deriving Repr, Inhabited

structure OutputBlock where
  processor : Nat
  pass : Nat
  first : Nat
  lanes : Nat
deriving Repr, DecidableEq, Inhabited

namespace OutputBlock

def count (b : OutputBlock) : Nat := Bits.count b.lanes

def usedLanes (b : OutputBlock) : List Nat := (List.range 4).filter b.lanes.testBit

end OutputBlock

namespace OutputLayout

def size (l : OutputLayout) : Nat := l.bits / 8

def width (l : OutputLayout) : Nat := l.outExpand * l.size

def firstProcessor (l : OutputLayout) (d : Device) : Nat :=
  let p := (Bits.lowest l.processors).toNat
  p / d.shared * d.shared

def firstMap (l : OutputLayout) (d : Device) : Nat := l.processors >>> l.firstProcessor d

def blockAt (l : OutputLayout) (d : Device) (c processor map : Nat) : OutputBlock :=
  ⟨processor / d.shared * d.shared, c / l.outExpandThresh, c, map % 16⟩

/-- The blocks from channel `c` on, if `map` are the processors that are left in the pass and
`processor` is the first of them. `none` if channels are left but no processors. -/
def blocksFrom (l : OutputLayout) (d : Device) (c processor map : Nat) : Option (List OutputBlock) :=
  if c < l.shape.channels then
    if c % l.outExpandThresh = 0 then
      let b := l.blockAt d c (l.firstProcessor d) (l.firstMap d)
      if b.count = 0 then none
      else (l.blocksFrom d (c + b.count) (l.firstProcessor d + 4) (l.firstMap d / 16)).map (b :: ·)
    else if map = 0 then none
    else
      let b := l.blockAt d c processor map
      (l.blocksFrom d (c + b.count) (processor + 4) (map / 16)).map (b :: ·)
  else some []
termination_by (l.shape.channels - c, map)
decreasing_by
  · apply Prod.Lex.left
    change l.shape.channels - (c + b.count) < l.shape.channels - c
    omega
  · by_cases h : b.count = 0
    · rw [h]
      apply Prod.Lex.right
      omega
    · apply Prod.Lex.left
      change l.shape.channels - (c + b.count) < l.shape.channels - c
      omega

def blocks (l : OutputLayout) (d : Device) : Except Failure (List OutputBlock) :=
  if l.processors = 0 then .error .value
  else if l.outExpandThresh = 0 ∧ l.shape.channels > 0 then .error .divisionByZero
  else
    match l.blocksFrom d 0 (l.firstProcessor d) (l.firstMap d) with
    | some bs => .ok bs
    | none => .error .endless

def blockWord (d : Device) (b : OutputBlock) : Int :=
  (b.processor % d.groupSize * d.instanceSize ||| b.processor / d.groupSize * d.groupSpacing / 4 : Nat)

def address (l : OutputLayout) (d : Device) (b : OutputBlock) (n : Nat) (gap : Int := 0) : Int :=
  l.offset + (blockWord d b + (n * l.width + b.pass * l.size) * (gap + 1)) * 4

end OutputLayout

structure OutputRead where
  address : Int
  lane : Nat
deriving Repr, DecidableEq, Inhabited

namespace OutputLayout

def pixelReads (l : OutputLayout) (d : Device) (b : OutputBlock) (n : Nat) : List OutputRead :=
  let start := l.address d b n
  if l.size = 4 then
    b.usedLanes.zipIdx.map fun ((_, i) : Nat × Nat) => ⟨start + 4 * i, 0⟩
  else b.usedLanes.map fun lane => ⟨start, lane⟩

def reads (l : OutputLayout) (d : Device) (bs : List OutputBlock) : List OutputRead :=
  bs.flatMap fun b => (List.range l.shape.pixels).flatMap (l.pixelReads d b)

end OutputLayout

end CnnForge
