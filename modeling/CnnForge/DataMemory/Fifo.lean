import CnnForge.DataMemory.Layout

namespace CnnForge

structure FifoWord where
  fifo : Nat
  index : Nat
  value : Option Int
deriving Repr, DecidableEq, Inhabited

namespace InputLayout

/-- Moves `map` on to the next group that uses one of its first processors, in `mask`. `fuel` bounds
the number of groups. -/
def nextFifo (mask : Nat) : Nat → Nat → Nat → Option (Nat × Nat)
  | 0, _, _ => none
  | fuel + 1, map, fifo =>
    if map &&& mask ≠ 0 then some (map, fifo)
    else if map = 0 then none
    else nextFifo mask fuel (map >>> 16) (fifo + 1)

/-- The FIFOs that take the next `n` words of a pixel, each with the processors from its first one
on. `none` if no group can take a word. -/
def fifoTargets (l : InputLayout) (mask : Nat) : Nat → Nat → Nat → Option (List (Nat × Nat))
  | 0, _, _ => some []
  | n + 1, map, fifo => do
    let (map, fifo) := if map = 0 then (l.processors, 0) else (map, fifo)
    let (map, fifo) ← nextFifo mask (map.log2 / 16 + 2) map fifo
    let rest ← l.fifoTargets mask n (map >>> 16) (fifo + 1)
    return (fifo, map) :: rest

def packedFifoWords (l : InputLayout) (data : Tensor) : Option (List FifoWord) := do
  let words := (l.shape.channels + 3) / 4
  let targets ← if l.shape.pixels = 0 then some [] else l.fifoTargets 0xf words 0 0
  return (List.range l.shape.pixels).flatMap fun n =>
    targets.zipIdx.map fun ((fifo, map), i) =>
      { fifo, index := n,
        value := (List.range 4).foldlM (fun v b =>
          let c := 4 * i + b
          if map.testBit b ∧ c < l.shape.channels then
            (element? data c (n / l.shape.width) (n % l.shape.width)).map fun x =>
              Bits.or v (Bits.up (Bits.byte x) (b * 8))
          else some v) 0 }

def planarFifoWords (l : InputLayout) (data : Tensor) : Option (List FifoWord) := do
  let pixels := l.shape.pixels
  let targets ← if pixels = 0 then some [] else l.fifoTargets 1 l.shape.channels 0 0
  return (List.range ((pixels + 3) / 4)).flatMap fun k =>
    targets.zipIdx.map fun ((fifo, _), c) =>
      { fifo, index := k,
        value := (List.range 4).foldlM (fun v b =>
          let n := 4 * k + b
          if n < pixels then
            (element? data c (n / l.shape.width) (n % l.shape.width)).map fun x =>
              Bits.or v (Bits.up (Bits.byte x) (b * 8))
          else some v) 0 }

def fifoCount (l : InputLayout) : Nat :=
  if l.planar then l.shape.channels else (l.shape.channels + 3) / 4

def fifoLength (l : InputLayout) : Nat :=
  if l.planar then (l.shape.pixels + 3) / 4 else l.shape.pixels

end InputLayout

end CnnForge
