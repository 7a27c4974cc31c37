import CnnForge.Bus.Access

namespace CnnForge.Bus

def checkOverwrite (offset : Int) : Run Unit := do
  let old ← Run.lift ((← get).bus.image.get (Bits.down offset 2))
  if old.isSome then
    Run.stopIf (!(← Run.options).noErrorStop) s!"Overwriting location {Text.hex 8 offset}"

def markWord (offset : Int) (mark : Mark) : Run Unit := do
  let key ← Run.orFail .index (position? (← get).bus.image.size (Bits.down offset 2))
  Run.modifyBus fun b =>
    { b with image := { b.image with words := b.image.words.insert key mark } }

def flushBytes (offset : Int) (comment : String := "") (fifo : Option Int := none) : Run Unit := do
  if let some (start, word) := (← get).bus.buffer.pending? then
    checkOverwrite start
    writeData start word { comment, fifo }
    markWord start .loaded
  Run.modifyBus fun b => { b with buffer := .restart offset }

def writeByte (offset value : Int) (comment : String := "") (fifo : Option Int := none) :
    Run Unit := do
  if offset ≠ (← get).bus.buffer.next then flushBytes offset
  Run.modifyBus fun b => { b with buffer := b.buffer.append value }
  if (← get).bus.buffer.count = 4 then flushBytes (offset + 1) comment fifo

def continueAt (offset : Int) : Run Unit :=
  Run.modifyBus fun b => { b with buffer := { b.buffer with next := offset } }

end CnnForge.Bus
