import CnnForge.Network.Layer
import CnnForge.Report

namespace CnnForge

structure SequenceSettings where
  start : Nat := 0
  stopAfter : Option Int := none
  linkLayer : Bool := false
  inputChannels : Int := 0

structure SequenceState where
  layers : Array Layer
  current : Int
  previous : Int := -1
  first : Int
  last : Int
  final : Option Int := none

namespace SequenceState

def joinedChannels (layers : Array Layer) (l : Layer) (sources : List Int) : Checked Int := do
  let channels (i : Int) : Checked Int := do
    return (← Checked.lift (elementAt layers i)).outputChannels
  if l.elementwise == .none then
    let counts ← sources.mapM channels
    return counts.foldl (· + ·) 0
  else
    match sources with
    | [] => Checked.fail .index
    | s :: rest =>
      let n ← channels s
      rest.forM fun i => do Checked.require ((← channels i) == n)
      return n

def fillChannels (s : SequenceSettings) (st : SequenceState) (i : Int) (l : Layer) : Checked Layer := do
  let l ← match l.inSequences with
    | some sources => pure { l with inputChannels := ← joinedChannels st.layers l sources }
    | none => pure l
  let l ←
    if l.inputChannels ≤ 0 then
      if i = 0 then
        let first ← Checked.lift (elementAt st.layers 0)
        if first.operands = 0 then Checked.fail .divisionByZero
        pure { l with inputChannels := s.inputChannels.fdiv first.operands }
      else
        let previous ← Checked.lift (elementAt st.layers st.previous)
        pure { l with inputChannels := previous.outputChannels }
    else pure l
  let l := { l with inputChannels := l.givenInputChannels.getD l.inputChannels }
  let l := if l.outputChannels ≤ 0 then { l with outputChannels := l.inputChannels } else l
  return { l with outputChannels := l.givenOutputChannels.getD l.outputChannels }

def fillProcessors (layers : Array Layer) (l : Layer) : Checked Layer := do
  if l.outputProcessors.isNone && l.next != -1 && l.next < layers.size then
    let next ← Checked.lift (elementAt layers l.next)
    return { l with outputProcessors := some next.processors }
  else return l

def visit (s : SequenceSettings) (st : SequenceState) : Checked (SequenceState × Bool) := do
  let i := st.current
  let l ← Checked.lift (elementAt st.layers i)
  let l ← fillChannels s st i l
  let l ← fillProcessors st.layers l
  let l := if s.stopAfter = some i then { l with next := -1 } else l
  let l := { l with previous := st.previous }
  let l ←
    if l.next != -1 && l.next != i + 1 && !s.linkLayer then
      Checked.stop s!"Layer {i}: `next_sequence` is not supported on this device."
    else if l.next > (st.layers.size : Int) then do
      Checked.warn s!"Layer {i}: `next_sequence` exceeds available layers, setting to `stop`."
      pure { l with next := -1 }
    else pure l
  let st : SequenceState := { st with
    layers := ← Checked.lift (modifyAt st.layers i fun _ => l)
    previous := i
    first := min i st.first
    last := max i st.last }
  if l.next = -1 then return ({ st with final := some i }, false)
  else return ({ st with current := l.next }, true)

/-- Visits up to `n` layers in their order. The flag tells whether there is another one to visit. -/
def follow (s : SequenceSettings) : Nat → SequenceState → Checked (SequenceState × Bool)
  | 0, st => return (st, st.current < st.layers.size)
  | n + 1, st => do
    if st.current < st.layers.size then
      let (st, more) ← visit s st
      if more then follow s n st else return (st, false)
    else return (st, false)

end SequenceState

def defaultNext (layers : Array Layer) : Array Layer :=
  layers.mapIdx fun i l =>
    if l.nextGiven then l
    else { l with next := if i + 1 < layers.size then (i : Int) + 1 else -1 }

def SequenceState.ofLayers (s : SequenceSettings) (layers : Array Layer) : SequenceState :=
  { layers := defaultNext layers, current := s.start, first := s.start, last := s.start }

/-- Visits the layers in their order. More of them than there are, counted from both ends, mean that the
order repeats itself. -/
def traceSequence (s : SequenceSettings) (layers : Array Layer) : Checked SequenceState := do
  if layers.isEmpty then Checked.fail .index
  let (st, more) ← (SequenceState.ofLayers s layers).follow s (2 * layers.size + 2)
  if more then Checked.fail .endless
  return st

end CnnForge
