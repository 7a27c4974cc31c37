import CnnForge.Bits
import CnnForge.Device.Address
import CnnForge.Statistics

namespace CnnForge

structure BiasLayer where
  bias : Option (List Int) := none
  hasGroups : Bool := true
  allowedGroups : Option (List Int) := none
  outputChannels : Int := 0
  streaming : Bool := false
  groups : Int := 1
  broadcast : Bool := false
  processors : Nat := 0
  outputProcessors : Nat := 0
  outExpand : Nat := 1
  interleaved : Bool := false
deriving Repr, Inhabited

inductive BiasGroup where
  | none
  | all
  | one (group : Int)
deriving Repr, DecidableEq, Inhabited

structure BiasPlace where
  offsets : List (Option Int)
  group : BiasGroup := .none
deriving Repr, DecidableEq, Inhabited

def BiasPlace.single (d : Device) (group : Int) (offset : Nat) : BiasPlace :=
  { offsets := List.replicate d.groups (some (offset : Int)), group := .one group }

structure BiasWrite where
  layer : Nat
  group : Int
  offset : Nat
  value : Int
deriving Repr, DecidableEq, Inhabited

def BiasWrite.memory? (w : BiasWrite) (d : Device) : Option Nat := position? d.groups w.group

structure BiasRequest where
  layer : Nat
  groups : List Int
  length : Nat
  interleaved : Bool
deriving Repr, Inhabited

structure BiasPlan where
  tops : List Nat := []
  places : List BiasPlace := []
  writes : Array BiasWrite := #[]
  warnings : Array String := #[]
deriving Inhabited

def BiasPlan.top? (plan : BiasPlan) (group : Int) : Option Nat :=
  (position? plan.tops.length group).bind (plan.tops[·]?)

inductive BiasFailure where
  | mismatch (layer : Nat) (channels : Int) (values : Nat)
  | full (layer group top : Nat)
  /-- No memory has room for a request; `group` comes closest, with `top` bytes in use. -/
  | exhausted (request : BiasRequest) (tops : List Nat) (group : Int) (top : Nat)
  | failure (cause : Failure)
deriving Repr, Inhabited

abbrev BiasStep := EStateM BiasFailure BiasPlan

structure BiasSettings where
  device : Device
  quadLayer : Option Nat := none
  groupsUsed : List Int := []

namespace BiasStep

def warn (text : String) : BiasStep Unit :=
  modify fun s => { s with warnings := s.warnings.push text }

def top (group : Int) : BiasStep Nat := do
  match (← get).top? group with
  | some n => pure n
  | none => throw (.failure .index)

def setTop (group n : Nat) : BiasStep Unit :=
  modify fun s => { s with tops := s.tops.set group n }

def write (layer : Nat) (group : Int) (offset : Nat) (value : Int) : BiasStep Unit :=
  modify fun s => { s with writes := s.writes.push ⟨layer, group, offset, Bits.byte value⟩ }

def setPlace (layer : Nat) (p : BiasPlace) : BiasStep Unit :=
  modify fun s => { s with places := s.places.set layer p }

/-- Takes the next byte of a memory for `value`; without a value the byte stays as it is. -/
def addByte (d : Device) (layer group : Nat) (value : Option Int) : BiasStep Unit := do
  if group ≥ d.groupsAll then throw (.failure (.check ""))
  let n ← top group
  if n ≥ d.biasSize then throw (.full layer group n)
  if let some v := value then write layer group n v
  setTop group (n + 1)

def lift : Except Failure α → BiasStep α
  | .ok a => pure a
  | .error e => throw (.failure e)

end BiasStep

def roundUpQuad (n : Nat) : Nat := (n + 3) / 4 * 4

namespace BiasLayer

def hasBias (l : BiasLayer) : Bool :=
  match l.bias with
  | some b => l.hasGroups && b.any (· ≠ 0)
  | none => false

def lead (l : BiasLayer) (d : Device) : Nat :=
  ((Bits.lowest l.outputProcessors).fmod d.shared).toNat * l.outExpand

def needsGap (l : BiasLayer) (d : Device) (layer : Nat) : Bool :=
  layer = 0 && l.streaming && !d.features.streamBias

def values (l : BiasLayer) (d : Device) (layer : Nat) (bias : List Int) : List (Nat × Int) :=
  let gap := if l.needsGap d layer then 1 else 0
  List.replicate gap (0, 0) ++ bias.zipIdx.map fun x => (l.lead d + gap + x.2, x.1)

def request? (l : BiasLayer) (s : BiasSettings) (layer : Nat) : Option BiasRequest := do
  let bias ← l.bias
  if l.hasBias && l.groups = 1 && s.quadLayer ≠ some layer then
    let gap := if l.needsGap s.device layer then 1 else 0
    return { layer, groups := l.allowedGroups.getD s.groupsUsed,
             length := bias.length + l.lead s.device + gap, interleaved := l.interleaved }
  else none

def usesGroup (l : BiasLayer) (d : Device) (group : Nat) : Bool :=
  (l.processors >>> (group * d.groupSize)) % (1 <<< d.groupSize) ≠ 0

def packedMap (l : BiasLayer) (d : Device) : Nat :=
  if l.broadcast then l.processors
  else
    let start := (Bits.lowest l.processors).toNat
    let first := start / d.groupSize
    let mask := (1 <<< d.groupSize - 1) <<< (first * d.groupSize)
    let own := l.processors &&& mask
    (l.processors ^^^ own) ||| (own >>> (start % d.groupSize))

/-- The processor whose value is read in the place of `p`: a broadcast goes through the processors
of a group in the order of the four memories. -/
def source (l : BiasLayer) (p : Nat) : Nat :=
  if l.broadcast then p / 16 * 16 + p % 4 * 4 + p % 16 / 4 else p

def insertAt? (xs : List α) (i : Nat) (x : α) : Option (List α) :=
  if i ≤ xs.length then some (xs.take i ++ x :: xs.drop i) else none

def withGaps (map start last : Nat) (values : List (Option Int)) : Option (List (Option Int)) :=
  ((List.range (last - start)).map (start + ·)).foldlM (fun vs p =>
    if map.testBit p then some vs else insertAt? vs p none) values

def leftover (l : BiasLayer) (bias : List Int) : Nat :=
  (l.outExpand - bias.length % l.outExpand) % l.outExpand

def passes (l : BiasLayer) (bias : List Int) : List (List (Option Int)) :=
  let values := bias.map some ++ List.replicate (l.leftover bias) none
  let n := values.length / l.outExpand
  (List.range l.outExpand).map fun e => (values.drop (e * n)).take n

def start (l : BiasLayer) (d : Device) : Nat :=
  if l.broadcast || ((List.range d.groups).filter (l.usesGroup d)).length > 1 then 0
  else (Bits.lowest (l.packedMap d)).toNat

def last (l : BiasLayer) (d : Device) : Nat :=
  let top := (Bits.highest (l.packedMap d)).toNat
  max (l.source top) top

def turns (l : BiasLayer) (d : Device) (bias : List Int) (pass : Nat) : List Nat :=
  ((List.range (l.last d + 1 - l.start d)).map (l.start d + ·)).filter fun p =>
    pass + 1 < l.outExpand || p + l.leftover bias ≤ l.last d

def groupBytes (l : BiasLayer) (d : Device) (bias : List Int) :
    Except Failure (List (Nat × Option Int)) := do
  if l.groups = 1 then return bias.zipIdx.map fun x => (x.2 % 4, some x.1)
  if l.processors = 0 then throw .value
  if l.outExpand = 0 then throw .divisionByZero
  if (bias.length + l.leftover bias) / l.outExpand ≠ Bits.count l.processors then throw (.check "")
  let some rows := (l.passes bias).mapM (withGaps (l.packedMap d) (l.start d) (l.last d))
    | throw .index
  return rows.zipIdx.flatMap fun (row, pass) => (l.turns d bias pass).map fun p =>
    (p / d.groupSize, row.getD (l.source p - l.start d) none)

def groupOffsets (l : BiasLayer) (d : Device) : BiasStep (List (Option Int)) :=
  (List.range d.groups).mapM fun group => do
    if l.usesGroup d group then
      let n ← BiasStep.top group
      let n := if l.broadcast then roundUpQuad n else n
      BiasStep.setTop group n
      return some (n : Int)
    else return none

def placeByGroup (l : BiasLayer) (d : Device) (layer : Nat) (bias : List Int) : BiasStep Unit := do
  BiasStep.setPlace layer { offsets := ← l.groupOffsets d, group := .all }
  (← BiasStep.lift (l.groupBytes d bias)).forM fun x => BiasStep.addByte d layer x.1 x.2

end BiasLayer

namespace BiasRequest

def key (r : BiasRequest) (d : Device) : Int :=
  if r.groups.length = 1 then 0 else (d.biasSize : Int) - r.length

def align (r : BiasRequest) (top : Nat) : Nat := if r.interleaved then roundUpQuad top else top

def place (r : BiasRequest) (d : Device) : BiasStep Unit := do
  let tops := (← r.groups.mapM BiasStep.top).map r.align
  let some i := Bits.argMin (tops.map Int.ofNat) | throw (.failure .value)
  let group := r.groups.getD i 0
  let top := tops.getD i 0
  let own := (position? (← get).tops.length group).getD 0
  BiasStep.setTop own top
  if top + r.length > d.biasSize then throw (.exhausted r (← get).tops group top)
  BiasStep.setPlace r.layer (.single d group top)
  BiasStep.setTop own (top + r.length)

end BiasRequest

namespace BiasLayer

def prepare (l : BiasLayer) (s : BiasSettings) (layer : Nat) : BiasStep Unit := do
  let some bias := l.bias | return
  if !l.hasGroups then return
  if (bias.length : Int) ≠ l.outputChannels then
    throw (.mismatch layer l.outputChannels bias.length)
  if !bias.any (· ≠ 0) then
    BiasStep.warn s!"Layer {layer}: All bias values are zero. Ignoring the input."
    return
  if l.groups = 1 && s.quadLayer ≠ some layer then return
  l.placeByGroup s.device layer bias

def writeBlock (l : BiasLayer) (d : Device) (layer : Nat) (bias : List Int) : BiasStep Unit := do
  let place := (← get).places.getD layer default
  let .one group := place.group | throw (.failure .kind)
  let own := (position? d.groups group).getD 0
  let offset := ((place.offsets.getD own none).getD 0).toNat
  (l.values d layer bias).forM fun x => BiasStep.write layer group (offset + x.1) x.2

def writeValues (l : BiasLayer) (s : BiasSettings) (layer : Nat) : BiasStep Unit := do
  let some bias := l.bias | return
  if !l.hasBias || l.groups > 1 || s.quadLayer = some layer then return
  if l.streaming && !s.device.features.streamBias then
    BiasStep.warn (s!"Layer {layer} uses streaming and a bias. "
      ++ "THIS COMBINATION MIGHT NOT FUNCTION CORRECTLY!!!")
  l.writeBlock s.device layer bias

end BiasLayer

def numberedFrom (layers : List BiasLayer) (first : Nat) : List (BiasLayer × Nat) :=
  layers.zipIdx.drop first

def placeBias (s : BiasSettings) (layers : List BiasLayer) (first : Nat) : BiasStep Unit := do
  let d := s.device
  modify fun st => { st with
    tops := List.replicate d.groups 0,
    places := layers.map fun _ => { offsets := List.replicate d.groups none } }
  let numbered := numberedFrom layers first
  numbered.forM fun x => x.1.prepare s x.2
  let requests := numbered.filterMap fun x => x.1.request? s x.2
  (requests.mergeSort fun a b => a.key d ≤ b.key d).forM (·.place d)
  numbered.forM fun x => x.1.writeValues s x.2

end CnnForge
