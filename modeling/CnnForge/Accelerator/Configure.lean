import CnnForge.Accelerator.Streaming

namespace CnnForge.Accelerator

attribute [local instance (2000)] instPowNat

open RegisterPlan

namespace LayerContext

variable (c : LayerContext)

def put (number register : Nat) (value : Int) (comment : String) : RegisterPlan Unit :=
  step (.layer c.group number register value comment false)

def putChecked (number register : Nat) (value : Except Failure Int) (comment : String) :
    RegisterPlan Unit := do
  c.put number register (← lift value) comment

def following : RegisterPlan (Option Int × Int) := do
  let l := c.layer
  let jump (n : Int) : Int := wordOf [flag true 7, ⟨n, 0⟩]
  if c.options.linkLayer then
    return (none, if c.index = c.plan.final then wordOf [flag true 8] else jump (c.index + 1))
  let next := l.next
  if next = -1 then
    return (none, wordOf [flag (c.index + 1 != c.plan.layers.size) 8])
  if next != (c.index : Int) + 1 then return (some next, jump next)
  match l.snoopNext with
  | some s =>
    RegisterPlan.require (s ≥ 0)
    return (some s, jump s)
  | none => return (some next, 0)

def checkFollowing (next : Int) : RegisterPlan Unit := do
  let l := c.layer
  let i := c.index
  let all := (c.plan.layers.map (·.toLayer)) ++ c.plan.spare
  let some sources := (← lift (elementAt all next)).inSequences | return
  if !sources.contains (i : Int) then return
  let n ← lift (elementAt c.plan.layers next)
  if n.operands != 1 then return
  if n.inputOffset != some l.outputOffset then
    let offset ← match n.inputOffset with
      | some k => pure k
      | none => fail .kind
    warn (s!"Layer {i}: The input offset of the next sequence (layer {next}, 0x{Text.hex 4 offset}) "
      ++ s!"does not match the current layer's output offset (0x{Text.hex 4 l.outputOffset}).")
  if n.inputChannels != l.outputChannels * sources.length
      || n.inputDim != l.outputDim.map Pair.toList then
    warn (s!"Layer {i}: The input dimensions of the next sequence (layer {next}, {sources.length} "
      ++ s!"inputs, {n.inputChannels}x{n.inputText}) do not match the current layer's output dimensions "
      ++ s!"({l.outputChannels}x{l.outputText}).")

def configureData (number : Nat) : RegisterPlan Unit := do
  let d := c.device
  let l := c.layer
  let r := d.layerReg
  if let some register := r.nextLayer then
    let (next, word) ← c.following
    if let some n := next then c.checkFollowing n
    c.put number register word " // Next Layer"
  c.putChecked number r.rows c.rows " // Rows"
  c.putChecked number r.columns c.columns " // Columns"
  c.putChecked number r.poolRows (c.poolCount l.pool.row l.poolDilation.row) " // Pooling rows"
  c.putChecked number r.poolColumns (c.poolCount l.pool.column l.poolDilation.column)
    " // Pooling columns"
  c.putChecked number r.stride c.stride " // Stride"
  c.putChecked number r.writeBase c.writeBase " // SRAM write ptr"
  c.putChecked number r.writeSlot c.writeSlot " // Write ptr time slot offs"
  if !l.isPassthrough then
    c.put number r.writeMask (2 ^ d.writePointerShift) " // Write ptr mask offs"
  c.put number r.writeChannel c.writeChannel " // Write ptr multi-pass channel offs"
  c.put number r.readBase (l.inOffset.fdiv 4) " // SRAM read ptr"

def configureOperation (number : Nat) : RegisterPlan Unit := do
  let r := c.device.layerReg
  c.putChecked number r.control c.control " // Layer control"
  c.putChecked number r.control2 c.control2 " // Layer control 2"
  let masks ← lift c.masks
  for (register, value, comment) in ← lift (c.maskRegisters masks) do
    c.put number register value comment
  if let some register := r.outChannels then
    c.put number register c.outputChannels " // Output channel count"
  c.putChecked number r.oneD (c.oneD masks) " // 1D"
  c.putChecked number r.tram c.tram " // TRAM ptr max"
  c.putChecked number r.post c.post " // Post processing register"
  c.put number r.enable c.enables " // Mask and processor enables"

def checkRollover (words : Int) : RegisterPlan Unit := do
  let l := c.layer
  let i := c.index
  let fatal := !c.options.noErrorStop
  let input := l.inOffset
  let output := l.outputOffset
  let inText := Text.hex 8 input
  let outText := Text.hex 8 output
  let wordText := Text.hex 8 words
  if input < output then
    if input + words * 4 ≥ output then
      report fatal (s!"Layer {i}: Overlapping input and output: in_offset 0x{inText} + rollover "
        ++ s!"0x{wordText} * 4 >= out_offset 0x{outText}.")
  else
    if output + words * 4 ≥ input then
      report fatal (s!"Layer {i}: Overlapping input and output: out_offset 0x{outText} + rollover "
        ++ s!"0x{wordText} * 4 >= in_offset 0x{inText}.")
    if i = c.plan.terminating then
      let size := l.outputSize.product
      if output + size * l.outExpand * 4 ≥ input then
        report fatal (s!"Layer {i}: Overlapping input and output: out_offset 0x{outText} + output "
          ++ s!"of size {size} ({l.outputText}) * {l.outExpand} * 4 >= in_offset 0x{inText}.")
  let width : Int := c.device.instanceWidth
  if input + words * 4 ≥ width * c.device.shared * 4 then
    report fatal (s!"Input plus rollover exceeds instance size: in_offset 0x{inText}, out_offset "
      ++ s!"0x{outText}, rollover 0x{wordText}, instance size 0x{Text.hex 8 (width * 4)}.")

def bufferOf (words : Int) : StreamBuffer :=
  let l := c.layer
  { first := l.inOffset
    last := l.inOffset + words * 4
    memories := c.device.dataMemories l.processors (c.options.fastFifoQuad && c.index = 0) }

def rangeText (b : StreamBuffer) : String := s!"{Text.hex 4 b.first}-{Text.hex 4 b.last}"

def checkBuffer (b : StreamBuffer) (earlier : List (Option StreamBuffer)) : RegisterPlan Unit := do
  let i := c.index
  let map (k : Nat) : String := Text.hex 16 (c.plan.layer k).processors
  for (other, k) in earlier.zipIdx do
    if let some e := other then
      if e.memories &&& b.memories != 0 && Bits.overlap (b.first, b.last) (e.first, e.last) then
        let own := map i
        let others := map k
        report (!c.options.overwriteOk)
          (s!"Streaming buffer for layer {i} ({rangeText b}, processors {own}) overlaps layer {k} "
            ++ s!"({rangeText e},  processors {others}).")
      let memory := c.device.instanceOfOffset e.first
      if c.layer.readAhead && c.device.instanceOfOffset b.first == memory then
        stop (s!"Layer {i}: In streaming mode with read-ahead, all streaming read-ahead layers must "
          ++ s!"use separate memory instances. Layer {i} conflicts with layer {k}; both use instance "
          ++ s!"{memory}.")

def checkStreamOutput (b : StreamBuffer) (buffers : List (Option StreamBuffer)) :
    RegisterPlan Unit := do
  let l := c.layer
  let i := c.index
  let memories := c.device.dataMemories l.outMap false
  let last := l.outputOffset + (l.outputSize.product * l.outputWidth).fdiv 8
  for (other, k) in buffers.zipIdx do
    if let some e := other then
      if e.memories &&& memories != 0
          && Bits.overlap (l.outputOffset, last) (e.first, e.last) then
        let map := Text.hex 16 (c.plan.layer k).processors
        report (!c.options.overwriteOk)
          (s!"Output for layer {i} ({Text.hex 4 l.outputOffset}-{Text.hex 4 b.last}, output "
            ++ s!"processors {Text.hex 16 l.outMap}) overlaps streaming buffer for layer {k} "
            ++ s!"({rangeText e}, processors {map}).")

def configureStream (number : Nat) : RegisterPlan Unit := do
  let d := c.device
  let l := c.layer
  let i := c.index
  let s ← lift c.streamCounts
  let invol := c.invol
  RegisterPlan.require (s.start < 2 ^ d.fields.streamStartBits)
  c.put number d.layerReg.stream1
    (wordOf [⟨s.start, 0⟩, flag (c.options.fifoGo && i = c.plan.start) 25])
    " // Stream processing start"
  RegisterPlan.require (invol < 2 ^ 4)
    s!"Layer {i} invol ({Text.hex 4 invol}) exceeds supported range."
  RegisterPlan.require (s.delta1 < 2 ^ 5)
  RegisterPlan.require (s.delta2 < 2 ^ d.fields.streamDeltaBits)
  c.put number d.layerReg.stream2 (wordOf [⟨s.delta2, 16⟩, ⟨s.delta1, 4⟩, ⟨invol, 0⟩])
    " // Stream processing delta"
  if c.options.fifo && l.streaming then
    let words ← lift (c.rollover s)
    RegisterPlan.require (words < 2 ^ d.fields.rolloverBits)
    c.checkRollover words
    let b := c.bufferOf words
    let earlier := (← get).buffers.toList.take i
    let earlier := earlier ++ List.replicate (i - earlier.length) none
    modify fun st => { st with buffers := (earlier ++ [some b]).toArray ++ st.buffers.extract (i + 1) }
    c.checkBuffer b earlier
    if ← lift c.endsStream then c.checkStreamOutput b (earlier ++ [some b])
    c.put number d.layerReg.rollover words " // Rollover"

def instancesText (a b : Int) : String := Text.parenthesized [toString a, toString b]

def checkReadAhead : RegisterPlan Unit := do
  let d := c.device
  let l := c.layer
  if l.readAhead then
    let inFirst := d.instanceOfOffset l.inOffset
    let inLast := d.instanceOfOffset
      (l.inOffset + 4 * l.operands * l.inExpand * l.inputSize.product)
    let outFirst := d.instanceOfOffset l.outputOffset
    let outLast := d.instanceOfOffset (l.outputOffset + 4 * l.outExpand * l.outputSize.product)
    if inFirst = outFirst || inLast = outLast then
      let ins := instancesText inFirst inLast
      let outs := instancesText outFirst outLast
      stop (s!"Layer {c.index}: Input and output cannot use the same data memory instances in "
        ++ s!"read-ahead mode. in_offset: {Text.hex 4 l.inOffset}/instance(s) {ins}, out_offset: "
        ++ s!"{Text.hex 4 l.outputOffset}/instance(s) {outs}.")

def configure (number : Nat) : RegisterPlan Unit := do
  step (.text s!"  // Layer {number} group {c.group}\n")
  c.configureData number
  c.configureOperation number
  c.configureStream number
  c.checkReadAhead
  if c.index = c.plan.start && c.options.fifo then
    let frame := c.unit c.layer.inputSize.product
    RegisterPlan.require (frame < 2 ^ c.device.fields.frameBits)
    step (.control c.group c.device.controlReg.frame frame " // Input frame size")
  step (.text "\n")

end LayerContext

def configureLayers (d : Device) (o : Options) (p : Plan) (m : Placement) : RegisterPlan Unit := do
  for (number, i) in p.repetitions o.repeatLayers do
    let layer := p.layer i
    let c : LayerContext :=
      { device := d, options := o, plan := p, index := i, layer, group := 0,
        kernels := m.kernels.getD i default, bias := m.bias.places.getD i default,
        localOutput := usesLocalOutput d p layer, lastSlot := lastSlot d p layer }
    for group in p.groupsUsed do
      LayerContext.configure { c with group := group } number

def stepped (first last step : Nat) : List Nat :=
  (List.range ((last - first + step - 1) / step)).map fun k => first + k * step

def clearLayers (p : Plan) (k : Nat) (layers registers : List Nat) : RegisterPlan Unit := do
  for i in layers do
    for group in p.groupsUsed do
      for register in registers do
        step (.layer group (k * p.layers.size + i) register 0 s!" // Zero unused layer {i} registers" true)

def packedRegisters (d : Device) : List Nat :=
  match d.layerReg.firstStream, d.layerReg.lastStream with
  | some first, some last => stepped first (last + 1) d.maxStreamLayers
  | _, _ => []

def clearUnused (d : Device) (o : Options) (p : Plan) : RegisterPlan Unit := do
  for k in List.range o.repeatLayers do
    clearLayers p k (stepped p.first p.layers.size d.maxLayers) (List.range (d.layerReg.last + 1))
    clearLayers p k (stepped p.first p.layers.size d.maxStreamLayers) (packedRegisters d)

def snoopComments : List String :=
  ["1", "2"].flatMap fun n =>
    ["Address snoop " ++ n ++ " register 1", "Address snoop " ++ n ++ " register 2",
     "Data snoop " ++ n ++ " register 1", "Data snoop " ++ n ++ " register 2",
     "Count snoop " ++ n ++ " register 1", "Count snoop " ++ n ++ " register 2",
     "Snoop " ++ n ++ " control register 1", "Snoop " ++ n ++ " control register 2",
     "Snoop " ++ n ++ " data accumulator", "Snoop " ++ n ++ " match hit accumulator",
     "Snoop " ++ n ++ " match max accumulator", "Snoop " ++ n ++ " match address register"]

def configureSnoop (d : Device) (p : Plan) : RegisterPlan Unit := do
  let some values := p.snoop | return
  step (.text "  // Configure conditional execution\n")
  for group in p.groupsUsed do
    RegisterPlan.require (values.length = 32)
    let some first := d.controlReg.snoop | fail .property
    for ((value, comment), k) in (values.zip snoopComments).zipIdx do
      step (.control group (first + k) value s!" // {comment}")
    step (.text "\n")

def configuration (d : Device) (o : Options) (p : Plan) (m : Placement) : RegisterPlan Unit := do
  configureLayers d o p m
  if o.zeroUnused then clearUnused d o p
  configureSnoop d p

end CnnForge.Accelerator
