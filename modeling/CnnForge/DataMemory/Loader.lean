import CnnForge.Bus.ByteStream
import CnnForge.Bus.ProgramText
import CnnForge.DataMemory.Camera
import CnnForge.DataMemory.Fifo

namespace CnnForge.DataMemory

structure InputCopy where
  address : Int
  array : Nat
  words : Nat
deriving Repr, Inhabited

structure PassBuffer where
  words : List Int
  address : Int
  first : Nat
  last : Nat
deriving Repr, Inhabited

/-- Puts `words` at every `n`-th place of `a` from `i` on; a single word fills all of these places. -/
def putEvery (a : Array Int) (words : List Int) (n i : Nat) : Except Failure (Array Int) :=
  let put (word : Nat → Int) := a.mapIdx fun x v => if i ≤ x ∧ (x - i) % n = 0 then word ((x - i) / n) else v
  if words.length = (a.size - i + n - 1) / n then .ok (put (words.getD · 0))
  else
    match words with
    | [w] => .ok (put fun _ => w)
    | _ => .error .value

def mergePasses (passes : List (List Int)) (n size : Nat) : Except Failure (List Int) := do
  let a ← passes.zipIdx.foldlM (fun a (words, i) => putEvery a words n i) (Array.replicate size 0)
  return a.toList

/-- The first `n` elements; a negative `n` counts from the end. -/
def takeSigned (n : Int) (xs : List Int) : List Int :=
  if n < 0 then xs.take (xs.length - n.natAbs) else xs.take n.toNat

def storedWords (o : Options) (words : List Int) : List Int :=
  if o.synthesizeInput.isSome then takeSigned o.synthesizeWords words else words

def defineInput (o : Options) (n : Nat) (words : List Int) : Run Unit := do
  if !o.fixedInput then
    Bus.defineArray (storedWords o words) s!"SAMPLE_INPUT_{n}" "0x%08x" 8 false
  if o.riscvFlash then Bus.output CSource.flashAttribute
  if !o.fixedInput then
    Bus.output s!"static const uint32_t input_{n}[] = SAMPLE_INPUT_{n};\n\n"

def openLoadInput : Run Unit := do
  Bus.functionHeader { lead := "", function := "load_input", returnType := "void" } false
  Bus.output "  // This function loads the sample data input -- replace with actual data\n\n"

def claimWord (channel : Int) (w : InputWord) : Run Int := do
  let v ← Run.orFail .index w.value
  Bus.checkOverwrite w.address
  Bus.markWord w.address (.output (-1) channel w.row w.column v)
  return v

def writeBytes (steps : List ByteStep) : Run Unit := do
  for s in steps do
    match s with
    | .byte offset value => Bus.writeByte offset value
    | .flush => Bus.flushBytes 0
    | .missing => throw .index

structure Loading where
  last : Option Int := none
  copies : Array InputCopy := #[]
  waiting : List (Nat × PassBuffer) := []
deriving Inhabited

def loadPlanar (embedded : Bool) (l : InputLayout) (data : Tensor) (b : InputBlock) (s : Loading) :
    Run Loading := do
  let o ← Run.options
  let d ← Run.device
  Run.check (o.split > 0)
  Run.check (l.operands = 1)
  if embedded && l.inExpand > 1 then
    Run.stop "--compact-data does not currently support multi-pass CHW input"
  let size := s!"{l.shape.height}x{l.shape.width}"
  if embedded && o.split = 1 then
    Bus.output s!"// CHW {size}, channel {b.first}\n"
    let words ← (l.planarWords d data b).mapM fun w => claimWord b.first w
    defineInput o b.position words
    let last := l.start d b + l.shape.pixels
    Bus.continueAt last
    return { s with last, copies := s.copies.push ⟨l.start d b, b.position, words.length⟩ }
  else
    if embedded then openLoadInput
    Bus.output s!"  // CHW {size}, channel {b.first}\n"
    let (steps, last) := l.planarBytes d data b o.split.toNat
    writeBytes steps
    return { s with last }

def loadPacked (embedded : Bool) (l : InputLayout) (data : Tensor) (b : InputBlock) (s : Loading) :
    Run Loading := do
  let o ← Run.options
  let d ← Run.device
  let size := s!"{l.shape.height}x{l.shape.width}"
  let describe (first last : Nat) : String := s!"// HWC {size}, channels {first} to {last}\n"
  let lastChannel := b.first + b.count - 1
  if !embedded then Bus.output ("  " ++ describe b.first lastChannel)
  let words ← (l.packedWords d data b).mapM fun w => do
    let v ← claimWord (b.first + b.count) w
    if !embedded then Bus.writeData w.address v
    Bus.continueAt w.address
    return v
  let s := { s with last := l.packedEnd d b }
  if !embedded then return s
  let p := b.position % d.maxProcessors
  let s := { s with waiting := s.waiting ++ [(p, ⟨words, l.start d b, b.first, lastChannel⟩)] }
  let pass := l.pass b
  if pass + 1 ≠ l.inExpand then return s
  let own := (s.waiting.filter (·.1 = p)).map (·.2)
  for x in own do
    Bus.output (describe x.first x.last)
  let all ← Run.lift
    (mergePasses (own.map (·.words)) l.inExpand ((pass + 1) * l.operands * l.shape.pixels))
  defineInput o p all
  let address := (own.head?.map (·.address)).getD 0
  return { s with copies := s.copies.push ⟨address, p, words.length * l.inExpand⟩ }

def loadBlock (embedded : Bool) (l : InputLayout) (data : Tensor) (s : Loading) (b : InputBlock) :
    Run Loading := do
  let d ← Run.device
  if l.inExpandThresh = 0 then throw .divisionByZero
  let start := l.start d b
  if s.last = some start then
    Run.stop ("Layer 0 processor map is misconfigured for data input. There is data overlap between "
      ++ s!"processors {(b.position : Int) - 1} and {b.position}")
  if (← Run.options).debug then
    Run.putLine s!"G{b.position % d.maxProcessors / d.groupSize} L0 data_offs:      {Text.hex 8 start}"
  let s ← if l.planar then loadPlanar embedded l data b s else loadPacked embedded l data b s
  Bus.flushBytes 0
  return s

def copyInputs (o : Options) (copies : Array InputCopy) : Run Unit := do
  if !copies.isEmpty then
    if o.fixedInput then
      Bus.functionHeader { lead := "", function := "memcpy32_const", returnType := "void",
                           arguments := "uint32_t *dst, int n" }
      Bus.output ("  while (n > 0) \x7b\n    *dst++ = 0x55555555;\n    *dst++ = 0xaaaaaaaa;\n"
        ++ "    n -= 2;\n  \x7d\n") true
      Bus.functionFooter "void"
    openLoadInput
    for c in copies do
      let target := Text.hex 8 (o.apbBase + c.address)
      if o.fixedInput then Bus.output s!"  memcpy32_const((uint32_t *) 0x{target}, {c.words});\n"
      else Bus.output s!"  memcpy32((uint32_t *) 0x{target}, input_{c.array}, {c.words});\n"
  Bus.functionFooter "void" false

def announce (n : DataShape) : Run Unit := do
  Bus.output s!"// {n.channels}-channel {n.height}x{n.width} data input ({n.bytes} bytes"
  if n.channels > 1 then Bus.output s!" total / {n.pixels} bytes per channel):\n"
  else Bus.output s!" / {(n.bytes + 3) / 4} 32-bit words):\n"

def loadBlocks (embedded : Bool) (d : Device) (o : Options) (l : InputLayout) (data : Tensor) : Run Unit := do
  if l.shape.channels = 0 then throw .divisionByZero
  Run.check (l.operands = data.dim 0 / l.shape.channels)
  let s ← (l.blocks d).foldlM (loadBlock embedded l data) {}
  if embedded then copyInputs o s.copies else Bus.output "  // End of data input\n\n"

def loadMemory (embedded : Bool) (l : InputLayout) (data : Tensor) : Run Unit := do
  let d ← Run.device
  let o ← Run.options
  if !embedded then Bus.output "\n\n  "
  announce l.shape
  loadBlocks embedded d o l data

def synthesizedMask : Nat → String
  | 1 => "0xff"
  | 2 => "0xffff"
  | 3 => "0xffffff"
  | _ => ""

def sendArrays (o : Options) (l : InputLayout) : Run Unit := do
  let fifos := List.range l.fifoCount
  openLoadInput
  Bus.output "  int i;\n"
  let mask := synthesizedMask l.shape.channels
  if o.synthesizeInput.isSome then Bus.output "  uint32_t add = 0;\n"
  for c in fifos do
    Bus.output s!"  const uint32_t *in{c} = input_{c};\n"
  let length := if fifos.isEmpty then 0 else l.fifoLength
  Bus.output s!"\n  for (i = 0; i < {length}; i++) \x7b\n"
  for c in fifos do
    let value :=
      if o.synthesizeInput.isNone then s!"*in{c}++"
      else if mask = "" then s!"*in{c}++ + add"
      else s!"(*in{c}++ + add) & {mask}"
    Bus.write 0 (.expression value)
      { fifo := some c, comment := s!" // Write FIFO {c}", indent := "    " }
  if let some add := o.synthesizeInput then
    Bus.output s!"    if (i % {o.synthesizeWords} == {o.synthesizeWords - 1}) \x7b\n"
    Bus.output s!"      add += 0x{Text.hex 0 add};\n    "
    if mask ≠ "" then Bus.output s!"  add &= {mask};\n    "
    for c in fifos do
      Bus.output s!"  in{c} = input_{c};\n"
    Bus.output "    \x7d\n"
  Bus.output "  \x7d\n"
  Bus.functionFooter "void" false

def loadFifos (embedded : Bool) (l : InputLayout) (data : Tensor) : Run Unit := do
  Run.check (l.operands = 1)
  let o ← Run.options
  if !embedded then Bus.output "\n\n  "
  let n := l.shape
  let name := if l.planar then "CHW" else "HWC"
  Bus.output s!"// Data input: {name} {n.channels}x{n.height}x{n.width} ({n.bytes} bytes"
  if n.channels > 1 then Bus.output s!" total / {n.pixels} bytes per channel"
  Bus.output "):\n"
  let words ← Run.orFail .endless (if l.planar then l.planarFifoWords data else l.packedFifoWords data)
  let mut arrays := Array.replicate l.fifoCount (Array.replicate l.fifoLength (0 : Int))
  for w in words do
    let v ← Run.orFail .index w.value
    if embedded then
      if w.fifo ≥ arrays.size then throw .index
      arrays := arrays.modify w.fifo fun a => a.setIfInBounds w.index v
    else
      Bus.write 0 (.number v) { fifo := some w.fifo }
      for _ in List.range o.slowLoad.toNat do
        Bus.output "  asm volatile(\"nop\");\n"
  if embedded then
    for (a, c) in arrays.toList.zipIdx do
      Bus.defineArray (storedWords o a.toList) s!"SAMPLE_INPUT_{c}" "0x%08x" 8 false
      if o.riscvFlash then Bus.output CSource.flashAttribute
      Bus.output s!"static const uint32_t input_{c}[] = SAMPLE_INPUT_{c};\n"
    sendArrays o l
  else Bus.output "  // End of data input\n\n"

def cameraUnit (d : Device) : String := if d.features.modernSimulation then "MXC_PCIF" else "MXC_CAMERAIF0"

def cameraData (d : Device) : String :=
  if d.features.modernSimulation then "MXC_PCIF->fifo_data" else "MXC_CAMERAIF0->dma_data"

def forwardCamera (d : Device) (l : InputLayout) : Run Unit := do
  let unit := cameraUnit d
  let source := cameraData d
  let n := l.shape
  let length := if l.planar then n.height * ((n.width + 3) / 4) else n.pixels
  Bus.output ("\n#ifdef USE_FIFO\n#define FIFO_SZ 1024\nuint32_t fifo[FIFO_SZ];\n#endif\n\n"
    ++ "void load_input(void)\n\x7b\n#ifndef USE_FIFO\n  int i;\n")
  if l.planar then Bus.output "  int j;\n  uint32_t d[4], u;\n"
  Bus.output ("#else\n  int i = 0;\n  register int head = 0;\n  register int tail = 0;\n\n#endif\n"
    ++ "  // Tell tb to start sending pcif data\n  sim->trig = 0;\n\n"
    ++ s!"#ifndef USE_FIFO\n  for (i = 0; i < {length}; i++) \x7b\n")
  if l.planar then
    Bus.output ("    for (j = 0; j < 4; j++) \x7b\n"
      ++ "      while ((MXC_PCIF->int_fl & 0x80) == 0); // Wait for camera FIFO not empty\n"
      ++ s!"      d[j] = {source}; // Read 24 bits RGB from camera\n    \x7d\n")
    for c in List.range l.fifoCount do
      if c = 0 then
        Bus.output ("    u = (d[0] & 0xff) | ((d[1] & 0xff) << 8) | ((d[2] & 0xff) << 16) "
          ++ "| ((d[3] & 0xff) << 24);\n")
      else
        let s := c * 8
        Bus.output (s!"    u = ((d[0] >> {s}) & 0xff) | (((d[1] >> {s}) & 0xff) << 8) "
          ++ s!"| (((d[2] >> {s}) & 0xff) << 16) | (((d[3] >> {s}) & 0xff) << 24);\n")
      Bus.write 0 (.expression "u")
        { fifo := some c, comment := s!" // Write FIFO {c}", indent := "    ", wait := false }
  else
    for c in List.range l.fifoCount do
      Bus.output s!"    while (({unit}->int_fl & 0x80) == 0); // Wait for camera FIFO not empty\n"
      Bus.write 0 (.expression source)
        { fifo := some c, comment := s!" // Read camera, write FIFO {c}", indent := "    ",
          wait := false }
  Bus.output (s!"  \x7d\n#else\n  while (i < {length}) \x7b\n"
    ++ s!"    if ((({unit}->int_fl & 0x80) != 0) && (head + 1 != tail) && "
    ++ "((head + 1 != FIFO_SZ) || (tail != 0))) \x7b\n"
    ++ "      // Camera FIFO not empty and software FIFO not full\n"
    ++ s!"      fifo[head++] = {source}; // Read camera\n"
    ++ "      if (head == FIFO_SZ)\n        head = 0;\n    \x7d\n\n"
    ++ "    if ((head != tail) && (((*((volatile uint32_t *) 0x400c0404) & 2)) == 0)) \x7b\n"
    ++ "      // Software FIFO not empty, and room in CNN FIFO\n"
    ++ "      *((volatile uint32_t *) 0x400c0410) = fifo[tail++];\n"
    ++ "      if (tail == FIFO_SZ)\n        tail = 0;\n      i++;\n    \x7d\n  \x7d\n#endif\n\x7d\n\n")

def sample (data : Tensor) (c row column : Nat) : Run Int := do
  return Bits.byte (← Run.orFail .index (InputLayout.element? data c row column))

def cameraRow (l : InputLayout) (data : Tensor) (format : Int) (row : Nat) : Run String := do
  let n := l.shape
  let mut text := ""
  for column in List.range n.width do
    if format = 888 then
      for c in List.range n.channels do
        text := text ++ Camera.pixel (← sample data c row column)
    else
      let r := (← sample data 0 row column) / 8
      let g ← sample data 1 row column
      let b := (← sample data 2 row column) / 8
      text := text ++ Camera.packedPixel
        (if format = 555 then r * 1024 + g / 8 * 32 + b else r * 2048 + g / 4 * 32 + b)
  if format = 888 && l.planar then
    text := text ++ String.join (List.replicate (n.width % 4 * n.channels) (Camera.pixel 0))
  return text

def writeCameraFile (l : InputLayout) (data : Tensor) (path : String) : Run Unit := do
  let o ← Run.options
  Run.createFile path
  let out := Sink.file path
  Run.emit out Camera.start
  if !List.contains [888, 555, 565] o.inputCsvFormat then
    throw (.runtime s!"Unknown camera format {o.inputCsvFormat}")
  for row in List.range l.shape.height do
    Run.emit out (← cameraRow l data o.inputCsvFormat row)
    Run.emit out (Camera.endRow o.inputCsvRetrace.toNat)
  Run.emit out Camera.endImage

def loadCamera (embedded : Bool) (l : InputLayout) (data : Tensor) (path : String) : Run Unit := do
  Run.check (l.operands = 1)
  let n := l.shape
  if !embedded then Bus.output "\n\n  "
  let name := if l.planar then "CHW" else "HWC"
  Bus.output s!"// Data input: {name} {n.channels}x{n.height}x{n.width}\n"
  if embedded then
    forwardCamera (← Run.device) l
    writeCameraFile l data path

def load (embedded : Bool) (l : InputLayout) (data : Tensor) (cameraFile : Option String := none) :
    Run Unit := do
  let o ← Run.options
  if o.fixedInput && !embedded then Run.stop "--fixed-input requires --embedded-code"
  match cameraFile with
  | some path => loadCamera embedded l data path
  | none => if o.fifo then loadFifos embedded l data else loadMemory embedded l data

end CnnForge.DataMemory
