import CnnForge.Bus.ProgramText
import CnnForge.Unload.Interleaver

namespace CnnForge.Unload

structure VerifySettings where
  layer : Int
  overwriteOk : Bool := false
  interleaved : Bool := false
  notes : Option Sink := none
  gap : Int := 0
  finalLayer : Int := 0
  embedded : Bool := false
  testName : Option String := none
  input : String
  output : Option String := none

abbrev Verifier := Int → Int → VerifyStyle → Run Unit

def imageWord (name : String) (offset : Int) : Run (Option Mark) := do
  let image ← Run.orFail .kind (← get).images[name]?
  Run.lift (image.get (Bits.down offset 2))

def recordWord (name : String) (offset : Int) (mark : Mark) : Run Unit := do
  let size := ((← get).images[name]?.map (·.size)).getD 0
  let i ← Run.orFail .index (position? size (Bits.down offset 2))
  modify fun s => { s with images := s.images.modify name fun m =>
    { m with words := m.words.insert i mark } }

def overwriting (layer channel row column : Int) : String :=
  s!"Layer {layer} output for CHW={channel},{row},{column} is overwriting"

def checkInput (s : VerifySettings) (fatal : Bool) (processor offset channel row column : Int) : Run Unit := do
  match ← imageWord s.input offset with
  | none => pure ()
  | some .loaded =>
    Run.stopIf fatal (s!"Processor {processor}: Layer {s.layer} output is overwriting "
      ++ s!"input at offset 0x{Text.hex 8 offset}.")
  | some (.output layer c y x _) =>
    let origin := if layer ≥ 0 then s!"layer {layer}" else "the input loader"
    Run.stopIf fatal (s!"Processor {processor}: {overwriting s.layer channel row column} input at offset "
      ++ s!"0x{Text.hex 8 offset} that was created by {origin}, CHW={c},{y},{x}.")

def checkOutput (s : VerifySettings) (fatal : Bool) (out : String)
    (processor offset channel row column : Int) : Run Unit := do
  match ← imageWord out offset with
  | none => pure ()
  | some .loaded => throw .kind
  | some (.output layer c y x v) =>
    Run.stopIf fatal (s!"Processor {processor}: {overwriting s.layer channel row column} offset "
      ++ s!"0x{Text.hex 8 offset}. Previous write by layer {layer},CHW={c},{y},{x} with value "
      ++ s!"0x{Text.hex 8 v}.")

def checkWord (s : VerifySettings) (processor offset channel row column : Int) : Run Unit := do
  if s.overwriteOk then return
  let fatal := !(← Run.options).noErrorStop
  checkInput s fatal processor offset channel row column
  if let some out := s.output then checkOutput s fatal out processor offset channel row column

def takeWord (s : VerifySettings) (processor offset channel row column value : Int) : Run Unit := do
  checkWord s processor offset channel row column
  if let some out := s.output then
    recordWord out offset (.output s.layer channel row column value)

/-- The values of a pixel of a block, by lane. Lanes without a processor or channel are `some 0`;
`none` is a value that the output does not have. -/
def laneValues (data : Tensor) (l : OutputLayout) (b : OutputBlock) (row column : Nat) :
    List (Option Int) :=
  ((List.range 4).foldl (fun ((vs, c) : List (Option Int) × Nat) lane =>
    if b.lanes.testBit lane then
      let v := if c < l.shape.channels then InputLayout.element? data c row column else some 0
      (vs ++ [v], c + 1)
    else (vs ++ [some 0], c)) ([], b.first)).1

def packLanes (vs : List Int) : Int :=
  vs.zipIdx.foldl (fun acc (v, i) => Bits.or acc (Bits.up (Bits.byte v) (8 * i))) 0

def pixelWords (s : VerifySettings) (l : OutputLayout) (d : Device) (n : Nat) (b : OutputBlock)
    (values : List Int) : List (Int × Int × VerifyStyle) :=
  let row := n / l.shape.width
  let column := n % l.shape.width
  let offset := d.dataBase + l.address d b n s.gap
  let bytes := min b.count (l.shape.channels - b.first)
  let final := s.layer = s.finalLayer
  if l.size = 1 then
    [(offset, packLanes values,
      { comment := s!" // {row},{column},{b.first}-{(b.first + bytes : Int) - 1}", bytes := bytes,
        lane := (Bits.lowest (l.processors >>> b.processor : Nat)).fmod 4, data := final })]
  else
    (List.range (min bytes l.size)).map fun (i : Nat) =>
      (offset + i * l.size, Bits.low 32 (values.getD i 0),
        { comment := s!" // {row},{column},{b.first + i}", data := final })

def verifyPixel (check : Verifier) (s : VerifySettings) (l : OutputLayout) (d : Device)
    (data : Tensor) (n : Nat) (b : OutputBlock) (counted : Bool) : Run Unit := do
  let row := n / l.shape.width
  let column := n % l.shape.width
  let values ← Run.orFail .index ((laneValues data l b row column).mapM id)
  (pixelWords s l d n b values).forM fun (offset, value, style) => do
    takeWord s b.processor offset b.first row column value
    if counted then check offset value style

def verifyCounted (check : Verifier) (s : VerifySettings) (l : OutputLayout) (d : Device)
    (data : Tensor) (limit : Option Int) (count : Int) (n : Nat) (b : OutputBlock) : Run Int := do
  if b.lanes = 0 then return count
  verifyPixel check s l d data n b ((limit.map fun m => decide (count < m)).getD true)
  if limit = some (count + 1) then
    if let some out := s.notes then Run.emit out "  // Truncated further checks...\n"
  return count + 1

/-- Checks all pixels word by word; after `maxCount` words the rest is only recorded. -/
def verifyDirect (check : Verifier) (s : VerifySettings) (l : OutputLayout) (data : Tensor) :
    Run Unit := do
  let d ← Run.device
  let limit := (← Run.options).maxCount
  let pixels := l.shape.pixels
  if l.processors = 0 then throw .value
  if pixels = 0 then return
  let bs ← Run.lift (l.blocks d)
  let places := (List.range pixels).flatMap fun n => bs.map fun b => (n, b)
  let _ ← places.foldlM (fun count (n, b) => verifyCounted check s l d data limit count n b) 0

def interleaverSetup (d : Device) (base : Int) (group : Int) (source : Int) (pass lane n : Nat) : String :=
  let control := Bus.cell (base + d.controlAddress group d.controlReg.control)
  let unit := Bus.cell (base + d.controlAddress group d.controlReg.mlator)
  let pointer := Bus.cell (base + d.layerAddress group d.layerReg.writeBase 0)
  let increment := Bus.cell (base + d.layerAddress group d.layerReg.control2 0)
  (if n ≠ 0 then s!"  {control} = 0x{Text.hex 8 (Interleaver.offValue d)}; // Disable mlator\n" else "")
    ++ s!"  {pointer} = 0x{Text.hex 8 (Bits.down source 2)}; // Set SRAM address\n"
    ++ s!"  {increment} = 0x{Text.hex 8 pass}; // Set pointer increment\n"
    ++ s!"  {control} = 0x{Text.hex 8 (Interleaver.onValue d lane)}; // Enable mlator, byte {lane}\n"
    ++ s!"  asm volatile (\"\" : \"=m\" ({unit}) : \"r\" ({unit})); // Prime\n"

def verifyInterleavedWord (check : Verifier) (s : VerifySettings) (l : OutputLayout) (d : Device)
    (data : Tensor) (processor pass lane c n : Nat) (last : Option Int) : Run Int := do
  let base := (← Run.options).apbBase
  let row := n / l.shape.width
  let column := n % l.shape.width
  let group : Int := processor / d.groupSize
  let values ← (List.range 4).mapM fun i =>
    if column + i < l.shape.width then Run.orFail .index (InputLayout.element? data c row (column + i))
    else pure 0
  let value := packLanes values
  let block : OutputBlock := ⟨processor, pass, c, 0⟩
  let source := l.offset + (OutputLayout.blockWord d block + (n / 4 * l.width : Nat)) * 4
  if last ≠ some source then
    Run.emit (← Bus.require s.notes) (interleaverSetup d base group source pass lane n)
  let bytes : Int := min 4 (l.shape.width - column : Int)
  checkWord s processor (d.dataBase + source) c row column
  if let some out := s.output then
    recordWord out source (.output s.layer c row column value)
  check (d.controlAddress group d.controlReg.mlator) value
    { comment := s!" // {row},{column}-{column + bytes - 1},{c}", bytes,
      data := s.layer = s.finalLayer }
  return source + 4

def verifyInterleaved (check : Verifier) (s : VerifySettings) (l : OutputLayout) (data : Tensor) :
    Run Unit := do
  let d ← Run.device
  let base := (← Run.options).apbBase
  if l.processors = 0 then throw .value
  Run.check (l.size = 1)
  if l.outExpandThresh = 0 ∧ l.shape.channels > 0 then throw .divisionByZero
  let mut last : Option Int := none
  let mut processor := l.firstProcessor d
  let mut map := l.firstMap d
  for k in List.range ((l.shape.channels + 3) / 4) do
    let first := 4 * k
    if first % l.outExpandThresh = 0 then
      processor := l.firstProcessor d
      map := l.firstMap d
    let p := processor / d.shared * d.shared
    for lane in List.range 4 do
      if map.testBit lane then
        for w in List.range ((l.shape.pixels + 3) / 4) do
          last := some (← verifyInterleavedWord check s l d data p (first / l.outExpandThresh) lane
            (first + lane) (4 * w) last)
        let control := Bus.cell (base + d.controlAddress (p / d.groupSize : Nat) d.controlReg.control)
        Run.emit (← Bus.require s.notes)
          s!"  {control} = 0x{Text.hex 8 (Interleaver.offValue d)}; // Disable mlator\n"
    map := map / 16
    processor := processor + 4

def resultPath (base folder name : String) : String :=
  joinPath (joinPath base folder) (if name.endsWith ".npy" then name else name ++ ".npy")

def saveResult (s : VerifySettings) (data : Tensor) : Run Unit := do
  let o ← Run.options
  if let some name := o.resultNumpy then
    let folder ← Run.orFail .kind s.testName
    let path := resultPath o.baseFolder folder name
    Run.createFile path
    modify fun st => { st with files := st.files.add path (.tensors [data]) }

def verify (check : Verifier) (s : VerifySettings) (l : OutputLayout) (data : Tensor) : Run Unit := do
  saveResult s data
  let interleaved := s.interleaved && !s.embedded
  if interleaved && l.bits ≠ 8 then Run.warn "ignoring --mlator for 32-bit output."
  if interleaved && l.bits = 8 then verifyInterleaved check s l data
  else verifyDirect check s l data

def verifyOutput (s : VerifySettings) (l : OutputLayout) (data : Tensor) : Run Unit := do
  let b := (← get).bus.settings
  verify @Bus.verifyListed
    { s with notes := b.mainFile, embedded := b.embedded, testName := b.testName } l data

end CnnForge.Unload
