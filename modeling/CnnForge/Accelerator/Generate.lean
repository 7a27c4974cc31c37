import CnnForge.Accelerator.Configure
import CnnForge.Accelerator.Constraints
import CnnForge.Accelerator.Groups
import CnnForge.Accelerator.Inference
import CnnForge.Accelerator.Name
import CnnForge.Accelerator.Startup
import CnnForge.Asset
import CnnForge.BiasMemory.Loader
import CnnForge.Bus.KnownAnswer
import CnnForge.Bus.PreloadFiles
import CnnForge.Device.Catalog
import CnnForge.KernelMemory.Loader
import CnnForge.OutputFolder
import CnnForge.Statistics.Summary
import CnnForge.Testbench
import CnnForge.Unload.Generator
import CnnForge.Unload.Verify

namespace CnnForge.Accelerator

attribute [local instance (2000)] Zero.ofOfNat0

def makeFolder (t : OutputFolder) (overwrite : Bool) : Run Unit := do
  let files := (← get).files
  let parts := pathParts t.folder
  let blocked := (List.range parts.length).any fun i =>
    files.isFile ("/".intercalate (parts.take (i + 1)))
  if files.isFolder t.folder || blocked then
    if overwrite then
      Run.warn s!"--overwrite specified, writing to {t.folder} even though it exists."
    else Run.stop s!"The target folder {t.folder} exists. Use --overwrite to proceed."
  else modify fun s => { s with files := s.files.addFolder t.folder }

structure Headers where
  sampleData : Option Sink
  sampleOutput : Option Sink
  weights : Option Sink

def openHeaders (t : OutputFolder) (o : Options) : Run Headers := do
  let data := !o.blockMode && (o.embeddedCode || o.compactData)
  let sampleData ← t.createIf data o.sampleFile
  let sampleOutput ← t.createIf
    (data && o.generateKat && o.resultFile.toLower != "none") o.resultFile
  let weights ← t.createIf (!o.blockMode && (o.embeddedCode || o.compactWeights)) o.weightFile
  return { sampleData, sampleOutput, weights }

def groupNumbers (p : Plan) : List Int := p.groupsUsed.map Int.ofNat

def writeHostProgram (t : OutputFolder) (p : Plan) : Run Unit := do
  let o ← Run.options
  let file ← t.create (o.cFile ++ ".c")
  Bus.start .program
    { mainFile := some file, resumption := .never, riscv := some false,
      embeddedHost := o.embeddedCode, groups := some (groupNumbers p), testName := some t.name }
  Bus.termsOfUse
  Bus.output s!"// ARM wrapper code\n// {t.name}\n"
  Bus.output t.origin
  Bus.fileHeads
  Bus.mainFunction

def programFile (o : Options) : String := o.cFile ++ (if o.riscv then "_riscv" else "") ++ ".c"

def openProgram (t : OutputFolder) (p : Plan) (h : Headers) : Run Unit := do
  let o ← Run.options
  let apiFile ← t.createIf (o.embeddedCode && o.apiFile.toLower != "none") o.apiFile
  if o.blockMode then
    Run.createFile (t.path (o.inputFile ++ ".mem"))
    throw .kind
  let file ← t.create (programFile o)
  let resumes := o.oneShot > 0 || o.stopStart || apiFile.isSome
  Bus.start .program
    { mainFile := some file
      verifyWrites := o.verifyWrites
      weightHeader := h.weights
      sampleDataHeader := h.sampleData
      sampleOutputHeader := h.sampleOutput
      embedded := o.embeddedCode
      writeZeroRegisters := o.writeZeroRegisters
      resumption := if resumes then .group p.mainGroup else .never
      riscv := if o.riscv then some true else none
      fastFifo := o.fastFifo
      inputChannels := some p.startLayer.inputChannels
      apiFile
      forever := o.forever
      fifo := o.fifo
      groups := some (groupNumbers p)
      oneShot := if o.oneShot != 0 then p.terminating else 0
      outputWidth := p.endLayer.outputWidth
      bias := p.hasBias
      testName := some t.name }
  Bus.termsOfUse
  Bus.output s!"// {t.name}\n"
  Bus.output t.origin
  if apiFile.isSome then
    Bus.output s!"// {t.name}\n" true
    Bus.output t.origin true
    Bus.output "// DO NOT EDIT - regenerate this file instead!\n\n" true
  library (p.description o)
  Bus.fileHeads

def kernelLayer (l : PlannedLayer) : KernelLayer :=
  { active := !l.isPassthrough && !l.bypass
    kernel := l.kernel
    kernelSize := l.kernelSize
    quantization := l.bits
    processors := l.processors
    outputProcessors := l.outMap
    inputChannels := l.inputChannels.toNat
    outputChannels := l.outputChannels.toNat
    outExpand := l.outExpand.toNat
    outExpandThresh := l.outExpandThresh.toNat
    inExpand := l.inExpand.toNat
    inExpandThresh := l.inExpandThresh.toNat
    groups := l.groups
    flatten := l.flatten
    interleaved := l.calcx4 }

def biasLayer (l : PlannedLayer) : BiasLayer :=
  { bias := l.bias.map (·.data.toList)
    hasGroups := l.groupMap.isSome
    allowedGroups := l.biasGroups
    outputChannels := l.outputChannels
    streaming := l.streaming
    groups := l.groups
    broadcast := l.broadcast == some true
    processors := l.processors
    outputProcessors := l.outMap
    outExpand := l.outExpand.toNat
    interleaved := l.calcx4 }

def loadParameters (p : Plan) (embedded api : Bool) : Run Placement := do
  let o ← Run.options
  let layers := p.layers.toList
  let kernels ← KernelMemory.load { embedded, verify := o.verifyKernels, api } (layers.map kernelLayer)
  let bias ← BiasMemory.load embedded (layers.map biasLayer) (groupNumbers p)
  return { kernels, bias }

def leadFunctions (p : Plan) (cameraFile : Option String) : Run Unit := do
  let o ← Run.options
  if o.embeddedCode || o.compactData || o.expressWeights then
    Bus.functionHeader { lead := "", function := "memcpy32", returnType := "void",
                         arguments := "uint32_t *dst, const uint32_t *src, int n" }
    library "  while (n-- > 0) \x7b\n    *dst++ = *src++;\n  \x7d\n"
    Bus.functionFooter "void"
  if o.inputFifo then Bus.output "#define USE_FIFO\n"
  if loadsByFunction o then DataMemory.load true (inputLayout p) p.data cameraFile

def configureFunction (d : Device) (o : Options) (p : Plan) (m : Placement) (cameraFile : Option String) : Run Unit := do
  Bus.functionHeader { function := "configure" }
  (configuration d o p m).perform
  if !o.fifo then loadInline p cameraFile
  logTitle "Global registers"
  if o.fifo then setupFifos d p

def writeProgram (t : OutputFolder) (p : Plan) (h : Headers) : Run Placement := do
  let d ← Run.device
  let o ← Run.options
  let cameraFile := o.inputCsv.map t.path
  openProgram t p h
  leadFunctions p cameraFile
  let early := o.embeddedCode || o.compactWeights
  let placed ← if early then some <$> loadParameters p true o.embeddedCode else pure none
  initFunction p
  let m ← match placed with
    | some m => pure m
    | none => loadParameters p false false
  if o.verbose then
    Run.put (p.listing o m)
    Run.put "Layer register configuration:\n-----------------------------\n"
  configureFunction d o p m cameraFile
  startFunction p cameraFile
  return m

def inputImage : String := "input"
def outputImage : String := "output"

def outputLayout (l : PlannedLayer) (size : List Int) : OutputLayout :=
  { processors := l.outMap
    shape := ⟨(size.getD 0 0).toNat, (size.getD 1 0).toNat, (size.getD 2 0).toNat⟩
    offset := l.outputOffset
    outExpand := l.outExpand.toNat
    outExpandThresh := l.outExpandThresh.toNat
    bits := l.outputWidth.toNat }

def verifySnoop (d : Device) (p : Plan) (group : Nat) : Run Unit := do
  let first ← Run.orFail .property d.controlReg.snoop
  let values ← Run.orFail .kind p.snoop
  for (k, comment) in (List.range 24).zip snoopComments do
    if k % 12 ≥ 8 then
      let value ← Run.orFail .index values[24 + k / 12 * 4 + k % 12 - 8]?
      let comment := String.ofList (comment.toList.drop 1)
      Bus.verifyControl group (first + k : Nat) none value s!" // Verify s{comment}"

def lastGroup (d : Device) (o : Options) (p : Plan) : Nat :=
  let unused := if o.powerDown then (List.range d.groups).filter fun g => !p.groupsUsed.contains g
    else []
  (unused.getLast? <|> p.groupsUsed.getLast?).getD 0

def testComment (i : Nat) (name : String) : String :=
  s!"// Expected output of layer {i} for {name} given the sample input "
    ++ "(known-answer test)\n// Delete this function for production code\n"

def writeChecks (t : OutputFolder) (p : Plan) (i : Nat) (l : PlannedLayer) (out : Tensor)
    (size : List Int) : Run Unit := do
  let d ← Run.device
  let o ← Run.options
  let final := i = p.terminating
  let layout := outputLayout l size
  Bus.output (testComment i t.name)
  Bus.functionHeader { lead := "", function := "check_output" } false
  let settings : Unload.VerifySettings :=
    { layer := i, gap := l.writeGap, finalLayer := p.terminating, input := inputImage }
  if final && o.mlator && !o.mlatorNoVerify && !o.embeddedCode then
    Unload.verifyOutput { settings with overwriteOk := o.overwriteOk || l.streaming } layout out
  if o.logIntermediate then throw .kind
  let streams := l.streaming && (i != p.start || o.fifo)
  Unload.verifyOutput
    { settings with
      overwriteOk := o.overwriteOk || streams
      interleaved := final && o.mlator
      output := some outputImage } layout out
  if o.debugSnoop then verifySnoop d p (lastGroup d o p)
  Bus.finishChecks
  Bus.functionFooter "CNN_OK" false

/-- The memory with the input of the layer that follows. Streaming keeps the input of all layers. -/
def advanceImages (keeps : Bool) : Run Unit :=
  modify fun s =>
    let out := s.images.getD outputImage default
    let next := if keeps then
      let old := s.images.getD inputImage default
      { old with words := out.words.fold (fun m k v => m.insertIfNew k v) old.words }
    else out
    { s with images := s.images.insert inputImage next }

def outputLayer (t : OutputFolder) (p : Plan) (outputs : Array Tensor) (i : Nat) :
    Run (Tensor × List Int) := do
  let d ← Run.device
  let o ← Run.options
  let l := p.layer i
  Compute.openStepLog i t.base t.name
  if l.inSequences == some [] then throw .index
  let input ← Run.perform (Network.gather outputs l.inSequences)
  let (out, size) ← computeLayer p t.folder i l input
  modify fun s =>
    { s with images := s.images.insert outputImage { size := d.groupSpacing * d.groups } }
  let file := if i = p.terminating then some (t.path (programFile o)) else none
  if let some path := file then
    let files ← Run.lift ((← get).files.openAppend path)
    modify fun s => { s with files }
  Bus.setMainFile (file.map Sink.file)
  if o.generateKat then writeChecks t p i l out size
  if !out.anyNonzero then
    Run.warn (s!"Layer {i}: All output values for the given sample input are zero. The generated "
      ++ "known-answer test for this network may not be meaningful. See the log file for details.")
  let out ← Run.orFail .value (out.reshape? (size.map Int.toNat))
  return (out, size)

def leaveLayer (p : Plan) (l : PlannedLayer) : Run (Option Int) := do
  let keeps ← if l.next = -1 then pure false
    else do pure (← Run.lift (elementAt p.layers l.next)).streaming
  advanceImages keeps
  Compute.closeStepLog
  let next := l.simulatedNext.getD l.next
  return if next = -1 then none else some next

/-- Computes layers in the order of execution. The results are the number of the last one and the
size of its output. More layers than there are, counted from both ends, mean that the order repeats
itself. -/
def runLayers (t : OutputFolder) (p : Plan) : Nat → Array Tensor → Int → Option (Nat × List Int) →
    Run (Option (Nat × List Int))
  | 0, _, _, _ => throw .endless
  | fuel + 1, outputs, current, last => do
    if current ≥ p.layers.size then return last
    let i ← Run.orFail .index (position? p.layers.size current)
    let (out, size) ← outputLayer t p outputs i
    match ← leaveLayer p (p.layer i) with
    | none => return some (i, size)
    | some n => runLayers t p fuel (outputs.push out) n (some (i, size))

def summaryOf (p : Plan) (m : Placement) (spaces : Nat) : Run String := do
  let o ← Run.options
  let use : Statistics.MemoryUse :=
    { weights := p.layers.toList.map fun l => (l.kernel, l.bits)
      biasBytes := (m.bias.tops.map Int.ofNat).sum }
  Run.lift ((← get).statistics.summary (← Run.device) o.debug (p.used.map Int.ofNat) (some use)
    o.repeatLayers spaces)

def finishProgram (t : OutputFolder) (p : Plan) (m : Placement) (last : Option (Nat × List Int)) :
    Run String := do
  let o ← Run.options
  let l := p.endLayer
  let (i, size) ← Run.orFail .kind last
  if i != p.terminating then throw .kind
  Bus.setMainFile (some (.file (t.path (programFile o))))
  if o.softmax || (o.embeddedCode && o.unload) then
    Bus.ifProgram fun s => Unload.generate (Bus.librarySink s) (outputLayout l size) l.isPassthrough
  if o.softmax then
    Bus.softmaxLayer l.outputWidth (if l.bypass then 0 else 8 - l.bits.natAbs)
  let report := "/*\n" ++ (← summaryOf p m 2) ++ "*/\n"
  Bus.mainFunction
  Bus.output (report ++ "\n")
  return report

def simulationLead : Int := 3

def writeSimulation (t : OutputFolder) : Run Unit := do
  let d ← Run.device
  let o ← Run.options
  let time := Bus.accessTime (← get).bus
  let timeout := match o.timeout with
    | some n => if n != 0 then n else 10 * (time + simulationLead) + (if o.zeroSram then 16 else 0)
    | none => 10 * (time + simulationLead) + (if o.zeroSram then 16 else 0)
  Testbench.create t.name (some timeout) o.riscv
  let copy (kind : String) : Run Unit := Asset.copyAll "assets" kind t.base t.name
  copy s!"rtlsim-ai{d.code}"
  if o.riscvCache then copy s!"rtlsim-riscv-cache-ai{d.code}"
  else if o.riscvFlash then copy s!"rtlsim-riscv-flash-ai{d.code}"
  else if o.riscv then copy s!"rtlsim-riscv-ai{d.code}"
  if o.resultOutput then copy "rtlsim-verify-output"

def writeProject (t : OutputFolder) (p : Plan) (report : String) : Run Unit := do
  let d ← Run.device
  let o ← Run.options
  let l := p.endLayer
  let outputs := l.outputChannels * l.outputSize.product
  let timer := match o.timer with
    | some n => s!"\n\n/* Use this timer to time the inference */\n#define CNN_INFERENCE_TIMER MXC_TMR{n}"
    | none => ""
  let insert := report ++ "\n/* Number of outputs for this network */\n"
    ++ s!"#define CNN_NUM_OUTPUTS {outputs}{timer}"
  let fill (kind insert : String) : Run Unit :=
    Asset.fromTemplates "assets" kind t.base t.name o.boardName insert
  fill (if o.riscv then s!"embedded-riscv-ai{d.code}" else s!"embedded-ai{d.code}") ""
  fill "eclipse" ""
  fill "device-all" insert
  fill s!"device-ai{d.code}" ""

def generate (command : String) (n : Network) : Run String := do
  if !(← get).files.isFolder "assets" then
    Run.stop "The assets folder is missing from the current directory."
  let d ← Run.device
  let (o, p) ← Run.perform (plan d (← Run.options) n)
  Run.modifyOptions fun _ => o
  let t : OutputFolder := { base := o.baseFolder, name := shortName o.baseFolder (p.fullName o), command }
  Run.putLine s!"{t.name}..."
  makeFolder t o.overwrite
  if o.log then t.openLog d o.logFile
  let headers ← openHeaders t o
  let p ← Run.perform (planGroups d o p)
  if o.riscv && !o.blockMode then writeHostProgram t p
  let m ← writeProgram t p headers
  let image := (← get).bus.image
  modify fun s => { s with images := s.images.insert inputImage image }
  if o.verbose then Run.put "\n"
  let last ← runLayers t p (2 * p.layers.size + 2) #[p.data] p.start none
  let report ← finishProgram t p m last
  if o.rtlPreload || o.resultOutput then Bus.writePreloads t.base t.name
  if o.embeddedCode then writeProject t p report else writeSimulation t
  Run.putLine (← summaryOf p m 0)
  return t.name

end CnnForge.Accelerator
