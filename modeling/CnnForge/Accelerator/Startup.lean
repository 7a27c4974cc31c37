import CnnForge.Accelerator.RegisterPlan
import CnnForge.Accelerator.Plan
import CnnForge.DataMemory.Loader

namespace CnnForge.Accelerator

attribute [local instance (2000)] instPowNat

def library (text : String) : Run Unit := do
  Bus.output text (← Run.options).embeddedCode

def writeAll (groups : List Nat) (register : Nat) (value : Int) (style : Bus.RegisterStyle) :
    Run Unit :=
  groups.forM fun g => Bus.writeControl g register value style

def waitAll (groups : List Nat) (register : Nat) (bits : Int) (comment : String) : Run Unit :=
  groups.forM fun g => Bus.waitControl g register bits bits comment

def clearRegisters (d : Device) (p : Plan) : Run Unit := do
  let r := d.controlReg
  let value : Int := if p.hasBias then d.tests.clearAll else d.tests.clear
  writeAll p.groupsUsed r.sramTest value { comment := some " // Clear registers", noVerify := true }
  waitAll p.groupsUsed r.sramTest d.tests.clearWait " // Wait for clear"
  writeAll p.groupsUsed r.sramTest 0
    { comment := some " // Reset BIST", force := true, noVerify := true }
  library "\n"

def clearTram (d : Device) (group : Nat) : Run Unit := do
  let o ← Run.options
  if o.embeddedCode then
    for p in List.range d.groupSize do
      let address := o.apbBase + d.groupSpacing * group + d.tramBase + p * d.tramSpacing * 4
      library s!"  memset((uint32_t *) 0x{Text.hex 8 address}, 0, {d.tramSize}); // Zero TRAM {group}\n"
      library "\n"
  else
    for p in List.range d.groupSize do
      for k in List.range d.tramSize do
        Bus.writeTram group p k 0 "Zero "
    library "\n"

def stopGroup (d : Device) (p : Plan) (group : Nat) : Run Unit := do
  let o ← Run.options
  let r := d.controlReg
  if o.initTram then clearTram d group
  let control := wordOf [⟨r.readySelect, 1⟩, flag o.fifo 15, flag true 3, flag o.expressWeights 20]
  Bus.writeControl group r.control control { comment := some " // Stop SM" }
  Bus.writeControl group r.sram 0x40e { comment := some " // SRAM control" }
  Bus.writeControl group r.layerCount (wordOf [⟨o.repeatLayers * p.final, 0⟩, ⟨p.start, 8⟩])
    { comment := some " // Layer count" }

def selfTest (d : Device) (t : SelfTest) (name : String) : Run Unit := do
  let groups := List.range d.groups
  let register := d.controlReg.sramTest
  writeAll groups register t.start { comment := some s!" // {name} BIST" }
  waitAll groups register t.wait " // Wait for BIST"
  groups.forM fun g =>
    Bus.verifyControl g register (some (t.error : Int)) 0 " // Return on BIST error"
  writeAll groups register 0 { comment := some " // Reset BIST", force := true }
  library "\n"

def logTitle (title : String) : Run Unit := do
  if (← Run.options).verbose then
    Run.putLine s!"\n{title}:"
    Run.putLine ("".pushn '-' (title.length + 1))

def initFunction (p : Plan) : Run Unit := do
  let d ← Run.device
  let o ← Run.options
  let r := d.controlReg
  Bus.functionHeader { function := "init" }
  logTitle "Global registers"
  if d.features.needsRegisterClear then
    writeAll p.groupsUsed r.control (wordOf [flag true 3, ⟨r.readySelect, 1⟩])
      { comment := some " // Enable clocks", noVerify := true }
  Bus.writeFifo r.alwaysOn r.alwaysOnReadySelect { comment := some " // AON control", force := true }
  if d.features.needsRegisterClear then clearRegisters d p
  p.groupsUsed.forM (stopGroup d p)
  if o.zeroSram then
    selfTest d d.tests.data "Data SRAM"
    selfTest d d.tests.mask "Mask SRAM"
    selfTest d d.tests.tram "Tornado SRAM"
    selfTest d d.tests.bias "Bias Rfile"
  Bus.functionFooter

def inputLayout (p : Plan) : InputLayout :=
  let l := p.startLayer
  { planar := l.bigData
    processors := p.inputProcessors
    offset := l.inOffset
    shape := ⟨l.inputChannels.toNat, l.inputSize.row.toNat, l.inputSize.column.toNat⟩
    inExpand := l.inExpand.toNat
    operands := l.operands.toNat
    inExpandThresh := l.inExpandThresh.toNat
    padding := l.effectivePad.row.toNat }

def loadsByFunction (o : Options) : Bool :=
  o.embeddedCode || o.compactData || o.inputCsv.any (· != "")

def loadInline (p : Plan) (cameraFile : Option String) : Run Unit := do
  let o ← Run.options
  if loadsByFunction o then
    if !o.embeddedCode then Bus.output "\n  load_input(); // Load data input\n\n"
  else DataMemory.load false (inputLayout p) p.data cameraFile

def fifoWord (d : Device) (p : Plan) : Int :=
  let ports := (List.range p.startLayer.inputChannels.toNat).filterMap fun i =>
    let g := i % d.groups
    if p.inputProcessors.testBit (g * d.groupSize) then some (flag true (g + 12)) else none
  wordOf
    (⟨2, 2⟩ :: ⟨2, 7⟩ :: ⟨d.controlReg.fifoReadySelect, 0⟩ :: flag d.features.needsFifoComplete 11
      :: ports)

def setupFifos (d : Device) (p : Plan) : Run Unit := do
  let o ← Run.options
  library "\n"
  if o.fastFifo then
    Bus.writeFastFifo Device.fastFifoInterruptEnable 0
      { comment := some " // Fast FIFO interrupt enable" }
    Bus.writeFastFifo Device.fastFifoControl (10 * 2 ^ 4) { comment := some " // Fast FIFO control" }
  else
    Bus.writeFifo Device.fifoControl (fifoWord d p) { comment := some " // FIFO control" }

def sharedControl (d : Device) (o : Options) (p : Plan) : Int :=
  let pipelined := d.fields.pipeline.isSome
  let streams := p.streams
  wordOf [
    flag true 3, flag o.externalReady 4,
    fieldIf (o.pipeline != some true && pipelined) 1 (d.fields.pipeline.getD 0),
    flag (pipelined && p.startLayer.streaming && p.startLayer.bigData) 6, flag p.snoop.isSome 7,
    flag (o.oneShot != 0) 8, flag o.fifo 11, flag o.roundAverage 13, flag streams 14,
    flag (o.fifo && streams) 19, flag o.expressWeights 20, flag o.simple1b 21, flag p.binary 30,
    flag o.fastFifoQuad 31]

def feedsGroup (o : Options) (p : Plan) (group : Nat) : Bool :=
  o.fifo && p.inputProcessors &&& (0x0f <<< (group * 16)) != 0

def feedFields (o : Options) (p : Plan) (feeds : Bool) : List BitField :=
  [flag feeds 15, flag (feeds && o.fastFifo) 22, flag (feeds && p.fifoGroup) 23]

def startFunction (p : Plan) (cameraFile : Option String) : Run Unit := do
  let d ← Run.device
  let o ← Run.options
  let r := d.controlReg
  let shared := sharedControl d o p
  if o.embeddedCode then
    Bus.functionFooter
    Bus.functionHeader { function := "start" }
  if o.embeddedCode || d.features.modernSimulation then library "  cnn_time = 0;\n\n"
  let ready : Int := if o.pipeline == some true then r.pipelineReadySelect else r.readySelect
  let first := p.mainGroup
  for g in p.groupsUsed do
    let feed := feedFields o p (feedsGroup o p g)
    let value := wordOf (⟨shared, 0⟩ :: flag true 11 :: ⟨ready, 1⟩ :: flag o.fifo 15
      :: flag (g != first) 0 :: ⟨first, 9⟩ :: feed)
    Bus.writeControl g r.control value { comment := some s!" // Enable group {g}" }
  if o.powerDown then
    let unused := (List.range d.groups).filter fun g => !p.groupsUsed.contains g
    Bus.writeFifo r.alwaysOn
      (wordOf (⟨r.alwaysOnReadySelect, 0⟩ :: unused.map fun g => ⟨1, 12 + g⟩))
      { comment := some " // AON control" }
  if o.pll == some true && !o.measureEnergy then
    Bus.selectClock "ITO" "DIV1" "Switch CNN clock to PLL (ITO)"
  if o.embeddedCode then
    library ("\n#ifdef CNN_INFERENCE_TIMER\n  MXC_TMR_SW_Start(CNN_INFERENCE_TIMER);\n"
      ++ "#endif\n\n")
    if !o.measureEnergy then library "  CNN_START; // Allow capture of processing time\n"
  let value := wordOf (⟨shared, 0⟩ :: ⟨ready, 1⟩ :: flag true 0
    :: feedFields o p (feedsGroup o p first))
  Bus.writeControl first r.control value { comment := some s!" // Master enable group {first}" }
  if o.fifo then loadInline p cameraFile
  Bus.functionFooter

end CnnForge.Accelerator
