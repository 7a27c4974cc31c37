import CnnForge.CommandLine.Settings
import CnnForge.Config.Load
import CnnForge.Device.Select
import CnnForge.Network.Dimensions
import CnnForge.Network.Sequence

namespace CnnForge

attribute [local instance (2000)] instPowNat

open CommandLine (Arguments)

namespace Network

def adjustDevice (args : Arguments) : Run Unit := do
  let number (name : String) : Nat := ((Arguments.get args name).int?.getD 0).toNat
  let change (name : String) (f : Nat → Device → Device) : Run Unit := do
    if number name != 0 then
      modify fun s => { s with device := s.device.map (f (number name)) }
  change "max_proc" fun n d => { d with maxProcessors := n, groupSize := n, groups := 1 }
  change "ready_sel" fun n d => { d with controlReg := { d.controlReg with readySelect := n } }
  change "ready_sel_fifo" fun n d =>
    { d with controlReg := { d.controlReg with fifoReadySelect := n } }
  change "ready_sel_aon" fun n d =>
    { d with controlReg := { d.controlReg with alwaysOnReadySelect := n } }

def textOf : Option Value → Run (Option String)
  | none | some .null => pure none
  | some v => pure (some v.shown)

structure Weights where
  kernels : List (Option Tensor)
  bias : List (Option Tensor)
  inputChannels : List Int
  outputChannels : List Int
  outputShifts : List (Option Int)

/-- Puts `x` before element `i`, or at the end of a shorter list. -/
def insertAt (xs : List α) (i : Nat) (x : α) : List α := xs.take i ++ x :: xs.drop i

def insertEmpty (configs : List LayerConfig) (w : Weights) : Weights :=
  (configs.zipIdx).foldl (fun w (c, i) =>
    if c.operator == .passthrough || c.bypass then
      { w with
        kernels := insertAt w.kernels i none
        bias := if c.bypass then w.bias else insertAt w.bias i none
        inputChannels := insertAt w.inputChannels i 0
        outputChannels := insertAt w.outputChannels i 0 }
    else w) w

def Weights.ofSet (set : WeightSet) (bias : List (Option Tensor)) : Weights where
  kernels := set.weights.map fun w => some w.kernels
  bias
  inputChannels := set.weights.map (·.inputChannels)
  outputChannels := set.weights.map (·.outputChannels)
  outputShifts := set.outputShifts

def loadWeights (args : Arguments) (c : NetworkConfig) : Run Weights := do
  let some arch := c.entries.get? "arch" | throw .key
  unless arch.same (.text "test") do
    if !Arguments.isSet args "checkpoint_file" then
      Run.stop "--checkpoint-file is a required argument."
    throw .unsupported
  let some dataset := c.entries.get? "dataset" | throw .key
  let dataset ← Run.orFail .property dataset.text?
  let name ← textOf (c.entries.get? "weights")
  let set ← SampleWeights.load dataset name (← Run.lift (c.layers.mapM Layer.weightLayer))
  let biasName ← textOf (c.entries.get? "bias")
  let without := ((Arguments.get args "no_bias").ints?).getD []
  let bias ← SampleWeights.loadBias c.layers.length biasName without
  return .ofSet set bias

def matchWeights (c : NetworkConfig) (w : Weights) : Run Weights := do
  let n := c.layers.length
  let w := if n > w.kernels.length then insertEmpty c.layers w else w
  let found := w.kernels.length
  if found != n then
    Run.stop s!"Number of layers in the YAML configuration file ({n}) does not match the checkpoint file ({found})."
  return w

def checkOffsets (c : NetworkConfig) (d : Device) : Run Unit := do
  let limit := 4 * d.memorySize
  for l in c.layers do
    let p ← Run.lift (Layer.intOf l.outputOffset)
    if p < 0 || p ≥ limit then
      Run.stop ("Unsupported value for `out_offset` in YAML configuration. Supported on this "
        ++ s!"device: 0 to 0x{Text.hex 4 limit}.")

def loadData (args : Arguments) (c : NetworkConfig) : Run Tensor := do
  let some dataset := c.entries.get? "dataset" | throw .key
  Run.putLine s!"Configuring data set: {dataset.shown}."
  let file ← match Arguments.get args "sample_input" with
    | .null => do
      let name ← Run.orFail .property dataset.text?
      pure (joinPath "tests" s!"sample_{name.toLower}.npy")
    | v => pure v.shown
  let o ← Run.options
  let data ← SampleData.load file o.synthesizeInput o.synthesizeWords
  let lo ← Run.orFail .value data.minimum?
  let hi ← Run.orFail .value data.maximum?
  if hi > 127 || lo < -128 then
    Run.stop (s!"Input data {file} contains values that are outside the limits of signed 8-bit "
      ++ s!"(data min={lo}, max={hi})!")
  if data.rank < 3 then Run.orFail .value (data.reshape? (data.shape ++ [1])) else return data

def reducePrecision (format : Int) (data : Tensor) : Run Tensor := do
  let masked (bits : Nat) (x : Int) : Int := x.fdiv (2 ^ bits) * 2 ^ bits
  if format = 555 || format = 565 then
    Run.check (data.dim 0 == 3)
    let plane := data.size / 3
    return Tensor.ofFn data.shape fun k =>
      masked (if format = 565 && k / plane = 1 then 2 else 3) (data.flat k)
  else return data

def layersOf (c : NetworkConfig) (w : Weights) : Except Failure (Array Layer) := do
  let layers ← (c.layers.zipIdx).mapM fun (l, i) => do
    let layer ← Layer.ofConfig l
    return { layer with
      kernel := (w.kernels[i]?).getD none
      bias := (w.bias[i]?).getD none
      inputChannels := (w.inputChannels[i]?).getD 0
      outputChannels := (w.outputChannels[i]?).getD 0
      outputShift := (w.outputShifts[i]?).getD none }
  return layers.toArray

/-- The processors of the output of the network: as configured, or as few as possible from the
first one on. -/
def finalProcessors (d : Device) (c : NetworkConfig) (l : Layer) : Except Failure Nat := do
  match c.entries.get? "output_map" with
  | some v => return (← Layer.intOf v).toNat
  | none =>
    match l.outputProcessors with
    | some p => return p
    | none =>
      let n := l.outputChannels
      let max : Int := d.maxProcessors
      if max = 0 then throw .divisionByZero
      let expand := (n + max - 1).fdiv max
      if expand = 0 then throw .divisionByZero
      let chunk := (n + expand - 1).fdiv expand
      let chunk := if n > max then min (Bits.roundUp4 chunk) max else chunk
      return 2 ^ chunk.toNat - 1

def overrideLayers (args : Arguments) (start : Nat) (layers : Array Layer) :
    Except Failure (Array Layer) := do
  let off := Arguments.isSet args "ignore_streaming"
  let layers := layers.map fun l => { l with
    streaming := l.streaming && !off
    calcx4 := l.calcx4 || Arguments.isSet args "calcx4"
    readAhead := l.readAhead || Arguments.isSet args "rd_ahead" }
  let streaming := ((Arguments.get args "streaming_layers").ints?).getD []
  let layers ← streaming.foldlM (fun ls e => modifyAt ls e fun l => { l with streaming := true }) layers
  match (Arguments.get args "input_offset").int? with
  | some n => modifyAt layers start fun l => { l with inputOffset := some n }
  | none => return layers

def impliedOptions (o : Options) : Options :=
  let o := if o.riscvDebug then { o with riscv := true } else o
  let o := if o.riscvCache then { o with riscv := true, riscvFlash := true } else o
  let o := if o.riscvFlash || o.riscvExclusive then { o with riscv := true } else o
  let o := if o.fastFifoQuad then { o with fastFifo := true } else o
  if o.fastFifo then { o with fifo := true } else o

def assemble (args : Arguments) : Run Network := do
  Device.select (Arguments.get args "device")
  adjustDevice args
  CommandLine.apply args
  let config ← Config.load ((Arguments.get args "config_file").text?.getD "")
  let d ← Run.device
  let weights ← matchWeights config (← loadWeights args config)
  checkOffsets config d
  let data ← loadData args config
  let layers ← Run.lift (layersOf config weights)
  let start := (← Run.options).startLayer
  let trace ← Run.perform <| traceSequence
    { start
      stopAfter := (Arguments.get args "stop_after").int?
      linkLayer := d.features.linkLayer
      inputChannels := data.dim 0 } layers
  let last := trace.last.toNat
  let final := (trace.final.getD trace.last)
  let layers ←
    if d.features.usesProcessors then do
      let l ← Run.lift (elementAt trace.layers final)
      let p ← Run.lift (finalProcessors d config l)
      Run.lift (modifyAt trace.layers final fun l => { l with outputProcessors := some p })
    else pure trace.layers
  let spare := layers.extract (last + 1)
  let layers ← Run.lift (overrideLayers args start (layers.extract 0 (last + 1)))
  let data ← reducePrecision (← Run.options).inputCsvFormat data
  let layers ← Run.perform <| traceDimensions
    { start
      finalLayer := final
      total := config.layers.length
      inputDim := [data.dim 1, data.dim 2]
      features := d.features
      maxRowCol := d.maxRowCol } layers
  let isSet := Arguments.isSet args
  if isSet "riscv" && !isSet "riscv_cache" && isSet "embedded_code" then
    Run.stop "Embedded code on RISC-V requires --riscv-cache."
  let snoop ← match config.entries.get? "snoop" with
    | some v => Run.lift (Layer.optListOf v)
    | none => pure none
  Run.modifyOptions fun o =>
    impliedOptions { o with finalLayer := final, firstLayer := trace.first.toNat }
  return { layers, spare, hasBias := weights.bias.any Option.isSome, data,
           finalLayer := final.toNat, firstLayer := trace.first.toNat, snoop }

end Network

end CnnForge
