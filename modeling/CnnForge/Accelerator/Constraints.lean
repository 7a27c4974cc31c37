import CnnForge.Accelerator.Plan
import CnnForge.Network.Dimensions

namespace CnnForge.Accelerator

open Checked

def checkFeatures (d : Device) (o : Options) (n : Network) : Checked Unit := do
  let f := d.features
  let lacks (asked has : Bool) (what : String) : Checked Unit :=
    refuseIf (asked && !has) s!"`{what}` is not supported on this device."
  lacks (o.startLayer > 0) f.linkLayer "--start-layer"
  refuseIf (o.startLayer > d.maxStartLayer)
    s!"`--start-layer` is set to {o.startLayer}, but the device only supports a maximum of {d.maxStartLayer}."
  lacks o.linkLayer f.linkLayer "--link-layer"
  lacks (n.layers.any (·.readAhead)) f.readAhead "readahead"
  lacks (n.layers.any (·.calcx4)) f.calcx4 "calcx4"
  lacks (o.pipeline == some true) f.pipeline "--pipeline"
  lacks (o.pll == some true) f.pll "--pll"
  lacks o.fifoGo f.fifoGo "--fifo-go"
  lacks n.snoop.isSome f.snoop "snoop"

def settleOptions (d : Device) (o : Options) : Options :=
  let pipeline := o.pipeline.getD d.features.pipeline
  let resultOutput := o.resultOutput && !(o.mlator || o.oneShot != 0 || o.stopStart)
  { o with
    rtlPreload := o.rtlPreload && !o.zeroSram
    pipeline := some pipeline
    pll := some (o.pll.getD pipeline)
    resultOutput
    maxCount := if resultOutput then none else o.maxCount
    compactWeights := o.compactWeights || o.expressWeights }

/-- Every seventh kernel is zero, so that cleared memory can be told apart. -/
def clearKernel (t : Tensor) : Tensor :=
  let each := t.size / t.dim 0
  Tensor.ofFn t.shape fun k => if k / each % 7 = 0 then 0 else t.flat k

def clearKernels (n : Network) : Checked Network := do
  for l in n.layers ++ n.spare do
    let t ← orFail .kind l.kernel
    if t.dim 0 = 0 then fail .index
  return { n with layers := n.layers.map fun l => { l with kernel := l.kernel.map clearKernel } }

def checkFifo (o : Options) (n : Network) (l : Layer) : Checked Bool := do
  let channels := l.inputChannels
  refuseIf (!o.fifo && o.synthesizeInput.isSome) "`--synthesize-input` requires `--fifo`"
  refuseIf (l.bigData && o.synthesizeInput.isSome)
    "`--synthesize-input` requires `data_format: HWC`"
  let mut group := o.fastFifo
  if o.fifo then
    refuseIf (o.startLayer != 0) "`--start_layer` must be 0 when using a FIFO."
    refuseIf (channels > 16 || (l.bigData && channels > 4))
      ("Using the FIFO is restricted to a maximum of 4 input channels (CHW) or 16 channels (HWC); "
        ++ s!"this test is using {channels} channels.")
    let allowed : Nat := if l.bigData then 0x0001000100010001 else 0x000f000f000f000f
    refuseIf (l.processors &&& allowed != l.processors)
      "The FIFO is restricted to processors 0, 16, 32, 48 (CHW) or 0-3, 16-19, 32-35, 48-51 (HWC)."
    if o.fastFifo then
      refuseIf (l.bigData && channels > 1)
        s!"Fast FIFO supports only a single CHW input channel; this test is using {channels} channels."
      refuseIf (!l.bigData && channels > 4)
        s!"Fast FIFO supports up to four HWC input channels; this test is using {channels} channels."
      if l.processors != 1 && l.processors &&& 0x0e == 0 then group := false
      refuseIf (l.outputWidth != 8) "Single-layer fast FIFO setup requires output width of 8."
      refuseIf (l.operator == .passthrough)
        "Fast FIFO requires a convolution operation in the first layer."
  else
    refuseIf (l.streaming && !o.allowStreaming)
      "Streaming in the first layer requires use of a FIFO."
  refuseIf (n.layers.any (·.streaming) && o.startLayer != 0)
    "`--start_layer` must be 0 when using streaming."
  return group

def checkStreaming (d : Device) (n : Network) : Checked Unit := do
  for i in List.range (min d.maxStreamLayers n.layers.size) do
    let l := n.layers.getD i default
    refuseIf (l.next != -1 && l.next != (i : Int) + 1 && l.streaming)
      s!"`next_sequence` must be {i + 1} when using streaming in layer {i}. Currently configured: {l.next}"
    if !d.features.streamUnpaddedFinal && l.streaming then
      let last ← if l.next = -1 then pure true
        else do pure !(← lift (elementAt n.layers l.next)).streaming
      refuseIf (last && (l.padding.row = 0 || l.padding.column = 0))
        s!"Padding for the final streaming layer (layer {i}) must not be zero."

def checkCombinations (d : Device) (o : Options) (n : Network) (terminating : Nat) : Checked Bool := do
  let l := n.layers.getD terminating default
  let mut mlator := o.mlator
  if o.mlator then
    let size ← lift l.outputPair
    if size.product < 4 || l.outputWidth > 8 then
      warn "--mlator should only be used with 4 or more 8-bit outputs per channel; ignoring."
      mlator := false
  if o.softmax && l.outputWidth = 8 then
    warn "--softmax should only be used with `output_width: 32`."
  refuseIf (o.fastFifo && !o.riscv) "--fast-fifo requires --riscv"
  refuseIf (o.sleep && !o.riscv) "--deepsleep requires --riscv"
  refuseIf (o.oneShot != 0 && o.timer.isSome) "--timer is not supported when using --one-shot"
  refuseIf (!d.features.kernelBypass && (n.layers.toList.drop n.firstLayer).any (·.bypass))
    "Kernel bypass is not supported on this device."
  return mlator

def checkShift (i : Nat) (l : PlannedLayer) : Checked Unit := do
  let given := if l.bypass then 0 else 8 - (l.bits.natAbs : Int)
  refuseIf (l.shift < -15 || l.shift > 15)
    (s!"Layer {i} with {l.bits.natAbs}-bit weight quantization supports an output_shift range of "
      ++ s!"[{-15 - given}, +{15 - given}]. The specified value of output_shift is {l.shift - given} "
      ++ "which exceeds the system limits.")

def sharesMemory (map : Nat) : Bool :=
  let p := map >>> (Bits.roundDown4 (Bits.lowest map)).toNat
  (List.range (p.log2 / 4 + 1)).any fun k => (p >>> (4 * k)) % 4 == 3

def passesOf (d : Device) (channels : Int) : Checked (Int × Int) := do
  let max : Int := d.maxProcessors
  if max = 0 then fail .divisionByZero
  let passes := (channels + max - 1).fdiv max
  if passes = 0 then fail .divisionByZero
  let each := (channels + passes - 1).fdiv passes
  return (passes, if channels > max then min (Bits.roundUp4 each) max else each)

def fillPasses (d : Device) (l : PlannedLayer) : Checked PlannedLayer := do
  let (outExpand, outExpandThresh) ← passesOf d l.outputChannels
  let (inExpand, inExpandThresh) ← passesOf d l.inputChannels
  let tcalc := l.tcalc.getD (l.readAhead && inExpand > 1)
  return { l with
    outExpand, outExpandThresh, inExpand, inExpandThresh
    tcalc := some tcalc
    inExpandInvol := if tcalc then Bits.roundUp4 inExpand else inExpand }

def memoryBytes (d : Device) : Int := d.instanceWidth * 16

def inputBytes (l : PlannedLayer) : Int :=
  l.inputSize.product * l.inExpand * l.operands * (if l.bigData then 1 else 4)

def outputBytes (l : PlannedLayer) : Int :=
  (l.outputSize.product * l.outExpand * 4 * l.outputWidth).fdiv 8

def checkMemory (d : Device) (terminating i : Nat) (l : PlannedLayer) : Checked Unit := do
  require (l.inputSize.product * l.inExpand < d.frameSizeMax)
  let limit := memoryBytes d
  refuseIf (!l.streaming && inputBytes l + l.inOffset > limit)
    (s!"Layer {i}: {if l.bigData then 1 else 4}-channel {l.inputSize.row}x{l.inputSize.column} "
      ++ s!"input (size {inputBytes l}) with input offset 0x{Text.hex 4 l.inOffset} and expansion "
      ++ s!"{l.inExpand}x exceeds data memory instance size of {limit}.")
  refuseIf ((!l.streaming || i = terminating) && outputBytes l + l.outputOffset > limit)
    (s!"Layer {i}: 4-channel, {l.outputWidth}-bit {l.outputSize.row}x{l.outputSize.column} output "
      ++ s!"(size {outputBytes l}) with output offset 0x{Text.hex 4 l.outputOffset} and expansion "
      ++ s!"{l.outExpand}x exceeds data memory instance size of {limit}.")

def checkPassthrough (d : Device) (i : Nat) (l : PlannedLayer) : Checked Unit := do
  refuseIf l.activation.isSome s!"Layer {i}: Pass-through layers must not use activation."
  refuseIf (l.padding.row != 0 || l.padding.column != 0)
    s!"Layer {i}: Padding must be zero for passthrough layers."
  refuseIf (l.shift != 0) s!"Layer {i}: `output_shift` must be zero for passthrough layers."
  refuseIf (l.pools && l.inExpand > d.maxPoolPasses && l.pooledSize.anyAbove 1)
    (s!"Layer {i}: pooling in passthrough layer uses {l.inExpand} passes, which exceeds the maximum "
      ++ s!"of {d.maxPoolPasses} on this device.")

def transposedPad (l : PlannedLayer) : Pair :=
  ⟨l.dilation.row * (l.kernelSize.row - 1) - l.padding.row,
   l.dilation.column * (l.kernelSize.column - 1) - l.padding.column⟩

def fillTram (d : Device) (i : Nat) (l : PlannedLayer) : Checked PlannedLayer := do
  if l.isPassthrough then
    checkPassthrough d i l
    return { l with tramMax := 1 }
  if l.operator == .convTranspose2d then
    let l := { l with effectivePad := transposedPad l }
    let within (p : Pair) (allowed : List Int) : Bool :=
      allowed.contains p.row && allowed.contains p.column
    refuseIf (!within l.padding d.transposePads)
      (s!"Layer {i}: The selected padding ({Dimensions.shownPair l.padding}) for ConvTranspose2d is "
        ++ "not supported on this device.")
    refuseIf (!within l.outputPadding d.transposeOutputPads)
      (s!"Layer {i}: The selected output padding ({Dimensions.shownPair l.outputPadding}) for "
        ++ "ConvTranspose2d is not supported on this device.")
    return { l with
      tramMax := max 0 ((l.pooledSize.column - 1) * l.stride.column + 1 + l.outputPadding.column
        + 2 * l.effectivePad.column - l.kernelSize.column) + 1 }
  return { l with
    tramMax := max 0 (l.pooledSize.column + 2 * l.effectivePad.column - l.kernelSize.column) + 1 }

def checkGroups (d : Device) (i : Nat) (l : PlannedLayer) : Checked Unit := do
  let g := l.groups
  if g = 0 then fail .divisionByZero
  refuseIf (l.inputChannels.fmod g != 0 || l.outputChannels.fmod g != 0)
    (s!"Layer {i}: convolution groups ({g}) does not divide the input channels ({l.inputChannels}) "
      ++ s!"or output channels ({l.outputChannels}).")
  refuseIf (l.flatten && l.isPassthrough)
    s!"Layer {i}: `flatten` is not compatible with passthrough layers."
  refuseIf (l.flatten && l.pools) s!"Layer {i}: `flatten` is not compatible with pooling."
  refuseIf (l.flatten && l.streaming) s!"Layer {i}: `flatten` is not compatible with streaming."
  if g > 1 then
    refuseIf (!d.features.depthwise)
      s!"Layer {i}: convolution groups ({g}) > 1 are not  supported on this device."
    refuseIf (g != l.inputChannels || g != l.outputChannels)
      (s!"Layer {i}: convolution groups ({g}) must be equal to the number of input channels "
        ++ s!"({l.inputChannels}), and output channels ({l.outputChannels}) must be equal to input "
        ++ "channels.")
    refuseIf l.flatten
      s!"Layer {i}: convolution groups ({g}) > 1 are not supported when flattening."
    refuseIf l.biasGroups.isSome
      s!"Layer {i}: `bias_group` is not supported for depth-wise layers."

def checkSteps (d : Device) (i : Nat) (l : PlannedLayer) : Checked Unit := do
  let outside (p : Pair) (limit : Nat) : Bool :=
    p.row < 1 || p.column < 1 || p.row > limit || p.column > limit
  refuseIf (l.inputSkip != 0 && !d.features.multiPassStride)
    s!"Layer {i}: `in_skip` must be 0 for this device."
  refuseIf (outside l.dilation d.maxDilation)
    s!"Layer {i}: `dilation` values must be 1 or greater, and {d.maxDilation} or smaller on this device."
  refuseIf (outside l.poolDilation d.maxPoolDilation)
    s!"Layer {i}: `pool_dilation` values must be 1 or greater, and {d.maxPoolDilation} or smaller on this device."

def checkInputs (layers : Array PlannedLayer) (i : Nat) (l : PlannedLayer) : Checked Unit := do
  let some sources := l.inSequences | return
  let shown := Dimensions.shownDim (some sources)
  let mapOf (s : Int) : Checked (Option Nat) := do
    return (← lift (elementAt layers s)).outputProcessors
  if l.operands = 1 then
    let mut first : Int := -1
    let mut last : Int := -1
    for s in sources do
      let map ← orFail .kind (← mapOf s)
      let lo := Bits.lowest map
      let hi := Bits.highest map
      refuseIf (lo ≤ first)
        (s!"Layer {i}: In `in_sequences` {shown}, an earlier layer in the sequence uses a higher "
          ++ s!"first processor ({first}) than layer {s} which uses processor {lo}.")
      refuseIf (hi ≤ last)
        (s!"Layer {i}: In `in_sequences` {shown}, an earlier layer in the sequence uses a higher "
          ++ s!"last processor ({last}) than layer {s} which uses processor {hi}.")
      first := lo
      last := hi
  else
    let mut earlier : Option Nat := some 0
    for s in sources do
      let map ← mapOf s
      if earlier != some 0 && earlier != map then
        let a ← orFail .kind earlier
        let b ← orFail .kind map
        stop (s!"Layer {i}: In `in_sequences` {shown}, an earlier layer in the sequence uses a "
          ++ s!"different output processor map (0x{Text.hex 16 a}) than layer {s} which uses "
          ++ s!"0x{Text.hex 16 b}.")
      earlier := map

def fillShift (l : PlannedLayer) : PlannedLayer :=
  { l with outputShift := some (l.outputShift.getD (if l.bypass then 7 else 0)) }

def checkFormat (i : Nat) (l : PlannedLayer) : Checked Unit := do
  if l.bigData then
    if l.processors = 0 then fail .value
    refuseIf (sharesMemory l.processors)
      (s!"Layer {i} uses CHW input format, but multiple channels share the same memory instance. "
        ++ s!"Modify the processor map for layer {i}.")

def fillSizes (l : PlannedLayer) : Checked PlannedLayer := do
  let inputSize ← lift l.inputPair
  let pooledSize ← lift l.pooledPair
  let outputSize ← lift l.outputPair
  return { l with inputSize, pooledSize, outputSize }

def planLayer (d : Device) (p : Plan) (i : Nat) : Checked PlannedLayer := do
  let l := fillShift (p.layer i)
  refuseIf (l.bits = 1 && p.binary)
    s!"Cannot combine binary quantization in layer {i} with 1-bit quantization."
  checkShift i l
  checkFormat i l
  let l ← fillPasses d l
  let l ← fillSizes l
  checkMemory d p.terminating i l
  refuseIf (l.operator == .conv1d && l.operands > 1)
    "Layer \x7bll\x7d: Element-wise operations cannot be combined with Conv1d."
  let l ← fillTram d i l
  refuseIf (l.operator != .convTranspose2d && l.outputPadding != .both 0)
    s!"Layer {i}: Output padding must be 0 for this operator."
  checkGroups d i l
  checkSteps d i l
  checkInputs p.layers i l
  return l

def terminatingLayer (n : Network) : Nat :=
  (n.layers.toList.findIdx? fun l => l.simulatedNext == some (-1)).getD n.finalLayer

def fourfold (map : Nat) : Nat := map <<< 48 ||| map <<< 32 ||| map <<< 16 ||| map

def Plan.ofNetwork (o : Options) (n : Network) (fifoGroup : Bool) : Plan :=
  let layers := n.layers.map fun l => { toLayer := l, effectivePad := l.padding : PlannedLayer }
  let layers := layers.map fun l => { l with quantization := some (l.quantization.getD 0) }
  let inputProcessors := (layers.getD o.startLayer default).processors
  let layers :=
    if o.fastFifoQuad then
      layers.modify o.startLayer fun l => { l with processors := fourfold inputProcessors }
    else layers
  { layers, spare := n.spare, hasBias := n.hasBias, data := n.data, start := o.startLayer,
    first := n.firstLayer, final := n.finalLayer, terminating := terminatingLayer n,
    snoop := n.snoop, inputProcessors, fifoGroup,
    binary := (layers.toList.drop n.firstLayer).any (·.bits == -1) }

def plan (d : Device) (o : Options) (n : Network) : Checked (Options × Plan) := do
  checkFeatures d o n
  let o := settleOptions d o
  let n ← if o.zeroSram || o.pretendZeroSram then clearKernels n else pure n
  let fifoGroup ← checkFifo o n (n.layers.getD o.startLayer default)
  checkStreaming d n
  let mlator ← checkCombinations d o n (terminatingLayer n)
  let p := Plan.ofNetwork o n fifoGroup
  refuseIf (p.binary && !d.features.binaryWeights)
    "Binary weights (-1/+1) are not supported on this device."
  let p ← p.used.foldlM (fun p i => do
    let l ← planLayer d p i
    return { p with layers := p.layers.set! i l }) p
  return ({ o with mlator }, p)

end CnnForge.Accelerator
