import CnnForge.Accelerator.Plan
import CnnForge.BiasMemory.Plan
import CnnForge.KernelMemory.Packing

namespace CnnForge.Accelerator

namespace PlannedLayer

def poolingText (l : PlannedLayer) : String :=
  if l.pools then
    let kind := if l.poolAverage then "avg" else "max"
    let dilation := if l.poolDilation.anyAbove 1 then
      s!" and dilation {l.slashed l.poolDilation}" else ""
    s!"{l.poolText} {kind} pool with stride {l.slashed l.poolStride}{dilation}"
  else "no pooling"

def convolutionText (l : PlannedLayer) : String :=
  if l.isPassthrough then ", no convolution, "
  else
    let activation := Activation.name l.activation
    let dilation := if l.dilation.anyAbove 1 then
      s!"dilation {l.slashed l.dilation}, " else ""
    (s!", {l.operator.name} with kernel size {l.crossed l.kernelSize}, stride {l.slashed l.stride}, "
      ++ s!"pad {l.slashed l.padding}, {activation}, {dilation}")

def description (l : PlannedLayer) (number : Nat) : String :=
  let operands := if l.operands > 1 then s!"{l.operands}x" else ""
  let streaming := if l.streaming then "streaming " else ""
  let flat := if l.flatten then
    s!"flattened to {l.inputChannels * l.inputSize.product}x1x1, " else ""
  let format := if l.bigData then "CHW" else "HWC"
  s!"// Layer {number}: {operands}{l.inputChannels}x{l.inputText} ({streaming}{flat}{format} data), "
    ++ l.poolingText ++ l.convolutionText ++ s!"{l.outputChannels}x{l.outputText} output\n"

end PlannedLayer

def Plan.repetitions (p : Plan) (count : Nat) : List (Nat × Nat) :=
  (List.range count).flatMap fun r => p.used.map fun i => (r * p.layers.size + i, i)

def Plan.description (p : Plan) (o : Options) : String :=
  let total := o.repeatLayers * p.layers.size
  let plural := if total > 1 then "s" else ""
  s!"// Configuring {total} layer{plural}:\n"
    ++ String.join ((p.repetitions o.repeatLayers).map fun (n, i) => (p.layer i).description n)
    ++ "\n"

def Plan.each (p : Plan) (f : PlannedLayer → String) : String :=
  Text.bracketed (p.layers.toList.map f)

def pairText (p : Pair) : String := Text.bracketed (p.toList.map toString)

def intsText (xs : List Int) : String := Text.bracketed (xs.map toString)

def nextText (n : Int) : String := if n = -1 then "stop" else toString n

def BiasGroup.text : BiasGroup → String
  | .none => "None"
  | .all => "'all'"
  | .one g => toString g

structure Placement where
  kernels : List KernelSpan
  bias : BiasPlan

def entry (title text : String) : String := Text.padRight 19 title ++ " = " ++ text ++ "\n"

def entryIf (b : Bool) (title text : String) : String := if b then entry title text else ""

def Plan.globalListing (p : Plan) (b : BiasPlan) : String :=
  let next := p.layers.toList.map (·.next)
  let plain := next.zipIdx.all fun (s, i) => s == (i : Int) + 1 || (s == -1 && i == p.final)
  "\nGlobal configuration:\n---------------------\n"
    ++ entry "Used processors" ("0x" ++ Text.hex 16 p.processorsUsed)
    ++ entry "Used groups" (Text.bracketed (p.groupsUsed.map toString))
    ++ entryIf (p.start > 0) "Starting layer" (toString p.start)
    ++ entryIf (!plain) "Next layer sequence" (Text.bracketed (next.map nextText))
    ++ "\nPer-group configuration:\n-----------------------\n"
    ++ entry "Used bias memory" (Text.bracketed (b.tops.map toString))

def Plan.inputListing (p : Plan) (o : Options) : String :=
  let each := p.each
  let any (f : PlannedLayer → Bool) : Bool := p.layers.any f
  let groups (g : List Nat) : String := Text.bracketed (g.map toString)
  let offset (k : Int) : String := "0x" ++ Text.hex 4 k
  "\nPer-layer configuration:\n------------------------\n"
    ++ entryIf (o.repeatLayers > 1) "Layer repeat count" (toString o.repeatLayers)
    ++ entry "Group map" (each fun l => Text.orNone groups l.groupMap)
    ++ entry "Input offset" (each fun l => (l.inputOffset.map offset).getD "N/A")
    ++ entry "Streaming" (each fun l => Text.truth l.streaming)
    ++ entry "Input channels" (each fun l => toString l.inputChannels)
    ++ entry "Input dimensions" (each fun l => Text.orNone intsText l.inputDim)
    ++ entry "Flatten" (each fun l => Text.truth l.flatten)
    ++ entryIf (any fun l => l.inputSkip > 0) "Input skip" (each fun l => toString l.inputSkip)
    ++ entryIf (any fun l => l.inputChannelSkip > 0) "Input channel skip"
      (each fun l => toString l.inputChannelSkip)
    ++ entry "Input expansion" (each fun l => toString l.inExpand)
    ++ entry "Expansion threshold" (each fun l => toString l.inExpandThresh)
    ++ entry "Pooling" (each fun l => pairText l.pool)
    ++ entryIf (any fun l => l.poolDilation != .both 1) "Pooling dilation"
      (each fun l => pairText l.poolDilation)
    ++ entry "Pooling stride" (each fun l => pairText l.poolStride)
    ++ entry "Pooled dimensions" (each fun l => Text.orNone pairText l.pooledDim)
    ++ entry "Processor map" (each fun l => "0x" ++ Text.hex 16 l.processors)
    ++ entry "Element-wise op" (each fun l => l.elementwise.name)
    ++ entry "Operand expansion" (each fun l => toString l.operands)

def Plan.outputListing (p : Plan) (m : Placement) : String :=
  let each := p.each
  let any (f : PlannedLayer → Bool) : Bool := p.layers.any f
  let map (k : Nat) : String := "0x" ++ Text.hex 16 k
  let offsets (b : BiasPlace) : String := Text.bracketed (b.offsets.map (Text.orNone toString))
  let activation (a : Option Activation) : String :=
    match a with
    | none => "no"
    | a => Activation.name a
  entry "Output channels" (each fun l => toString l.outputChannels)
    ++ entry "Output dimensions" (each fun l => Text.orNone pairText l.outputDim)
    ++ entry "Output expansion" (each fun l => toString l.outExpand)
    ++ entry "Expansion threshold" (each fun l => toString l.outExpandThresh)
    ++ entry "Output shift" (each fun l => Text.orNone toString l.outputShift)
    ++ entry "Output processors" (each fun l => (l.outputProcessors.map map).getD "N/A")
    ++ entry "Output data bits" (each fun l => toString l.outputWidth)
    ++ entry "Group with bias" (Text.bracketed (m.bias.places.map fun b => BiasGroup.text b.group))
    ++ entry "Bias offset" (Text.bracketed (m.bias.places.map offsets))
    ++ entry "Output offset" (each fun l => "0x" ++ Text.hex 4 l.outputOffset)
    ++ entry "Operator" (each fun l => l.operator.name)
    ++ entry "Activation" (each fun l => activation l.activation)
    ++ entry "Kernel offset" (intsText (m.kernels.map (·.offset)))
    ++ entry "Kernel length" (intsText (m.kernels.map (·.length)))
    ++ entry "Kernel count" (intsText (m.kernels.map (·.count)))
    ++ entry "Kernel dimensions" (each fun l => pairText l.kernelSize)
    ++ entryIf (any fun l => l.dilation != .both 1) "Dilation" (each fun l => pairText l.dilation)
    ++ entry "Kernel size (bits)" (each fun l => if l.bits ≥ 0 then toString l.bits else "b")
    ++ entryIf (any (·.bypass)) "Kernel bypass" (each fun l => Text.truth l.bypass)
    ++ entry "Convolution groups" (each fun l => toString l.groups)
    ++ entry "Padding" (each fun l => pairText l.padding)
    ++ entry "Stride" (each fun l => pairText l.stride)
    ++ "\n"

def Plan.listing (p : Plan) (o : Options) (m : Placement) : String :=
  p.globalListing m.bias ++ p.inputListing o ++ p.outputListing m

end CnnForge.Accelerator
