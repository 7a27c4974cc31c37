import CnnForge.Config.Layer
import CnnForge.Text.Numeral

namespace CnnForge

attribute [local instance (2000)] instPowNat

structure NetworkConfig where
  entries : Value
  layers : List LayerConfig
deriving Repr, Inhabited

namespace Config

structure ConfigState where
  layers : List (Nat × LayerConfig) := []
  commonPadding : List Value := [.int 1, .int 1]
  changed : List (Nat × Value) := []
  warnings : List String := []
deriving Inhabited

abbrev Configure := EStateM ConfigFault ConfigState

structure Limits where
  layers : Nat
  processors : Nat
  usesProcessors : Bool

def fail (f : Failure) : Configure α := throw (.failure f)

def warn (message : String) : Configure Unit :=
  modify fun s => { s with warnings := s.warnings ++ [message] }

/-- The keys of a table; the elements of a list and the letters of a text count as keys. -/
def keysOf : Value → Except Failure (List Value)
  | .table es => pure (es.map (·.1))
  | .list xs | .named _ xs =>
    if xs.any fun x => x.list?.isSome || (match x with | .table _ => true | _ => false) then
      throw .kind
    else pure xs
  | .text s => pure (s.toList.map fun c => .text (String.singleton c))
  | _ => throw .kind

/-- The entry of a table. A list has an entry for each of its elements, which cannot be read. -/
def setting? (v : Value) (key : String) : Except Failure (Option Value) :=
  match v with
  | .list xs | .named _ xs => if (Value.text key).isOneOf xs then throw .kind else pure none
  | v => pure (v.get? key)

def hasOtherKeys (known : List String) (v : Value) : Except Failure Bool := do
  return (← keysOf v).any fun k => !k.isOneOf (known.map .text)

def current (changed : List (Nat × Value)) (n : Nat) (xs : List Value) : List Value :=
  match changed.lookup n with
  | some v => xs.set 1 v
  | none => xs

mutual

def updated (changed : List (Nat × Value)) : Value → Value
  | .named n xs => .list (current changed n (updatedList changed xs))
  | .list xs => .list (updatedList changed xs)
  | .table es => .table (updatedEntries changed es)
  | v => v

def updatedList (changed : List (Nat × Value)) : List Value → List Value
  | [] => []
  | v :: vs => updated changed v :: updatedList changed vs

def updatedEntries (changed : List (Nat × Value)) : List (Value × Value) → List (Value × Value)
  | [] => []
  | (k, v) :: es => (k, updated changed v) :: updatedEntries changed es

end

def present (v : Value) : Configure Value := do return updated (← get).changed v

structure LayerEntry where
  entries : Value
  sequence : Value

namespace LayerEntry

def stop (e : LayerEntry) (p : LayerProblem) : Configure α := throw (.layer e.sequence p)

def find? (e : LayerEntry) (key : String) : Configure (Option Value) :=
  match setting? e.entries key with
  | .error f => fail f
  | .ok v => pure v

def findFirst? (e : LayerEntry) : List String → Configure (Option (String × Value))
  | [] => pure none
  | key :: keys => do
    match ← e.find? key with
    | some v => return some (key, v)
    | none => e.findFirst? keys

def flag (e : LayerEntry) (key : String) (default : Bool) : Configure Bool := do
  return ((← e.find? key).map Value.truth).getD default

def value (e : LayerEntry) (key : String) (default : Value) : Configure Value := do
  return (← e.find? key).getD default

end LayerEntry

def isBelow (v : Value) (n : Int) : Configure Bool :=
  match v.int?, v.real? with
  | some m, _ => pure (m < n)
  | none, some x => pure (x < Float.ofInt n)
  | none, none => fail .kind

def isAbove (v : Value) (n : Int) : Configure Bool :=
  match v.int?, v.real? with
  | some m, _ => pure (m > n)
  | none, some x => pure (x > Float.ofInt n)
  | none, none => fail .kind

def lowerCase : Value → Configure String
  | .text s => pure s.toLower
  | _ => fail .property

def processorMap : Value → Value
  | .text s => ((Text.readInt? 16 (s.replace "." "")).map .int).getD (.text s)
  | v => v

def readProcessors (e : LayerEntry) (limits : Limits) (key : String) (v : Value) :
    Configure Value := do
  let v := processorMap v
  match v.int? with
  | some n =>
    if n < 1 || n ≥ 2 ^ limits.processors then
      e.stop (.processorRange key limits.processors)
    return v
  | none => e.stop (.processorRange key limits.processors)

def processorSettings (limits : Limits) (e : LayerEntry) (l : LayerConfig) :
    Configure LayerConfig := do
  unless limits.usesProcessors do return { l with processors := .int 1 }
  let v ← e.value "processors" .null
  if v matches .null then e.stop .noProcessors
  let processors ← readProcessors e limits "processors" v
  let outputProcessors ← match ← e.find? "output_processors" with
    | some v => readProcessors e limits "output_processors" v
    | none => pure .null
  return { l with processors, outputProcessors }

def poolSettings (e : LayerEntry) (l : LayerConfig) : Configure LayerConfig := do
  let l ← match ← e.findFirst? ["max_pool", "avg_pool"] with
    | some (key, v) =>
      pure { l with pool := .ofValue v, pooling := true, average := key == "avg_pool" }
    | none => pure l
  match ← e.find? "pool_stride" with
  | some v => return { l with poolStride := .ofValue v }
  | none => return l

def quantizationSetting (e : LayerEntry) (l : LayerConfig) : Configure LayerConfig := do
  match ← e.find? "quantization" with
  | some v =>
    let v := match v with
      | .text s => .text s.toLower
      | v => v
    if v.isOneOf [.text "bin", .text "binary"] then return { l with quantization := .int (-1) }
    unless v.isOneOf [.int 1, .int 2, .int 4, .int 8] do e.stop .quantization
    return { l with quantization := v }
  | none => return l

def dataSettings (e : LayerEntry) (l : LayerConfig) : Configure LayerConfig := do
  let outputShift ← e.value "output_shift" .null
  let inputChannels ← e.value "in_channels" .null
  let inputDim ← e.value "in_dim" .null
  if inputDim.list?.any (·.length > 2) then e.stop .inputDimensions
  let inputSkip ← e.value "in_skip" (.int 0)
  let inputChannelSkip ← e.value "in_channel_skip" (.int 0)
  let inputOffset ← e.value "in_offset" .null
  let outputChannels ← e.value "out_channels" .null
  let outputOffset ← match ← e.find? "out_offset" with
    | some v => pure v
    | none => do
      let n := e.sequence.shown
      warn s!"Defaulting to `out_offset = 0` for layer sequence {n} in YAML configuration."
      pure (.int 0)
  return { l with
    outputShift, inputChannels, inputDim, inputSkip, inputChannelSkip, inputOffset, outputChannels
    outputOffset }

def activationSetting (e : LayerEntry) (l : LayerConfig) : Configure LayerConfig := do
  match ← e.findFirst? ["activate", "activation"] with
  | some (key, v) =>
    match ← lowerCase v with
    | "relu" => return { l with activation := some .relu }
    | "abs" => return { l with activation := some .abs }
    | "none" => return { l with activation := none }
    | _ => e.stop (.unknownValue key v)
  | none => return l

def elementwise? : String → Option Elementwise
  | "add" => some .add
  | "or" => some .or
  | "sub" => some .sub
  | "xor" => some .xor
  | _ => none

def operatorSetting (e : LayerEntry) (l : LayerConfig) : Configure LayerConfig := do
  match ← e.findFirst? ["convolution", "operation", "operator", "op"] with
  | some (key, v) =>
    let passing : LayerConfig := { l with operator := .passthrough, padding := .ofInts 0 0 }
    let name ← lowerCase v
    match name with
    | "conv1d" => return { l with operator := .conv1d }
    | "conv2d" => return { l with operator := .conv2d }
    | "convtranspose2d" => return { l with operator := .convTranspose2d }
    | "none" | "passthrough" => return passing
    | "linear" | "fc" | "mlp" =>
      return { l with operator := .linear, kernelSize := (1, 1), padding := .ofInts 0 0 }
    | _ =>
      match elementwise? name with
      | some w => return { passing with elementwise := w, operands := .int 2 }
      | none => e.stop (.unknownValue key v)
  | none =>
    warn s!"Defaulting to `op: Conv2d` for layer sequence {e.sequence.shown} in YAML configuration."
    return l

def shapeSettings (e : LayerEntry) (l : LayerConfig) : Configure LayerConfig := do
  let l ← match ← e.find? "pad" with
    | some v =>
      if ← isBelow v 0 then e.stop (.negative "pad" v)
      pure { l with padding := .both v }
    | none => pure l
  match ← e.find? "dilation" with
  | some v =>
    if l.operator == .passthrough then e.stop .dilationOperator
    return { l with dilation := .ofValue v }
  | none => return l

def operandSettings (e : LayerEntry) (l : LayerConfig) : Configure LayerConfig := do
  let l ← match ← e.find? "eltwise" with
    | some v =>
      match elementwise? (← lowerCase v) with
      | some w => pure { l with elementwise := w, operands := .int 2 }
      | none => e.stop (.unknownValue "eltwise" v)
    | none => pure l
  let l := { l with poolFirst := ← e.flag "pool_first" l.poolFirst }
  match ← e.find? "operands" with
  | some v =>
    unless l.elementwise.isOperator do e.stop .operandsOperator
    if ← isBelow v 2 then e.stop .operandsRange
    if ← isAbove v 16 then e.stop .operandsRange
    return { l with operands := v }
  | none => return l

def formatSettings (e : LayerEntry) (l : LayerConfig) : Configure LayerConfig := do
  let l ← match ← e.find? "data_format" with
    | some v =>
      match ← lowerCase v with
      | "chw" | "big" => pure { l with bigData := true }
      | "hwc" | "little" => pure l
      | _ => e.stop .dataFormat
    | none => pure l
  match ← e.find? "output_width" with
  | some v =>
    unless v.isOneOf [.int 8, .int 32] do e.stop .outputWidth
    return { l with outputWidth := v }
  | none => return l

def kernelsOfSize (e : LayerEntry) (l : LayerConfig) (size : String) : Configure LayerConfig := do
  match l.operator with
  | .conv2d =>
    match size with
    | "1x1" => return { l with kernelSize := (1, 1) }
    | "3x3" => return { l with kernelSize := (3, 3) }
    | _ => e.stop (.unsupported "kernel_size" size)
  | .convTranspose2d =>
    if size == "3x3" then return { l with kernelSize := (3, 3) }
    else e.stop (.unsupported "kernel_size" size)
  | _ =>
    match Text.readInt? 10 size with
    | some n =>
      if n < 1 || n > 9 then e.stop (.unsupported "kernel_size" (toString n))
      return { l with kernelSize := (n, 1) }
    | none => e.stop (.unsupported "kernel_size" size)

def kernelSetting (e : LayerEntry) (l : LayerConfig) : Configure LayerConfig := do
  match ← e.find? "kernel_size" with
  | some v =>
    if l.operator == .linear then e.stop .linearKernel
    kernelsOfSize e l (← present v).shown.toLower
  | none =>
    if l.operator == .conv1d then return { l with kernelSize := (9, 1) } else return l

def strideValue (e : LayerEntry) (v : Value) : Configure Value := do
  match v.list?, (← present v).list? with
  | some (x :: _), some (x' :: y' :: _) =>
    unless x'.same y' do e.stop .unequalStride
    return x
  | some _, _ => fail .index
  | none, _ => return v

def strideSetting (e : LayerEntry) (l : LayerConfig) : Configure LayerConfig := do
  match ← e.find? "stride" with
  | some v =>
    let v ← strideValue e v
    if l.pooling then
      unless v.same (.int 1) do e.stop .poolingStride
      return l
    else
      if l.operator == .convTranspose2d && !v.same (.int 2) then e.stop .transposeStride
      return { l with stride := .both v }
  | none => return l

/-- A sequence number, or `stop`, which is -1. -/
def sequenceOrStop : Value → Value
  | .text s => if s.toLower == "stop" then .int (-1) else .text s
  | v => v

def sequenceSettings (e : LayerEntry) (l : LayerConfig) : Configure LayerConfig := do
  let streaming ← e.flag "streaming" l.streaming
  let flatten ← e.flag "flatten" l.flatten
  let inSequences := match ← e.find? "in_sequences" with
    | some v => if v.list?.isSome then v else .list [v]
    | none => .null
  let nextSequence := sequenceOrStop (← e.value "next_sequence" .null)
  let simulatedSequence := sequenceOrStop (← e.value "simulated_sequence" .null)
  let snoopSequence ← e.value "snoop_sequence" .null
  return { l with
    streaming, flatten, inSequences, nextSequence, simulatedSequence, snoopSequence }

def groupSettings (e : LayerEntry) (l : LayerConfig) : Configure LayerConfig := do
  let convGroups := match ← e.findFirst? ["conv_groups", "groups"] with
    | some (_, v) => v
    | none => .int 1
  let writeGap ← e.value "write_gap" (.int 0)
  let bypass ← e.flag "bypass" false
  let biasGroups := match ← e.value "bias_group" .null with
    | .int n => .list [.int n]
    | .bool b => .list [.bool b]
    | v => v
  let calcx4 ← e.flag "calcx4" false
  let tcalc := (← e.find? "tcalc").map Value.truth
  let readAhead ← e.flag "readahead" false
  return { l with convGroups, writeGap, bypass, biasGroups, calcx4, tcalc, readAhead }

def outputSettings (e : LayerEntry) (l : LayerConfig) : Configure LayerConfig := do
  let l ← match ← e.find? "pool_dilation" with
    | some v =>
      unless l.pooling do e.stop .poolDilation
      pure { l with poolDilation := .ofValue v }
    | none => pure l
  match ← e.find? "output_pad" with
  | some v =>
    if ← isBelow v 0 then e.stop (.negative "output_pad" v)
    return { l with outputPadding := .both v }
  | none =>
    if l.operator == .convTranspose2d then return { l with outputPadding := .ofInts 1 1 }
    else return l

def setSecond (v : Value) : List Value → Configure (List Value)
  | x :: _ :: xs => pure (x :: v :: xs)
  | _ => fail .index

/-- A setting with `v` for columns. A list with a name changes wherever it is used. -/
def setColumns (v : Value) : ListSetting → Configure ListSetting
  | .common => do
    let xs ← setSecond v (← get).commonPadding
    modify fun s => { s with commonPadding := xs }
    return .common
  | .own xs => do return .own (← setSecond v xs)
  | .named n xs => do
    if xs.length < 2 then fail .index
    modify fun s => { s with changed := (n, v) :: s.changed }
    return .named n xs

def operatorFixes (l : LayerConfig) : Configure LayerConfig := do
  match l.operator with
  | .conv1d =>
    let padding ← setColumns (.int 0) l.padding
    let pool ← setColumns (.int 1) l.pool
    let poolStride ← setColumns (.int 1) l.poolStride
    let stride ← setColumns (.int 1) l.stride
    return { l with padding, pool, poolStride, stride }
  | .passthrough => return { l with kernelSize := (1, 1) }
  | .convTranspose2d => return { l with stride := .ofInts 2 2 }
  | _ => return l

def readSettings (limits : Limits) (e : LayerEntry) : Configure LayerConfig := do
  let l ← processorSettings limits e {}
  let l ← poolSettings e l
  let l ← quantizationSetting e l
  let l ← dataSettings e l
  let l ← activationSetting e l
  let l ← operatorSetting e l
  let l ← shapeSettings e l
  let l ← operandSettings e l
  let l ← formatSettings e l
  let l ← kernelSetting e l
  let l ← strideSetting e l
  let l ← sequenceSettings e l
  let l ← groupSettings e l
  outputSettings e l

def readLayer (limits : Limits) (e : LayerEntry) : Configure LayerConfig := do
  operatorFixes (← readSettings limits e)

def layerKeys : List String :=
  ["max_pool", "avg_pool", "convolution", "conv_groups", "dilation", "groups", "in_channels",
   "in_dim", "in_sequences", "in_skip", "in_channel_skip", "in_offset", "kernel_size",
   "pool_stride", "out_channels", "out_offset", "activate", "activation", "data_format", "eltwise",
   "flatten", "op", "operands", "operation", "operator", "output_processors", "output_width",
   "output_shift", "pool_first", "processors", "pad", "quantization", "next_sequence",
   "snoop_sequence", "simulated_sequence", "sequence", "streaming", "stride", "write_gap",
   "bypass", "bias_group", "calcx4", "readahead", "pool_dilation", "output_pad", "tcalc"]

/-- The position of a sequence number. Negative numbers count from the last possible layer. -/
def position (limits : Limits) (e : LayerEntry) : Configure (Nat × Int) := do
  if ← isAbove e.sequence ((limits.layers : Int) - 1) then e.stop (.tooManyLayers limits.layers)
  match e.sequence.int? with
  | none => fail .kind
  | some n =>
    if n ≥ 0 then return (n.toNat, n)
    else if -n ≤ limits.layers then return ((limits.layers + n).toNat, n)
    else fail .index

def insertLayer (place : Nat) (l : LayerConfig) : List (Nat × LayerConfig) → List (Nat × LayerConfig)
  | [] => [(place, l)]
  | x :: xs => if place < x.1 then (place, l) :: x :: xs else x :: insertLayer place l xs

def addLayer (limits : Limits) (entries : Value) (next : Int) : Configure Int := do
  match hasOtherKeys layerKeys (← present entries) with
  | .error f => fail f
  | .ok true => throw .unknownLayerKeys
  | .ok false => pure ()
  let e : LayerEntry := { entries, sequence := .int next }
  let e := { e with sequence := (← e.find? "sequence").getD e.sequence }
  let (place, n) ← position limits e
  if ((← get).layers.lookup place).isSome then e.stop .repeated
  let l ← readLayer limits e
  modify fun s => { s with layers := insertLayer place l s.layers }
  return n + 1

def addLayers (limits : Limits) : List Value → Int → Configure Unit
  | [], _ => pure ()
  | v :: vs, next => do addLayers limits vs (← addLayer limits v next)

def resolve (s : ConfigState) : ListSetting → ListSetting
  | .common => .own s.commonPadding
  | .own xs => .own (updatedList s.changed xs)
  | .named n xs => .own (current s.changed n (updatedList s.changed xs))

def resolveLayer (s : ConfigState) (l : LayerConfig) : LayerConfig :=
  { l with
    processors := updated s.changed l.processors
    outputProcessors := updated s.changed l.outputProcessors
    inputOffset := updated s.changed l.inputOffset
    inputChannels := updated s.changed l.inputChannels
    inputSkip := updated s.changed l.inputSkip
    inputChannelSkip := updated s.changed l.inputChannelSkip
    inputDim := updated s.changed l.inputDim
    outputChannels := updated s.changed l.outputChannels
    outputOffset := updated s.changed l.outputOffset
    padding := resolve s l.padding
    outputPadding := resolve s l.outputPadding
    pool := resolve s l.pool
    poolStride := resolve s l.poolStride
    poolDilation := resolve s l.poolDilation
    quantization := updated s.changed l.quantization
    outputShift := updated s.changed l.outputShift
    outputWidth := updated s.changed l.outputWidth
    operands := updated s.changed l.operands
    dilation := resolve s l.dilation
    stride := resolve s l.stride
    convGroups := updated s.changed l.convGroups
    inSequences := updated s.changed l.inSequences
    nextSequence := updated s.changed l.nextSequence
    simulatedSequence := updated s.changed l.simulatedSequence
    snoopSequence := updated s.changed l.snoopSequence
    writeGap := updated s.changed l.writeGap
    biasGroups := updated s.changed l.biasGroups }

def finishLayer (l : LayerConfig) (index : Nat) : Configure LayerConfig := do
  let l ← match l.poolStride.toList with
    | [] => fail .index
    | .null :: _ => do
      if l.pooling then warn s!"Using default pool stride of 1 in layer {index}."
      pure { l with poolStride := .ofInts 1 1 }
    | _ => pure l
  unless l.poolFirst do
    let e : LayerEntry := { entries := .null, sequence := .int index }
    if l.operands.same (.int 1) then e.stop .poolFirst
    match l.pool.toList with
    | [] => fail .index
    | p :: rest =>
      if p.same (.int 1) then
        match rest with
        | [] => fail .index
        | q :: _ => if q.same (.int 1) then e.stop .poolFirst
  return l

def finishLayers : List LayerConfig → Nat → Configure (List LayerConfig)
  | [], _ => pure []
  | l :: ls, index => do
    let l ← finishLayer l index
    return l :: (← finishLayers ls (index + 1))

def networkKeys : List String :=
  ["bias", "dataset", "layers", "output_map", "arch", "weights", "snoop"]

def elementsOf : Value → Except Failure (List Value)
  | .list xs | .named _ xs => pure xs
  | .table es => pure (es.map (·.1))
  | .text s => pure (s.toList.map fun c => .text (String.singleton c))
  | _ => throw .kind

def readNetwork (limits : Limits) (entries : Value) : Configure NetworkConfig := do
  let lift {α : Type} (x : Except Failure α) : Configure α :=
    match x with
    | .ok a => pure a
    | .error f => fail f
  if ← lift (hasOtherKeys networkKeys entries) then throw .unknownKeys
  let keys ← lift (keysOf entries)
  unless ["layers", "arch", "dataset"].all fun k => (Value.text k).isOneOf keys do
    throw .missingKeys
  let layers ← lift (setting? entries "layers")
  addLayers limits (← lift (elementsOf (layers.getD .null))) 0
  let s ← get
  let layers ← finishLayers (s.layers.map fun (_, l) => resolveLayer s l) 0
  return { entries := updated s.changed entries, layers }

end Config

end CnnForge
