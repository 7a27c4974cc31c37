import CnnForge.Compute.Combination
import CnnForge.Simulator.Print

namespace CnnForge.Simulator

attribute [local instance (2000)] instPowNat

/-- `x` scaled by `2 ^ shift / 128`, rounded to the nearest integer, halves up. -/
def scaleOutput (shift : Int) (x : Int) : Int :=
  if shift ≥ 0 then (2 * x * 2 ^ shift.toNat + 128).fdiv 256
  else (2 * x + 128 * 2 ^ (-shift).toNat).fdiv (256 * 2 ^ (-shift).toNat)

def maxSigned (bits : Nat) : Int := 2 ^ (bits - 1) - 1

def saturate (bits : Nat) (x : Int) : Int :=
  min (maxSigned bits) (max (-(2 ^ (bits - 1) : Nat)) x)

def activate (bits : Nat) : Activation → Int → Int
  | .relu, x => min (maxSigned bits) (max 0 x)
  | .abs, x => min (maxSigned bits) (max 0 x.natAbs)
  | .unknown _, x => x

structure LayerSettings where
  layer : Int
  inputSize : List Int
  outputShift : Int
  outputChannels : Int
  activation : Option Activation
  bits : Nat := 8
  outputWidth : Int := 8
  groups : Int := 1
  bypass : Bool := false
deriving Repr, Inhabited

def timesText (size : List Int) : String := "x".intercalate (size.map toString)

def activationText (a : Option Activation) : String := (Activation.name a).toUpper

def finishOutput (s : LayerSettings) (size : List Int) (maccs : Int) (show_ : Tensor → Run Unit)
    (full : Tensor) : Run Tensor := do
  let o ← Run.options
  let listed := o.verbose && listsData o s.layer
  let title := timesText size
  if listed then
    Run.putLine s!"{title} FULL-RES OUTPUT:"
    show_ full
  Run.account s.layer .macc maccs
  let scaled :=
    if s.outputWidth = 32 then full
    else full.map fun x => saturate s.bits (scaleOutput s.outputShift x)
  if listed && s.outputWidth ≠ 32 then
    let note := if s.activation.isSome then "BEFORE ACTIVATION" else "(NO ACTIVATION)"
    Run.putLine s!"{title} OUTPUT {note}:"
    show_ scaled
  let out ← match s.activation with
    | none => pure scaled
    | some a => do
      let out := scaled.map (activate s.bits a)
      if listed then
        Run.putLine s!"{title} ACTIVATED OUTPUT ({activationText s.activation}):"
        show_ out
      Run.account s.layer .comp (size.foldl (· * ·) 1)
      pure out
  if o.verbose && !listsData o s.layer then
    Run.putLine s!"{title} OUTPUT ({activationText s.activation})\n"
  return out

def announceKernels (s : LayerSettings) (title : String) (list : Run Unit)
    (bias : Option (Array Int)) : Run Unit := do
  let o ← Run.options
  if o.verbose then
    let full := listsData o s.layer
    Run.put title
    if s.bypass then Run.put " (BYPASS)\n"
    if full && !s.bypass then
      Run.put ":\n"
      list
    printNumbers full "BIAS" bias

def scaleBias : Option (Array Int) → Run (Option (Array Int))
  | none => pure none
  | some b => do
    let d ← Run.device
    pure (some (b.map (· * (d.biasScale : Int))))

def macs2d (s : LayerSettings) (kernel : Pair) (size : List Int) : Run Int := do
  if s.groups = 0 then throw .divisionByZero
  return (s.inputSize.headD 0).fdiv s.groups * kernel.product * size.foldl (· * ·) 1

def outputLength (n dilation kernel padding stride : Int) : Run Int := do
  if stride = 0 then throw .divisionByZero
  return Compute.windowCount n dilation kernel padding stride

def conv2dLayer (s : LayerSettings) (kernelSize padding dilation stride : Pair)
    (kernel : Tensor) (bias : Option (Array Int)) (data : Tensor) : Run (Tensor × List Int) := do
  announceKernels s s!"{kernelSize.row}x{kernelSize.column} KERNEL(S)"
    (printKernels kernel kernelSize s.outputChannels) bias
  let h ← outputLength (s.inputSize.getD 1 0) dilation.row kernelSize.row padding.row stride.row
  let w ← outputLength (s.inputSize.getD 2 0) dilation.column kernelSize.column padding.column
    stride.column
  let size := [s.outputChannels, h, w]
  let bias ← scaleBias bias
  let full ← Run.lift (Compute.convolve2d
    { kernelSize, stride, pad := padding, dilation, groups := s.groups } data kernel bias
    s.inputSize size)
  let out ← finishOutput s size (← macs2d s kernelSize size) (showOutput · size) full
  return (out, size)

def transposedLength (n fractional padding dilation kernel outputPad : Int) : Int :=
  (n - 1) * fractional - 2 * padding + dilation * (kernel - 1) + outputPad + 1

def convTranspose2dLayer (s : LayerSettings)
    (kernelSize padding dilation fractional outputPad : Pair) (kernel : Tensor)
    (bias : Option (Array Int)) (data : Tensor) : Run (Tensor × List Int) := do
  announceKernels s s!"{kernelSize.row}x{kernelSize.column} KERNEL(S)"
    (printKernels kernel kernelSize s.outputChannels) bias
  let h := transposedLength (s.inputSize.getD 1 0) fractional.row padding.row dilation.row
    kernelSize.row outputPad.row
  let w := transposedLength (s.inputSize.getD 2 0) fractional.column padding.column
    dilation.column kernelSize.column outputPad.column
  let size := [s.outputChannels, h, w]
  let bias ← scaleBias bias
  let full ← Run.lift (Compute.convolveTransposed2d
    { kernelSize, stride := .both 1, pad := padding, dilation, fractional, outputPad,
      groups := s.groups } data kernel bias s.inputSize size)
  let out ← finishOutput s size (← macs2d s kernelSize size) (showOutput · size) full
  return (out, size)

def conv1dLayer (s : LayerSettings) (kernelSize padding dilation stride : Int) (kernel : Tensor)
    (bias : Option (Array Int)) (data : Tensor) : Run (Tensor × List Int) := do
  announceKernels s s!"KERNEL SIZE {kernelSize}" (showKernel kernel) bias
  let n ← outputLength (s.inputSize.getD 1 0) dilation kernelSize padding stride
  let size := [s.outputChannels, n, 1]
  let bias ← scaleBias bias
  let full ← Run.lift (Compute.convolve1d
    { kernelSize, stride, pad := padding, dilation, groups := s.groups } data kernel bias
    s.inputSize size)
  let maccs := (s.inputSize.headD 0).fdiv s.groups * kernelSize * s.outputChannels * n
  let out ← finishOutput s [s.outputChannels, n] maccs
    (fun t => do showTensor t; Run.put "\n") full
  let some out := out.reshape? [out.dim 0, out.dim 1, 1] | throw .value
  return (out, size)

def linearLayer (layer : Int) (activation : Option Activation) (weight : Tensor)
    (bias : Option (Array Int)) (data : Tensor) (bits : Nat := 16) : Run (Tensor × Nat) := do
  let o ← Run.options
  let full := listsData o layer
  let listed := o.verbose && full
  let inputs := data.dim 0
  let outputs := weight.dim 0
  if o.verbose then
    Run.putLine "CLASSIFICATION LAYER (LINEAR)...\n"
    Run.put s!"INPUT DATA (size {inputs})"
    if full then
      Run.put ":\n"
      showTensor data
    Run.put "\n"
    Run.put s!"WEIGHTS (size {inputs * outputs})"
    if full then
      Run.put ":\n"
      showTensor weight
    printNumbers full "BIAS" bias
  let sums ← Compute.fullyConnected layer data weight bias inputs outputs
  let scaled := sums.map fun x => saturate bits (scaleOutput 0 x)
  if listed then
    Run.putLine s!"OUTPUT (size {outputs}):"
    showTensor scaled
    Run.put "\n"
  Run.account layer .swMacc (inputs * outputs)
  let out ← match activation with
    | none => pure scaled
    | some a => do
      let out := scaled.map (activate bits a)
      if listed then
        Run.putLine s!"ACTIVATED OUTPUT (size {outputs}) ({activationText activation}):"
        showTensor out
        Run.put "\n"
      Run.account layer .swComp outputs
      pure out
  if o.verbose && !full then
    Run.putLine s!"OUTPUT (size {outputs}) ({activationText activation})\n"
  return (out, outputs)

def elementwiseCounter? : Elementwise → Option Counter
  | .add | .sub => some .add
  | .mul => some .mul
  | .or | .xor => some .bitwise
  | .none | .unknown _ => Option.none

def elementwiseLayer (op : Elementwise) (layer : Int) (inputSize : List Int) (outputShift : Int)
    (operands : List Tensor) (outputWidth : Int := 8) : Run Tensor := do
  let o ← Run.options
  let full := listsData o layer
  let listed := o.verbose && full
  let title := timesText (inputSize.take 3)
  if o.verbose then Run.putLine s!"{operands.length}-OPERAND {op.name.toUpper}:\n"
  let result ← Compute.combine op operands inputSize
  if listed && inputSize.length < 3 then throw .index
  if listed then
    Run.putLine s!"{title} FULL-RES OUTPUT:"
    showOutput result inputSize
  if let some c := elementwiseCounter? op then
    Run.account layer c (((operands.length : Int) - 1) * result.size)
  let out :=
    if outputWidth = 32 then result
    else if op = .mul then result.map fun x => saturate 8 (scaleOutput outputShift x)
    else result.map (saturate 8)
  if listed && outputWidth ≠ 32 then
    Run.putLine s!"{title} OUTPUT:"
    showOutput out inputSize
  if o.verbose && !full then
    if inputSize.length < 3 then throw .index
    Run.putLine s!"{title} OUTPUT"
  return out

end CnnForge.Simulator
