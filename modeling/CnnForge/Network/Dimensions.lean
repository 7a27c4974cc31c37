import CnnForge.Network.Layer
import CnnForge.Report

namespace CnnForge

attribute [local instance (2000)] instPowNat

structure DimensionSettings where
  start : Nat := 0
  finalLayer : Int
  total : Nat
  inputDim : List Int
  features : Features
  maxRowCol : Nat

namespace Dimensions

def shownDim : Option (List Int) → String
  | some xs => (Value.list (xs.map .int)).shown
  | none => "None"

def shownPair (p : Pair) : String := shownDim (some p.toList)

def checkWeights (l : Layer) (bits : Int) : Checked Unit := do
  if l.hasKernel then
    let t ← Checked.orFail .property l.kernel
    let t := if bits = -1 then t.map fun x => x.natAbs else t
    let lo ← Checked.orFail .value t.minimum?
    let hi ← Checked.orFail .value t.maximum?
    if bits = -1 then Checked.require (lo = hi && hi = 1)
    else
      if bits < 1 then Checked.fail .value
      let half : Int := 2 ^ (bits - 1).toNat
      Checked.require (lo ≥ -half)
      Checked.require (hi ≤ half - 1)

def defaultBits (l : Layer) : Int := l.quantization.getD (if l.hasKernel then 8 else 0)

def checkLater (layers : Array Layer) (i : Int) (l : Layer) : Checked Layer := do
  let previous ← Checked.lift (elementAt layers l.previous)
  let l := { l with inputOffset := some (l.inputOffset.getD previous.outputOffset) }
  Checked.refuseIf (l.streaming && !previous.streaming)
    (s!"Layer {i} is a streaming layer, but the previous layer (layer {l.previous}) is "
      ++ "non-streaming. This is not supported.")
  Checked.refuseIf l.bigData
    s!"`data_format` in layer {i}: CHW can only be configured for the first layer."
  return l

def checkSources (s : DimensionSettings) (i : Int) (l : Layer) : Checked Unit := do
  if let some sources := l.inSequences then
    if s.features.linkLayer then
      Checked.refuseIf (sources.any (· > s.total))
        s!"`in_sequences` in layer {i} cannot be greater than the last layer."
    else
      Checked.refuseIf (sources.any (· ≥ i))
        s!"`in_sequences` in layer {i} cannot be greater than layer sequence on this device"

def sourceDim (layers : Array Layer) (i : Int) (l : Layer) : Checked (Option (List Int) × Operator) := do
  let output (k : Int) : Checked (Option (List Int)) := do
    return (← Checked.lift (elementAt layers k)).outputDim.map Pair.toList
  match l.inSequences with
  | some sources =>
    let first ← Checked.orFail .index sources.head?
    let dim ← output first
    for k in sources do
      let other ← output k
      Checked.refuseIf (other != dim)
        s!"Cannot concatenate outputs of different dimensions in layer {i}: {shownDim dim} vs {shownDim other}."
    return (dim, (← Checked.lift (elementAt layers first)).operator)
  | none =>
    return (← output l.previous, (← Checked.lift (elementAt layers l.previous)).operator)

def fillInput (layers : Array Layer) (i : Int) (l : Layer) : Checked Layer := do
  if l.inputDim.isSome then return l
  let (auto, source) ← sourceDim layers i l
  let l := { l with autoInputDim := auto }
  match l.givenInputDim with
  | some d => return { l with inputDim := some d }
  | none =>
    let l := { l with inputDim := auto }
    let p ← Checked.lift l.inputPair
    if p.column = 1 && (l.operator == .conv2d || l.operator == .convTranspose2d)
        && source == .conv1d then
      Checked.warn (s!"Using 1-dimensional data {p.row}x{p.column} for layer {i} with a "
        ++ s!"{l.operator.name} operator. Use `in_dim:` to reshape the data to two dimensions, or to "
        ++ "silence this message.")
    return l

def pooled (n s w d : Int) : Checked Int := do
  if s = 0 then Checked.fail .divisionByZero
  return (n + s - w - d + 1).fdiv s

def pooledSize (i : Int) (l : Layer) : Checked Pair := do
  let name := l.operator.name
  let s := l.poolStride
  if l.operator != .conv1d then
    Checked.refuseIf (s.row != s.column)
      s!"{name} in layer {i} does not support non-square pooling stride (currently set to {s.row}x{s.column})."
    let p ← Checked.lift l.inputPair
    return ⟨← pooled p.row s.row l.pool.row l.poolDilation.row,
      ← pooled p.column s.column l.pool.column l.poolDilation.column⟩
  else
    let dims ← Checked.orFail .kind l.inputDim
    let rows ← Checked.orFail .index dims.head?
    return ⟨← pooled rows s.row l.pool.row l.poolDilation.row, 1⟩

def convolved (n dilation kernel padding stride : Int) : Checked Int := do
  if stride = 0 then Checked.fail .divisionByZero
  return (n - dilation * (kernel - 1) - 1 + 2 * padding).fdiv stride + 1

def transposed (n dilation kernel padding stride outputPadding : Int) : Int :=
  (n - 1) * stride - 2 * padding + dilation * (kernel - 1) + outputPadding + 1

def checkPadding (s : DimensionSettings) (i : Int) (l : Layer) : Checked Unit :=
  Checked.refuseIf (l.padding.row ≥ 3 && !s.features.arbitraryPadding)
    s!"{l.operator.name} in layer {i} does not support `pad` >= 3 (currently set to {l.padding.row})."

def flattenLayer (i : Int) (l : Layer) (p : Pair) : Checked Layer := do
  let n := p.product
  Checked.refuseIf (n > 256)
    s!"`flatten` in layer {i} exceeds supported input dimensions ({p.row} * {p.column} > 256))."
  if n = 1 then
    Checked.warn s!"`flatten` in layer {i} is not needed since input dimensions are 1x1."
  if n = 0 then Checked.fail .divisionByZero
  let l := { l with outputDim := some (.both 1), inputChannels := l.inputChannels.fdiv n }
  Checked.require (l.inputChannels > 0)
  return l

def planeOutput (s : DimensionSettings) (i : Int) (l : Layer) (p : Pair) : Checked Layer := do
  let name := l.operator.name
  let st := l.stride
  Checked.refuseIf (st.row != st.column)
    s!"{name} in layer {i} does not support non-square stride (currently set to {st.row}x{st.column})."
  Checked.refuseIf (l.operator != .convTranspose2d && st.row != 1)
    s!"{name} in layer {i} does not support stride other than 1 (currently set to {st.row}x{st.column})."
  let k := l.kernelSize
  let out : Pair ← match l.operator with
    | .passthrough | .conv2d | .linear =>
      pure ⟨← convolved p.row l.dilation.row k.row l.padding.row st.row,
        ← convolved p.column l.dilation.column k.column l.padding.column st.column⟩
    | .convTranspose2d =>
      pure ⟨transposed p.row l.dilation.row k.row l.padding.row st.row l.outputPadding.row,
        transposed p.column l.dilation.column k.column l.padding.column st.column
          l.outputPadding.column⟩
    | _ => pure p
  let l := { l with outputDim := some out }
  let l ← if l.flatten then flattenLayer i l p else pure l
  checkPadding s i l
  return l

def lineOutput (s : DimensionSettings) (i : Int) (l : Layer) (p : Pair) : Checked Layer := do
  checkPadding s i l
  Checked.refuseIf (l.stride.row != 1 && !s.features.arbitraryStride)
    s!"{l.operator.name} in layer {i} does not support stride other than 1 (currently set to {l.stride.row})."
  let rows ← convolved p.row l.dilation.row l.kernelSize.row l.padding.row l.stride.row
  return { l with outputDim := some ⟨rows, 1⟩ }

def checkLimits (s : DimensionSettings) (i : Int) (l : Layer) : Checked Unit := do
  Checked.refuseIf (l.padding.row ≥ l.kernelSize.row || l.padding.column ≥ l.kernelSize.column)
    (s!"Pad size ({shownPair l.padding}) for layer {i} is greater than or equal to kernel size "
      ++ s!"({shownPair l.kernelSize}).")
  let input := l.inputDim.getD []
  let output ← Checked.lift l.outputPair
  Checked.refuseIf (input.any (· > s.maxRowCol))
    s!"Input dimension {shownDim l.inputDim} exceeds system maximum of {s.maxRowCol} in layer {i}."
  Checked.refuseIf (output.anyAbove s.maxRowCol)
    s!"Output dimension {shownPair output} exceeds system maximum of {s.maxRowCol} in layer {i}."
  Checked.refuseIf (output.row = 0 || output.column = 0)
    s!"Output dimension {shownPair output} is zero in layer {i}."
  Checked.require (l.inputChannels > 0)
  Checked.refuseIf (l.activation.isSome && l.operator == .passthrough)
    s!"Layer {i} specifies activation {Activation.name l.activation} for a passthrough layer."

def measure (s : DimensionSettings) (layers : Array Layer) (i : Int) : Checked (Array Layer) := do
  let l ← Checked.lift (elementAt layers i)
  Checked.refuseIf (l.inputChannels ≤ 0) s!"Must specify `in_channels` for layer {i}."
  let bits := defaultBits l
  let l := { l with quantization := some bits }
  checkWeights l bits
  let l ← if i != s.start then checkLater layers i l else pure l
  if i != s.finalLayer && l.outputWidth != 8 then
    Checked.warn s!"`output_width` should be 8 for intermediate layer {i}."
  checkSources s i l
  let l ← fillInput layers i l
  let p ← pooledSize i l
  let l := { l with pooledDim := some p }
  Checked.refuseIf (p.row = 0 || p.column = 0)
    (s!"Pooling or zero-padding in layer {i} results in a zero data dimension (input "
      ++ s!"{shownDim l.inputDim}, result {shownPair p}).")
  let l ← if l.operator != .conv1d then planeOutput s i l p else lineOutput s i l p
  checkLimits s i l
  Checked.lift (modifyAt layers i fun _ => l)

/-- Measures up to `n` layers in their order, from layer `i` on. The flag tells whether there is another
one to measure. -/
def follow (s : DimensionSettings) : Nat → Int → Array Layer → Checked (Array Layer × Bool)
  | 0, i, layers => return (layers, i < layers.size)
  | n + 1, i, layers => do
    if i < layers.size then
      let layers ← measure s layers i
      let next := (← Checked.lift (elementAt layers i)).next
      if next = -1 then return (layers, false) else follow s n next layers
    else return (layers, false)

end Dimensions

def traceDimensions (s : DimensionSettings) (layers : Array Layer) : Checked (Array Layer) := do
  let start : Int := s.start
  let layers ← Checked.lift <| modifyAt layers start fun l =>
    { l with
      autoInputDim := some s.inputDim
      inputDim := some (l.givenInputDim.getD s.inputDim)
      inputOffset := some (l.inputOffset.getD 0) }
  if !s.features.arbitraryOutputWidth then
    let final ← Checked.lift (elementAt layers s.finalLayer)
    Checked.refuseIf (final.outputWidth != 8 && final.activation.isSome)
      s!"`output_width` must be 8 when activation is used in (layer {start})."
  let (layers, more) ← Dimensions.follow s (2 * layers.size + 2) start layers
  if more then Checked.fail .endless
  return layers

end CnnForge
