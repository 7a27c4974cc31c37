import CnnForge.SoftwareNet.Plan

namespace CnnForge.SoftwareNet

structure Buffers where
  full : String := "buffer0"
  free : String := "buffer1"
deriving Repr, DecidableEq, Inhabited

def Buffers.swap (b : Buffers) : Buffers := ⟨b.free, b.full⟩

structure BufferSizes where
  columns : Int := 0
  image : Int := 0
deriving Repr, DecidableEq, Inhabited

def bufferSizes (p : Plan) : BufferSizes :=
  p.layers.foldl (fun s l =>
    let columns := max s.columns (2 * l.inputChannels * l.kernelSize.product)
    { columns := if l.pools then max columns (l.pooledSize.row * l.inputChannels) else columns
      image := max (max s.image (l.inputChannels * l.inputSize.product))
        (l.outputChannels * l.outputSize.product) }) {}

def poolKind (l : SoftwareLayer) : String := if l.poolAverage then "avg" else "max"

def layerComment (i : Nat) (l : SoftwareLayer) : String :=
  let operands := if l.operands > 1 then s!"{l.operands}x" else ""
  let flattened := if l.flatten then " flattened, " else ", "
  let pooling := if l.pools then
    s!"{l.crossed l.pool} {poolKind l} pool with stride {l.slashed l.poolStride}" else "no pooling"
  let operator := match l.operator with
    | .conv1d | .conv2d | .convTranspose2d | .linear =>
      s!", {l.operator.name} with kernel size {l.crossed l.kernelSize}, "
        ++ s!"stride {l.slashed l.stride}, pad {l.slashed l.padding}, "
        ++ s!"{Activation.name l.activation}, "
    | .passthrough | .unknown _ => ", no convolution, "
  s!"  // Layer {i}: {operands}{l.inputChannels}x{l.crossed l.inputSize}{flattened}{pooling}"
    ++ operator ++ s!"{l.outputChannels}x{l.crossed l.outputSize} output\n"

def dimensionComment (l : SoftwareLayer) (size : List Int) : String :=
  let pooled := if l.pools then
    s!" -> [{l.inputChannels}, {l.pooledSize.row}, {l.pooledSize.column}]" else ""
  let flattened := if l.flatten then
    s!" -> [{l.inputChannels * l.pooledSize.product}, 1, 1]" else ""
  let result := if l.isPassthrough then "" else s!" -> {Text.bracketed (size.map toString)}"
  s!"  // Dimensions: [{l.inputChannels}, {l.inputSize.row}, {l.inputSize.column}]"
    ++ pooled ++ flattened ++ result ++ "\n"

def poolCall (l : SoftwareLayer) (b : Buffers) : String :=
  let kind := if l.poolAverage then "ave" else "max"
  let sizes := s!"{l.inputSize.column}, {l.inputSize.row}, {l.inputChannels}"
  let pooled := s!"{l.pooledSize.column}, {l.pooledSize.row}"
  if l.pool.row != l.pool.column then
    s!"  arm_{kind}pool_nonsquare_q7_HWC_nonsquare({b.full}, {sizes}, "
      ++ s!"{l.pool.column}, {l.pool.row}, 0, 0, {l.poolStride.column}, {l.poolStride.row}, "
      ++ s!"{pooled}, (q7_t *) col_buffer, {b.free});\n"
  else if l.inputSize.row == l.inputSize.column then
    s!"  arm_{kind}pool_q7_HWC({b.full}, {l.inputSize.row}, {l.inputChannels}, {l.pool.row}, 0, "
      ++ s!"{l.poolStride.row}, {l.pooledSize.row}, (q7_t *) col_buffer, {b.free});\n"
  else
    s!"  arm_{kind}pool_q7_HWC_nonsquare({b.full}, {sizes}, {l.pool.row}, 0, "
      ++ s!"{l.poolStride.row}, {pooled}, (q7_t *) col_buffer, {b.free});\n"

def linearCall (i : Nat) (l : SoftwareLayer) (source target : String) : String :=
  let (variant, shift, cast) :=
    if l.outputWidth = 8 then ("q7", 7 - l.shift, "") else ("q7_q31", 0, "(q31_t *) ")
  s!"  arm_fully_connected_{variant}({source}, weights_{i}, {l.operatorChannels}, "
    ++ s!"{l.outputChannels}, 7, {shift}, bias_{i}, {cast}{target}, col_buffer);\n"

def squareCall (i : Nat) (l : SoftwareLayer) (source target : String) : String :=
  let channels := l.operatorChannels
  let variant := if channels % 4 = 0 && l.outputChannels % 2 = 0 then "fast" else "basic"
  s!"  arm_convolve_HWC_q7_{variant}({source}, {l.operatorSize.row}, {channels}, weights_{i}, "
    ++ s!"{l.outputChannels}, {l.kernelSize.row}, {l.padding.row}, {l.stride.row}, "
    ++ s!"bias_{i}, 7,  {7 - l.shift}, {target}, {l.outputSize.row}, col_buffer, NULL);\n"

def generalCall (i : Nat) (l : SoftwareLayer) (source target : String) : String :=
  s!"  arm_convolve_HWC_q7_basic_nonsquare({source}, "
    ++ s!"{l.operatorSize.column}, {l.operatorSize.row}, {l.operatorChannels}, weights_{i}, "
    ++ s!"{l.outputChannels}, {l.kernelSize.column}, {l.kernelSize.row}, "
    ++ s!"{l.padding.column}, {l.padding.row}, {l.stride.column}, {l.stride.row},\n"
    ++ "                                      "
    ++ s!"bias_{i}, 7, {7 - l.shift}, {target}, {l.outputSize.column}, {l.outputSize.row}, "
    ++ "col_buffer, NULL);\n"

def operatorCall (i : Nat) (l : SoftwareLayer) (source target : String) : Checked String := do
  Checked.refuseIf (l.operator == .convTranspose2d)
    s!"CMSIS-NN generator does not currently support the operator `{l.operator.name}` in layer {i}"
  if !l.isSquare l.operatorSize then return generalCall i l source target
  if l.operator == .linear then
    Checked.require (l.operatorSize == .both 1 && l.outputSize == .both 1)
    return linearCall i l source target
  return squareCall i l source target

def activationCall (l : SoftwareLayer) (target : String) : Checked String := do
  let size := l.outputSize.product * l.outputChannels
  match l.activation with
  | none => return ""
  | some .relu =>
    return if size < 65536 then s!"  arm_relu_q7({target}, {size});\n"
      else s!"  arm_relu32_q7({target}, {size});\n"
  | some _ => Checked.stop "CMSIS-NN generator implements ReLU only."

/-- The statements for a layer whose output has the given size, and the buffers after it. The first
layer reads the input itself; pooling first copies it, since it changes its input. -/
def layerCode (i : Nat) (l : SoftwareLayer) (size : List Int) (b : Buffers) :
    Checked (String × Buffers) := do
  let head := layerComment i l ++ dimensionComment l size
  let copy := if l.pools && i = 0 then
    "  memcpy(buffer0, input, input_size); // Pooling may destroy input\n" else ""
  let pooling := if l.pools then copy ++ poolCall l b else ""
  let source := if l.pools then b.free else if i = 0 then "input_data" else b.full
  let b := if l.pools then b.swap else b
  if l.isPassthrough then return (head ++ pooling ++ "\n", b)
  let call ← operatorCall i l source b.free
  let activation ← activationCall l b.free
  return (head ++ pooling ++ call ++ activation ++ "\n", b.swap)

end CnnForge.SoftwareNet
