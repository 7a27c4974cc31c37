import CnnForge.Failure
import CnnForge.Operator
import CnnForge.Value.Shown

namespace CnnForge

/-- A setting for rows and columns. Layers without a setting of their own refer to one common list;
a list with a name is one list for all layers that use the name. -/
inductive ListSetting where
  | common
  | own (xs : List Value)
  | named (name : Nat) (xs : List Value)
deriving Repr, Inhabited

namespace ListSetting

def both (v : Value) : ListSetting := .own [v, v]

def ofInts (row column : Int) : ListSetting := .own [.int row, .int column]

def ofValue : Value → ListSetting
  | .list xs => .own xs
  | .named n xs => .named n xs
  | v => both v

def toList : ListSetting → List Value
  | .common => []
  | .own xs | .named _ xs => xs

end ListSetting

structure LayerConfig where
  processors : Value := .int 0
  outputProcessors : Value := .null
  inputOffset : Value := .null
  inputChannels : Value := .null
  inputSkip : Value := .int 0
  inputChannelSkip : Value := .int 0
  inputDim : Value := .null
  outputChannels : Value := .null
  outputOffset : Value := .int 0
  padding : ListSetting := .common
  outputPadding : ListSetting := .ofInts 0 0
  pool : ListSetting := .ofInts 1 1
  poolStride : ListSetting := .own [.null, .null]
  poolDilation : ListSetting := .ofInts 1 1
  pooling : Bool := false
  average : Bool := false
  quantization : Value := .null
  outputShift : Value := .null
  activation : Option Activation := none
  bigData : Bool := false
  outputWidth : Value := .int 8
  operator : Operator := .conv2d
  elementwise : Elementwise := .none
  operands : Value := .int 1
  poolFirst : Bool := true
  dilation : ListSetting := .ofInts 1 1
  kernelSize : Int × Int := (3, 3)
  stride : ListSetting := .ofInts 1 1
  convGroups : Value := .int 1
  streaming : Bool := false
  flatten : Bool := false
  inSequences : Value := .null
  nextSequence : Value := .null
  simulatedSequence : Value := .null
  snoopSequence : Value := .null
  writeGap : Value := .int 0
  bypass : Bool := false
  biasGroups : Value := .null
  calcx4 : Bool := false
  readAhead : Bool := false
  tcalc : Option Bool := none
deriving Repr, Inhabited

inductive LayerProblem where
  | tooManyLayers (most : Nat)
  | repeated
  | noProcessors
  | processorRange (setting : String) (processors : Nat)
  | quantization
  | inputDimensions
  | unknownValue (setting : String) (value : Value)
  | unsupported (setting : String) (value : String)
  | negative (setting : String) (value : Value)
  | dilationOperator
  | operandsOperator
  | operandsRange
  | dataFormat
  | outputWidth
  | linearKernel
  | unequalStride
  | poolingStride
  | transposeStride
  | poolDilation
  | poolFirst
deriving Repr

def LayerProblem.message : LayerProblem → String
  | .tooManyLayers most => s!"This device supports up to {most} layers"
  | .repeated => "Layer was already specified"
  | .noProcessors => "`processors` must not be zero or missing"
  | .processorRange s n => s!"`{s}` must be an int from 1 to 2**{n}-1"
  | .quantization => "`quantization` must be 1, 2, 4, 8 or bin/binary"
  | .inputDimensions => "`in_dim` must not exceed two dimensions"
  | .unknownValue s v => s!"Unknown value \"{v.shown}\" for `{s}`"
  | .unsupported s v => s!"Unsupported value `{v}` for `{s}`"
  | .negative s v => s!"Unsupported value {v.shown} for `{s}`"
  | .dilationOperator => "`dilation` requires a convolution operator"
  | .operandsOperator => "`operands` can only be used with element-wise operations"
  | .operandsRange => "`operands` has to be 2..16"
  | .dataFormat => "Unknown value for `data_format`"
  | .outputWidth => "`output_width` must be 8 or 32"
  | .linearKernel => "Cannot configure `kernel_size` for fully connected layers"
  | .unequalStride => "`stride` values must be equal in both dimensions"
  | .poolingStride => "Cannot set `stride` to non-default value when pooling"
  | .transposeStride => "Cannot set `stride` to non-default value for ConvTranspose2D"
  | .poolDilation => "`pool_dilation` requires pooling"
  | .poolFirst => "`pool_first: False` requires both pooling and element-wise operations"

inductive ConfigFault where
  | unknownKeys
  | missingKeys
  | unknownLayerKeys
  | layer (sequence : Value) (problem : LayerProblem)
  | failure (f : Failure)
deriving Repr

def ConfigFault.message? (file : String) : ConfigFault → Option String
  | .unknownKeys => some s!"Configuration file {file} contains unknown key(s)."
  | .missingKeys =>
    some s!"Configuration file {file} does not contain `layers`, `arch`, or `dataset`."
  | .unknownLayerKeys => some s!"Configuration file {file} contains unknown key(s) for `layers`."
  | .layer sequence p =>
    some s!"{p.message} (found in layer sequence {sequence.shown} in YAML configuration)."
  | .failure _ => none

end CnnForge
