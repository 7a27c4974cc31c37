import CnnForge.Network.Layer
import CnnForge.Report

namespace CnnForge.SoftwareNet

structure SoftwareLayer extends Layer where
  inputSize : Pair
  pooledSize : Pair
  outputSize : Pair
  sourceSize : Pair
deriving Repr, Inhabited

namespace SoftwareLayer

def shift (l : SoftwareLayer) : Int := l.outputShift.getD 0

def isPassthrough (l : SoftwareLayer) : Bool := l.operator == .passthrough

def sizeText (l : SoftwareLayer) (separator : String) (p : Pair) : String :=
  if l.operator == .conv1d then toString p.row else s!"{p.row}{separator}{p.column}"

def crossed (l : SoftwareLayer) (p : Pair) : String := l.sizeText "x" p

def slashed (l : SoftwareLayer) (p : Pair) : String := l.sizeText "/" p

def isSquare (l : SoftwareLayer) (input : Pair) : Bool :=
  [l.kernelSize, input, l.outputSize, l.padding, l.stride].all fun p => p.row == p.column

def operatorChannels (l : SoftwareLayer) : Int :=
  if l.flatten then l.inputChannels * l.pooledSize.product else l.inputChannels

def operatorSize (l : SoftwareLayer) : Pair := if l.flatten then .both 1 else l.pooledSize

end SoftwareLayer

structure Plan where
  layers : Array SoftwareLayer
  data : Tensor
  outputWidth : Int
deriving Repr, Inhabited

def Plan.outputBits (p : Plan) : Nat := if p.outputWidth = 8 then 7 else 31

def sizeOf (l : Layer) : Option (List Int) → Except Failure Pair
  | some (r :: c :: _) => .ok ⟨r, c⟩
  | some [r] => if l.operator == .conv1d then .ok ⟨r, 0⟩ else .error .index
  | some [] => .error .index
  | none => .error .kind

def planLayer (i : Nat) (l : Layer) : Checked SoftwareLayer := do
  if (l.quantization.getD 8) != 8 then
    Checked.warn "CMSIS-NN network generator does not currently support `quantization` != 8. Forcing to 8 bit."
  let inputSize ← Checked.lift (sizeOf l l.inputDim)
  let outputSize ← Checked.lift l.outputPair
  let pooledSize ← Checked.lift l.pooledPair
  let sourceSize ← Checked.lift (sizeOf l l.autoInputDim)
  if l.groups = 0 then Checked.fail .divisionByZero
  Checked.refuseIf (l.inputChannels % l.groups != 0 || l.outputChannels % l.groups != 0)
    (s!"Layer {i}: convolution groups {l.groups} does not divide the input channels "
      ++ s!"{l.inputChannels} or output channels {l.outputChannels}.")
  return { l with inputSize, pooledSize, outputSize, sourceSize }

def plan (n : Network) : Checked Plan := do
  Checked.warn "CMSIS-NN code generation is unsupported."
  let last := n.layers.back?.getD default
  let narrow := last.outputWidth != 8 && last.operator != .linear
  if narrow then
    Checked.warn ("CMSIS-NN network generator does not currently support `output_width` that is not "
      ++ "8 when not using Linear. Forcing to 8 bit.")
  let layers := if narrow then
    n.layers.modify (n.layers.size - 1) fun l => { l with outputWidth := 8 } else n.layers
  let planned ← (layers.toList.zipIdx).mapM fun (l, i) => planLayer i l
  return { layers := planned.toArray, data := n.data,
           outputWidth := if narrow then 8 else last.outputWidth }

end CnnForge.SoftwareNet
