import CnnForge.Compute.Pooling
import CnnForge.Simulator.Layer
import CnnForge.Text.Scientific

namespace CnnForge.Simulator

structure PoolingSettings where
  layer : Int
  inputSize : List Int
  pool : Pair
  stride : Pair
  average : Bool
  passes : Option Int := none
  channelsPerPass : Option Int := none
  operator : Option Operator := none
  operands : Nat := 1
  rounded : Bool := false
  logFolder : Option String := none
  dilation : Pair := .both 1
  measured : Bool := false
deriving Repr, Inhabited

namespace PoolingSettings

def oneDimensional (s : PoolingSettings) : Bool := s.operator == some .conv1d

def pooledLength (n stride pool dilation : Int) : Except Failure Int :=
  if stride = 0 then .error .divisionByZero
  else .ok ((n + stride - pool - dilation + 1).fdiv stride)

def pooledSize (s : PoolingSettings) : Except Failure (List Int) := do
  let c := s.inputSize.headD 0
  let h ← pooledLength (s.inputSize.getD 1 0) s.stride.row s.pool.row s.dilation.row
  if s.oneDimensional then return [c, h]
  let w ← pooledLength (s.inputSize.getD 2 0) s.stride.column s.pool.column s.dilation.column
  return [c, h, w]

def kindText (s : PoolingSettings) : String := if s.average then "AVERAGE" else "MAX"

def sizesText (s : PoolingSettings) (pooled : List Int) : String :=
  let input := s.inputSize.map toString
  let shown := if s.measured then Text.parenthesized input else Text.bracketed input
  s!"{shown} -> {Compute.sizeText pooled}"

end PoolingSettings

def channelLines (t : Tensor) (channel : Nat) : String :=
  String.join ((List.range (t.dim 1)).map fun y =>
    ",".intercalate ((List.range (t.dim 2)).map fun x => Text.scientific (t.get3 channel y x))
      ++ "\n")

def logChannels (s : PoolingSettings) (name : String) (i : Nat) (t : Tensor) (count : Int) :
    Run Unit := do
  if let some folder := s.logFolder then
    for j in List.range count.toNat do
      if j ≥ t.dim 0 then throw .index
      let path := joinPath folder s!"{name}-{i}-L{s.layer}-ch{j}.csv"
      Run.createFile path
      Run.emit (.file path) (channelLines t j)

def poolOperand (s : PoolingSettings) (size : List Int) (data : Tensor) (i : Nat) :
    Run Tensor := do
  let o ← Run.options
  if i ≥ data.dim 0 then throw .index
  let t := data.part i
  logChannels s "unpooled" i t (s.inputSize.headD 0)
  let pooled ← Compute.pool2d
    { pool := s.pool, stride := s.stride, dilation := s.dilation,
      kind := if s.average then .average s.rounded else .maximum } t s.inputSize size
  if o.verbose then
    let dilation := if s.dilation.anyAbove 1 then
      s!", DILATION {s.dilation.row}/{s.dilation.column}" else ""
    let operand := if s.operands > 1 then s!", POOLED DATA {i}" else ""
    printData (listsData o s.layer)
      (s!"{s.pool.row}x{s.pool.column} {s.kindText} POOLING, STRIDE "
        ++ s!"{s.stride.row}/{s.stride.column}{dilation} {s.sizesText size}{operand}")
      pooled size s.passes s.channelsPerPass
  logChannels s "pooled" i pooled (size.headD 0)
  return pooled

def stackOperands (shape : List Nat) (ts : List Tensor) : Except Failure Tensor :=
  match Tensor.ofArray? (ts.length :: shape) (ts.foldl (fun a t => a ++ t.data) #[]) with
  | some t => .ok t
  | none => .error .value

def pool2dOperands (s : PoolingSettings) (size : List Int) (data : Tensor) : Run Tensor := do
  if size.any (· < 0) then throw .value
  let parts ← (List.range s.operands).mapM (poolOperand s size data)
  let count := s.pool.product * size.foldl (· * ·) 1 * s.operands
  Run.account s.layer (if s.average then .add else .comp) count
  Run.lift (stackOperands (size.map Int.toNat) parts)

def pool1dOperand (s : PoolingSettings) (size : List Int) (data : Tensor) : Run Tensor := do
  let o ← Run.options
  if data.dim 0 = 0 then throw .index
  let pooled ← Run.lift (Compute.pool1d (data.part 0) s.inputSize size s.pool.row s.stride.row
    s.dilation.row s.average)
  if o.verbose then
    Run.put s!"{s.pool.row} {s.kindText} POOLING, STRIDE {s.stride.row} "
    if s.dilation.row > 1 then Run.put s!", DILATION {s.dilation.row} "
    Run.put (s.sizesText size)
    if listsData o s.layer then
      Run.put ":\n"
      showTensor pooled
    Run.put "\n"
  Run.account s.layer (if s.average then .add else .comp)
    (s.pool.row * size.getD 0 0 * size.getD 1 0)
  Run.orFail .value (pooled.reshape? (1 :: pooled.shape))

def strideOnly (s : PoolingSettings) (size : List Int) (data : Tensor) : Run Tensor := do
  let o ← Run.options
  let one := s.oneDimensional
  let pooled :=
    if one then data.stride3 s.stride.row.toNat
    else data.stride4 s.stride.row.toNat s.stride.column.toNat
  if o.verbose && (s.stride.row > 1 || (!one && s.stride.column > 1)) then
    Run.put (if one then s!"{s.pool.row} {s.kindText} POOLING, STRIDE {s.stride.row} "
      else s!"{s.pool.row}x{s.pool.column} {s.kindText} POOLING, STRIDE "
        ++ s!"{s.stride.row}/{s.stride.column} ")
    Run.put (s.sizesText size)
    if listsData o s.layer then
      Run.put ":\n"
      showTensor pooled
    Run.put "\n"
  return pooled

def poolingLayer (s : PoolingSettings) (data : Tensor) : Run (Tensor × List Int) := do
  let size ← Run.lift s.pooledSize
  let pooled ←
    if s.pool.anyAbove 1 then
      if s.oneDimensional then pool1dOperand s size data else pool2dOperands s size data
    else strideOnly s size data
  return (pooled, size)

def showInput (layer : Int) (inputSize : List Int) (data : Tensor)
    (passes channelsPerPass : Option Int) (operator : Option Operator) (operands : Nat) :
    Run Unit := do
  let o ← Run.options
  if o.verbose then
    let full := listsData o layer
    let per := channelsPerPass <|> inputSize.head?
    let name := ((operator.map Operator.name).getD "????").toUpper
    if operator ≠ some .conv1d then
      let count := if operands = 1 then "" else s!", {operands} OPERANDS"
      Run.putLine s!"LAYER {layer} ({name}{count})...\n"
      let size : List Int := [data.dim 1, data.dim 2, data.dim 3]
      for i in List.range operands do
        if i ≥ data.dim 0 then throw .index
        let number := if operands = 1 then "" else s!" {i}"
        printData full s!"{timesText size} INPUT DATA{number}" (data.part i) size passes per
    else
      Run.putLine s!"LAYER {layer} ({name})...\n"
      Run.put s!"{inputSize.getD 1 0}x{inputSize.getD 2 0} INPUT DATA"
      if full then
        Run.put ":\n"
        showTensor data.squeeze
      Run.put "\n"

end CnnForge.Simulator
