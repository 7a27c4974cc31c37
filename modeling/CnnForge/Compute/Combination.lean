import CnnForge.Compute.Convolution
import CnnForge.Operator
import CnnForge.Session

namespace CnnForge.Compute

def openStepLog (layer : Int) (base test : String) : Run Unit := do
  if (← Run.options).debugComputation then
    let path := joinPath (joinPath base test) s!"compute-{layer}.csv"
    Run.createFile path
    modify fun s => { s with stepLog := .open path }

def logStep (text : String) : Run Unit := do
  if (← Run.options).debugComputation then
    match (← get).stepLog with
    | .none => Run.putLine text
    | .open path => Run.emit (.file path) (text ++ "\n")
    | .closed => throw .value

def closeStepLog : Run Unit := do
  if (← Run.options).debugComputation then
    match (← get).stepLog with
    | .none => throw (.check "")
    | _ => modify fun s => { s with stepLog := .closed }

def Elementwise.function? : Elementwise → Option (Int → Int → Int)
  | .add => some (· + ·)
  | .mul => some (· * ·)
  | .or => some Bits.or
  | .sub => some (· - ·)
  | .xor => some Bits.xor
  | .none | .unknown _ => Option.none

def combine (op : Elementwise) (operands : List Tensor) (inputSize : List Int) : Run Tensor := do
  match operands with
  | [] => throw .index
  | first :: rest =>
    Run.check (hasSize first inputSize)
    rest.foldlM (fun acc t => do
      match Elementwise.function? op with
      | some f => Run.orFail .value (Tensor.zipWith? f acc t)
      | none =>
        Run.putLine s!"Unknown operator \x60{(Operator.ofCode op.code).name}\x60"
        throw .unsupported) first

def fullyConnected (layer : Int) (data weight : Tensor) (bias : Option (Array Int))
    (inputs outputs : Nat) : Run Tensor := do
  let columns := weight.dim 1
  let values ← (List.range outputs).mapM fun w => do
    let value ← (List.range inputs).foldlM (fun acc n => do
      if n ≥ data.size ∨ w ≥ weight.dim 0 ∨ n ≥ columns then throw .index
      let d := data.flat n
      let k := weight.flat (w * columns + n)
      Run.account layer .trueSwMacc 1
      logStep s!"w={w}, n={n}, weight={k}, data={d} -> accumulator = {acc + d * k} "
      return acc + d * k) 0
    match bias with
    | none => pure value
    | some b =>
      let some x := b[w]? | throw .index
      logStep s!"+bias {x} --> output[{w}] = {value + x}"
      pure (value + x)
  let values := values.toArray
  return Tensor.ofFn [outputs] fun k => values.getD k 0

end CnnForge.Compute
