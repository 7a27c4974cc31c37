import CnnForge.Geometry
import CnnForge.Session
import CnnForge.Text.Field
import CnnForge.Text.Grid

namespace CnnForge.Simulator

def listsData (o : Options) (layer : Int) : Bool := o.verboseAll || layer == o.finalLayer

def showTensor (t : Tensor) : Run Unit := Run.putLine (Text.renderGrid t)

/-- Bytes in a field of three characters, or four if there are negative ones. -/
def byteFormat (negative : Bool) (n : Int) : String :=
  Text.padLeft (if negative then 4 else 3) ' ' (toString n)

def passNote (i : Nat) (passes channelsPerPass : Option Int) : Run String := do
  match passes with
  | some n =>
    if n > 1 then
      let some per := channelsPerPass | throw .kind
      if per = 0 then throw .divisionByZero
      return s!" (expansion: {(i : Int).fdiv per + 1} of {n})\n"
    else return "\n"
  | none => return "\n"

def runStarts (count step : Nat) : List Nat :=
  (List.range ((count + step - 1) / step)).map (· * step)

def printData (full : Bool) (title : String) (t : Tensor) (size : List Int)
    (passes channelsPerPass : Option Int) : Run Unit := do
  let format := byteFormat t.anyNegative
  Run.put title
  if full then
    Run.put ":\n"
    let channels := (size.headD 0).toNat
    if size.getD 1 0 = 1 ∧ size.getD 2 0 = 1 then
      let some step := channelsPerPass | throw .kind
      if step = 0 then throw .value
      for i in if step < 0 then [] else runStarts channels step.toNat do
        let last := min (i + step.toNat) channels
        Run.put (if last > i + 1 then s!"Channels #{i} to #{last - 1}" else s!"Channel #{i}")
        Run.put (← passNote i passes channelsPerPass)
        Run.putLine (Text.renderGridWith format (t.slice i last).squeeze)
    else
      for i in List.range channels do
        Run.put s!"Channel #{i}"
        Run.put (← passNote i passes channelsPerPass)
        if i ≥ t.dim 0 then throw .index
        Run.putLine (Text.renderGridWith format (t.part i))
  Run.put "\n"

def printNumbers (full : Bool) (title : String) (xs : Option (Array Int)) (step : Nat := 16) :
    Run Unit := do
  let n := (xs.map (·.size)).getD 0
  let row (a : Array Int) : Tensor := Tensor.ofFn [a.size] fun k => a.getD k 0
  if full then
    match xs with
    | none => Run.putLine s!"{title}: None"
    | some a =>
      if n ≤ step then Run.putLine s!"{title}: {Text.renderGrid (row a)}"
      else
        let format := byteFormat (a.any (· < 0))
        Run.putLine s!"{title}:"
        for i in runStarts n step do
          let last := min (i + step) n
          Run.putLine (if last > i + 1 then s!"Output channels #{i} to #{last - 1}:"
            else s!"Output channel #{i}\"")
          Run.putLine (Text.renderGridWith format (row (a.extract i last)).squeeze)
    Run.put "\n"
  else if n > 0 then Run.putLine s!"\n{title} SIZE: {n}"
  else Run.put "\n"

def showKernel (t : Tensor) : Run Unit := do
  let template ← Run.lift (Text.Template.read (← Run.options).kernelFormat)
  Run.putLine (Text.renderGridWith template.render t)

def printKernels (kernel : Tensor) (size : Pair) (outputs : Int) : Run Unit := do
  for i in List.range outputs.toNat do
    if i ≥ kernel.dim 0 then throw .index
    let k := kernel.part i
    if size.row = 1 ∧ size.column = 1 then
      Run.putLine s!"Output channel #{i}"
      showKernel k.squeeze
    else if k.dim 0 < 8 then
      Run.putLine s!"Output channel #{i}"
      showKernel k
    else
      for j in runStarts (k.dim 0) 8 do
        Run.putLine s!"Output channel #{i} (input channels {j}-{min (k.dim 0) (j + 8) - 1})"
        showKernel (k.slice j (j + 8))

def showOutput (t : Tensor) (size : List Int) : Run Unit := do
  showTensor (if size.getD 1 0 = 1 ∧ size.getD 2 0 = 1 then t.squeeze else t)
  Run.put "\n"

end CnnForge.Simulator
