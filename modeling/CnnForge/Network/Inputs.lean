import CnnForge.Report
import CnnForge.Tensor.Channels

namespace CnnForge.Network

def joinProblem (first : Tensor) (rest : List Tensor) : Option String :=
  (rest.zipIdx 1).findSome? fun (t, k) =>
    if t.rank != first.rank then
      some ("all the input arrays must have same number of dimensions, but the array at index 0 "
        ++ s!"has {first.rank} dimension(s) and the array at index {k} has {t.rank} dimension(s)")
    else
      ((List.range first.rank).drop 1).findSome? fun i =>
        if t.dim i != first.dim i then
          some ("all the input array dimensions except for the concatenation axis must match "
            ++ s!"exactly, but along dimension {i}, the array at index 0 has size {first.dim i} and the "
            ++ s!"array at index {k} has size {t.dim i}")
        else none

def join : List Tensor → Checked Tensor
  | [] => refuse "need at least one array to concatenate"
  | t :: rest =>
    match joinProblem t rest with
    | some problem => refuse problem
    | none => Checked.orFail .value (Tensor.concat? (t :: rest))
where
  refuse (problem : String) : Checked Tensor :=
    Checked.stop s!"Error in input data concatenation layer: {problem}"

/-- The input of a layer: the outputs with the given numbers, joined by channel, or the latest
output. Number -1 is the sample input. -/
def gather (outputs : Array Tensor) : Option (List Int) → Checked Tensor
  | none => Checked.lift (elementAt outputs (-1))
  | some sources => do
    join (← sources.mapM fun i => Checked.lift (elementAt outputs (i + 1)))

def operandsOf (interleaved : Bool) (count : Int) (t : Tensor) : Except Failure Tensor :=
  let parts :=
    if count > 1 then
      if interleaved then t.splitColumns? count.toNat else t.splitChannels? count.toNat
    else t.reshape? (1 :: t.shape)
  match parts with
  | some t => .ok t
  | none => .error .value

end CnnForge.Network
