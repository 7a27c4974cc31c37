import CnnForge.Device.Basic
import CnnForge.Geometry

namespace CnnForge.Statistics

structure LatencyInput where
  elementwise : Int
  pool : Pair
  pooled : Pair
  passes : Int
  outputChannels : Int
  output : Pair
  padding : Pair
deriving Repr, Inhabited

namespace LatencyInput

def padCycles (l : LatencyInput) (each : Int) : Int :=
  each * 2 * (l.padding.row * (2 * l.padding.column + l.pooled.column)
    + l.padding.column * l.pooled.row)

def cycles (l : LatencyInput) (each : Int) : Int :=
  (l.elementwise + 1) * l.passes * (l.pool.product * l.pooled.product + l.padCycles each)
    + l.output.product * (l.outputChannels + each)

def explanation (l : LatencyInput) (each : Int) : String :=
  let p := l.padding
  s!"Input: eltwise {l.elementwise + 1} * in_expand {l.passes} "
    ++ s!"* (pool {l.pool.row}x{l.pool.column}={l.pool.product} * "
    ++ s!"pooled_dim {l.pooled.row}x{l.pooled.column}={l.pooled.product} + Pad: {each}*2*"
    ++ s!"({p.row}x({p.column}+{p.column}+{l.pooled.column})="
    ++ s!"{p.row * (2 * p.column + l.pooled.column)} + "
    ++ s!"{p.column}x{l.pooled.row}={p.column * l.pooled.row}))={l.padCycles each} + "
    ++ s!"TRAM shift: {each}x{l.output.row}x{l.output.column}={each * l.output.product} + "
    ++ s!"Output: {l.output.row}x{l.output.column}x{l.outputChannels}="
    ++ s!"{l.output.product * l.outputChannels}"

end LatencyInput

/-- Startup cycles, and cycles with explanation of every layer; unknown if a layer streams. -/
def latency (d : Device) (streaming : Bool) (layers : List LatencyInput) :
    Option (Int × List (Int × String)) :=
  if streaming then none
  else some (d.startCycles, layers.map fun l => (l.cycles d.padCycles, l.explanation d.padCycles))

end CnnForge.Statistics
