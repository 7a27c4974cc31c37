import CnnForge.Compute.Pooling

namespace CnnForge.Statistics

attribute [local instance (2000)] Zero.ofOfNat0

structure MemoryUse where
  weights : List (Option Tensor × Int) := []
  biasBytes : Int := 0

def percentText (used total : Int) : String :=
  toString (Compute.roundHalfEven (used * 100) total.toNat)

def usageText (used total : Int) : String :=
  s!"{Text.grouped used} bytes out of {Text.grouped total} bytes total "
    ++ s!"({percentText used total}%)\n"

def kernelBytes (d : Device) : Int :=
  ((List.range d.maxProcessors).map fun (p : Nat) => ((d.maskWidth p * 9 : Nat) : Int)).sum

def weightBytes (weights : List (Option Tensor × Int)) : Int :=
  (weights.map fun (t, bits) =>
    match t with
    | some t => Int.fdiv (t.size * bits.natAbs) 8
    | none => 0).sum

def countsText (ops macc comp add mul bitwise : Int) : String :=
  s!"{Text.grouped ops} ops ({Text.grouped macc} macc; {Text.grouped comp} comp; "
    ++ s!"{Text.grouped add} add; {Text.grouped mul} mul; {Text.grouped bitwise} bitwise)\n"

def summary (s : Statistics) (d : Device) (debug : Bool) (layers : List Int)
    (use : Option MemoryUse) (factor : Int := 1) (spaces : Nat := 0) : Except Failure String := do
  let sp := "".pushn ' ' spaces
  let total (c : Counter) : Int := factor * s.total c
  let head := s!"{sp}SUMMARY OF OPS\n{sp}Hardware: "
    ++ countsText (factor * s.ops) (total .macc) (total .comp) (total .add) (total .mul)
      (total .bitwise)
    ++ (if debug then s!"{sp}          True MACs: {Text.grouped (total .trueMacc)}\n" else "")
  let lines ← layers.mapM fun l => do
    let get (c : Counter) : Except Failure Int := do return factor * (← s.get l c)
    return s!"{sp}  Layer {l}: " ++ countsText (factor * (← s.layerOps l)) (← get .macc)
      (← get .comp) (← get .add) (← get .mul) (← get .bitwise)
  let software :=
    if s.total .swMacc > 0 then
      s!"{sp}Software: {Text.grouped (factor * s.softwareOps)} ops "
        ++ s!"({Text.grouped (total .swMacc)} macc; {Text.grouped (total .swComp)} comp)\n"
    else ""
  let memory := match use with
    | some u =>
      if d.isSoftware then ""
      else
        s!"\n{sp}RESOURCE USAGE\n{sp}Weight memory: "
          ++ usageText (weightBytes u.weights) (kernelBytes d)
          ++ s!"{sp}Bias memory:   " ++ usageText u.biasBytes (d.biasSize * d.groups)
    | none => ""
  return head ++ String.join lines ++ software ++ memory

end CnnForge.Statistics
