import CnnForge.Accelerator.Plan
import CnnForge.Report

namespace CnnForge.Accelerator

attribute [local instance (2000)] instPowNat

open Checked

def checkMaps (d : Device) (o : Options) (p : Plan) (i : Nat) (l : PlannedLayer) : Checked Nat := do
  refuseIf (l.inputChannels > d.maxChannels)
    (s!"Layer {i} is configured for {l.inputChannels} input channels, which exceeds the system "
      ++ s!"maximum of {d.maxChannels}.")
  refuseIf (l.outputChannels > d.maxChannels)
    (s!"Layer {i} is configured for {l.outputChannels} output channels, which exceeds the system "
      ++ s!"maximum of {d.maxChannels}.")
  let quad := i = p.start && o.fastFifoQuad
  let map := Text.hex 16 l.processors
  let count := Bits.count l.processors
  let each := l.inExpandThresh
  refuseIf (!quad && count != each)
    (s!"Layer {i} has {l.inputChannels} input channels using {l.inExpand} passes, and {l.operands} "
      ++ s!"operands ({each} processors per pass), but the enabled processor map 0x{map} has {count} "
      ++ s!"bits instead of the expected number of {each}.")
  refuseIf (quad && Bits.count p.inputProcessors != each)
    (s!"Layer {i} has {l.inputChannels} input channels using {l.inExpand} passes ({each} processors "
      ++ s!"per pass), but the enabled processor map 0x{map} has {count} bits instead of the expected "
      ++ s!"number of {each}.")
  let outMap ← orFail .kind l.outputProcessors
  let outCount := Bits.count outMap
  refuseIf (outCount != l.outExpandThresh)
    (s!"Layer {i} has {l.outputChannels} output channels using {l.outExpand} passes "
      ++ s!"({l.outExpandThresh} processors per pass), but the processor output map "
      ++ s!"0x{Text.hex 16 outMap} has {outCount} bits instead of the expected number of "
      ++ s!"{l.outExpandThresh}.")
  return outMap

def packedDown (map : Nat) : Nat := if map = 0 then 0 else map >>> (Bits.lowest map).toNat

def checkPacked (d : Device) (i : Nat) (l : PlannedLayer) (outMap : Nat) : Checked Unit := do
  for g in List.range d.groups do
    refuseIf (packedDown (groupBits d outMap g) != 2 ^ Bits.count (groupBits d l.processors g) - 1)
      (s!"Layer {i} is a pass-through layer. The output processors must be a packed version of the "
        ++ s!"input processors for each x16. Configured are: input {Text.hex 16 l.processors}, output "
        ++ s!"{Text.hex 16 outMap}.")

def checkDepthwise (d : Device) (i : Nat) (l : PlannedLayer) (outMap : Nat) : Checked Bool := do
  let first := Bits.lowest l.processors
  refuseIf ((Bits.lowest outMap).fmod d.shared != 0)
    (s!"Layer {i} is a depth-wise convolution. Output processors must be aligned to a multiple of "
      ++ s!"4. Configured for this layer: {Text.hex 16 outMap}.")
  refuseIf (first.fmod d.shared != 0 && packedDown l.processors / 2 ^ d.groupSize > 0)
    (s!"Layer {i} is a depth-wise convolution. When spanning groups, processors must be aligned to "
      ++ s!"a multiple of 4. Configured for this layer: {Text.hex 16 l.processors}.")
  if l.processors != outMap then
    warn (s!"Layer {i}: depth-wise convolution moves data across processors. This has a performance "
      ++ s!"impact. Input {Text.hex 16 l.processors}, output {Text.hex 16 outMap}.")
  return l.processors == outMap

def needsEmulation (d : Device) (l : PlannedLayer) : Bool :=
  d.features.emulatesMultiPassElementwise && l.operands > 1 && l.inExpand > 1
    && l.operands * l.inExpand != l.operands + l.inExpand

def fillGroups (d : Device) (o : Options) (p : Plan) (i : Nat) : Checked PlannedLayer := do
  let l := p.layer i
  let outMap ← checkMaps d o p i l
  if l.isPassthrough then checkPacked d i l outMap
  let broadcast ← if l.isDepthwise then some <$> checkDepthwise d i l outMap else pure none
  let emulated := needsEmulation d l
  refuseIf (emulated && (!l.isPassthrough || l.pools || l.poolStride.anyAbove 1))
    (s!"The element-wise operation in layer {i} exceeds a multi-pass of 2 and therefore does not "
      ++ "support pooling or convolution.")
  if i != p.start && l.inputChannels.fmod 4 != 0 then
    warn (s!"Layer {i} uses an input channel count ({l.inputChannels}) that is not a multiple of 4. "
      ++ "Best energy performance is achieved with multiples of 4.")
  return { l with
    groupMap := some (groupsOf d l.processors), broadcast, emulatesElementwise := emulated }

def checkBiasGroups (o : Options) (p : Plan) : Checked Unit := do
  let shown := Text.bracketed (p.groupsUsed.map toString)
  for i in p.used do
    for g in (p.layer i).biasGroups.getD [] do
      if !p.groupsUsed.any fun u => (u : Int) == g then
        report (!o.ignoreBiasGroups)
          s!"Layer {i}: `bias_group` references the unused group {g}. Used x16 groups for this network are: {shown}."

def planGroups (d : Device) (o : Options) (p : Plan) : Checked Plan := do
  let p ← p.used.foldlM (fun p i => do
    let l ← fillGroups d o p i
    return { p with
      layers := p.layers.set! i l
      processorsUsed := p.processorsUsed ||| l.processors }) p
  let outMap ← orFail .kind (p.layer p.final).outputProcessors
  let p := { p with groupsUsed := groupsOf d (p.processorsUsed ||| outMap) }
  refuseIf (!p.groupsUsed.contains 0) "Group 0 is not used, this is currently unsupported."
  checkBiasGroups o p
  return p

end CnnForge.Accelerator
