import CnnForge.Proofs.KernelBlocks

namespace CnnForge

attribute [local instance (2000)] instPowNat

open Outcome List Tensor

variable {i m j c : Nat} {before after : Packing} {s : PackSettings} {l : KernelLayer} {t : Tensor}

namespace KernelLayer

/-- A layer with the signed eight-bit weights `k` and with processors as packing asks for them. -/
structure Bytewise (l : KernelLayer) (d : Device) (k : Tensor) : Prop where
  kernel : l.kernel = some k
  quantization : l.quantization = 8
  groups : l.groups = 1
  flatten : l.flatten = false
  interleaved : l.interleaved = false
  values : ∀ x ∈ k.data, -128 ≤ x ∧ x ≤ 127
  kernels : l.outputChannels * l.inputChannels ≤ k.dim 0
  inputs : l.inputChannels ≤ l.inExpand * l.inExpandThresh
  outputs : l.outputChannels ≤ l.outExpand * l.outExpandThresh
  inputProcessors : Bits.count l.processors = l.inExpandThresh
  outputProcessors : ∃ n, l.outputProcessors = (2 ^ l.outExpandThresh - 1) * 2 ^ (d.shared * n)

/-- The weight for position `j` of the kernel of output channel `m` and input channel `c`: kernels go
backwards, and a channel that the layer does not have counts as zero. -/
def weight (l : KernelLayer) (k : Tensor) (m c j : Nat) : Int :=
  if m < l.outputChannels ∧ c < l.inputChannels then
    (k.part (m * l.inputChannels + c)).flat (l.kernelBytes - 1 - j)
  else 0

end KernelLayer

theorem Tensor.part_mem {P : Int → Prop} (all : ∀ x ∈ t.data, P x) (zero : P 0) (i q : Nat) :
    P ((t.part i).flat q) := by
  have every : ∀ q, P (t.flat q) := by
    intro q
    unfold flat
    rw [Array.getD_eq_getD_getElem?]
    cases found : t.data[q]? with
    | none => exact zero
    | some x => exact all x (Array.mem_of_getElem? found)
  unfold part
  split
  · exact every q
  · unfold flat ofFn
    rw [Array.getD_eq_getD_getElem?, Array.getElem?_ofFn]
    split
    · exact every _
    · exact zero

namespace KernelLayer.Bytewise

variable {l : KernelLayer} {d : Device} {k : Tensor} (bytewise : l.Bytewise d k)
include bytewise

theorem perByte : l.perByte = 1 := by
  simp [KernelLayer.perByte, KernelLayer.bits, bytewise.quantization]

theorem bits : l.bits = 8 := by
  simp [KernelLayer.bits, bytewise.quantization]

theorem packs : l.Packs d k where
  arrange := by
    simp [KernelLayer.arrange, bytewise.quantization, bytewise.kernel, bytewise.flatten, bytewise.interleaved]
    rfl
  some_weights := by simp [bytewise.perByte]
  bits := by rw [bytewise.perByte, bytewise.bits]
  groups := bytewise.groups
  flatten := bytewise.flatten
  inputProcessors := bytewise.inputProcessors
  outputProcessors := by
    simp only [Nat.shiftLeft_eq, Nat.one_mul]
    exact bytewise.outputProcessors

theorem weight_range (m c j : Nat) : -128 ≤ l.weight k m c j ∧ l.weight k m c j ≤ 127 := by
  unfold KernelLayer.weight
  split
  · exact part_mem bytewise.values (by omega) _ _
  · omega

theorem blockWeight_eq (input : c < l.inExpand * l.inExpandThresh) (m j : Nat) :
    l.blockWeight k (c % l.inExpandThresh) (m * l.inExpand + c / l.inExpandThresh) j 0 = l.weight k m c j := by
  have pass : c / l.inExpandThresh < l.inExpand := Nat.div_lt_of_lt_mul (Nat.mul_comm l.inExpand _ ▸ input)
  have channel : (m * l.inExpand + c / l.inExpandThresh) / l.inExpand = m := by
    rw [Nat.mul_comm, Nat.mul_add_div (Nat.zero_lt_of_lt pass), Nat.div_eq_of_lt pass, Nat.add_zero]
  have rest : (m * l.inExpand + c / l.inExpandThresh) % l.inExpand = c / l.inExpandThresh := by
    rw [Nat.mul_comm, Nat.mul_add_mod, Nat.mod_eq_of_lt pass]
  have parts := Nat.mod_le c l.inExpandThresh
  simp only [blockWeight, HasKernel, kernelWeight, KernelLayer.weight, bytewise.perByte, Nat.mul_one, Nat.add_zero,
    kernelNumber_eq input, channel, rest, Nat.div_add_mod']
  by_cases present : m < l.outputChannels ∧ c < l.inputChannels
  · have step : (m + 1) * l.inputChannels ≤ l.outputChannels * l.inputChannels := Nat.mul_le_mul_right _ present.1
    have kernels := bytewise.kernels
    rw [Nat.succ_mul] at step
    rw [if_pos present, if_pos (by omega), if_pos (by omega)]
  · rw [if_neg present, if_neg fun there => present ⟨there.2, there.1.1⟩]

end KernelLayer.Bytewise

/-- Byte `j` of the kernel of output channel `m` and input channel `c` as the hardware reads it: a
processor takes all kernels of a channel after each other, and a word from its end on. -/
def KernelLayer.storedWeight? (l : KernelLayer) (memory : KernelMemory) (offset m c j : Nat) : Option Int := do
  let p ← (Bits.positions l.processors)[c % l.inExpandThresh]?
  let t := (m * l.inExpand + c / l.inExpandThresh) * l.kernelBytes + j
  let b ← (memory.bytesAt p (offset + t / 9))[8 - t % 9]?
  return Bits.signed b

theorem KernelLayer.Bytewise.pack_weight {k : Tensor} {afterPlain : Bool} {span : KernelSpan} {middle : Packing}
    (bytewise : l.Bytewise s.device k) (plain : (decide (i = 0) && s.quad) = false)
    (empty : ∀ p column, before.memory.stored p column = [])
    (run : (l.pack s i afterPlain).run before = .ok span middle) (extended : Packing.Extends middle after)
    (output : m < l.outExpand * l.outExpandThresh) (input : c < l.inExpand * l.inExpandThresh)
    (byte : j < l.kernelBytes) : l.storedWeight? after.memory span.offset.toNat m c j = some (l.weight k m c j) := by
  obtain ⟨p, b, found, stored, whole, fields⟩ := bytewise.packs.pack_byte plain empty run extended output input byte
    (by rw [bytewise.perByte, Nat.div_one]) (fun _ _ => .inr bytewise.perByte)
  have weight := fields 0 bytewise.packs.some_weights
  rw [bytewise.blockWeight_eq input, bytewise.bits, Bits.down, Int.shiftRight_zero] at weight
  obtain ⟨lower, upper⟩ := bytewise.weight_range m c j
  have value : b = Bits.low 8 (l.weight k m c j) := whole.symm.trans weight
  simp only [KernelLayer.storedWeight?, found, Option.bind_eq_bind, Option.bind_some, stored, Option.pure_def, value,
    Bits.signed_low lower upper]

namespace KernelMemory

/-- Signed eight-bit weights are read back from kernel memory as they were, if a layer is the first one
that is packed. Channels that the layer does not have are zero. -/
theorem load_weights {s : LoaderSettings} {layers : List KernelLayer} {spans : List KernelSpan}
    {before after : Session} {d : Device} {l : KernelLayer} {k : Tensor} {i : Nat}
    (run : (load s layers).run before = .ok spans after) (device : before.device = some d)
    (number : layers[i]? = some l) (active : l.active = true) (reached : before.options.firstLayer ≤ i)
    (unpacked : ∀ j < i, ∀ earlier, layers[j]? = some earlier →
      j < before.options.firstLayer ∨ earlier.active = false)
    (plain : (decide (i = 0) && before.options.fastFifoQuad) = false) (bytewise : l.Bytewise d k) :
    ∃ packed span,
      (packLayers (packSettings before.options d) layers before.options.firstLayer).run {} =
        .ok spans packed ∧
      spans[i]? = some span ∧
      (∀ m < l.outputChannels, ∀ c < l.inputChannels, ∀ j < l.kernelBytes,
        l.storedWeight? packed.memory span.offset.toNat m c j =
          some ((k.part (m * l.inputChannels + c)).flat (l.kernelBytes - 1 - j))) ∧
      (∀ m < l.outExpand * l.outExpandThresh, ∀ c < l.inExpand * l.inExpandThresh, ∀ j < l.kernelBytes,
        l.outputChannels ≤ m ∨ l.inputChannels ≤ c →
          l.storedWeight? packed.memory span.offset.toNat m c j = some 0) := by
  obtain ⟨packed, span, start, middle, afterPlain, ran, place, empty, layerRun, extended, _⟩ :=
    load_first run device number active reached unpacked
  refine ⟨packed, span, ran, place, ?_, ?_⟩
  · intro m output c input j byte
    rw [bytewise.pack_weight plain empty layerRun extended (Nat.lt_of_lt_of_le output bytewise.outputs)
      (Nat.lt_of_lt_of_le input bytewise.inputs) byte, KernelLayer.weight, if_pos ⟨output, input⟩]
  · intro m output c input j byte absent
    rw [bytewise.pack_weight plain empty layerRun extended output input byte, KernelLayer.weight, if_neg (by omega)]

def twoPassLayer : KernelLayer :=
  { kernel := some (ofFn [6, 3, 3] fun i => 3 * i - 80), kernelSize := ⟨3, 3⟩, quantization := 8,
    processors := 5, outputProcessors := 3 * 2 ^ 4, inputChannels := 3, outputChannels := 2, outExpand := 1,
    outExpandThresh := 2, inExpand := 2, inExpandThresh := 2, groups := 1 }

def threeProcessorDevice : Device := { smallDevice with maxProcessors := 3 }

def threeProcessors : Session :=
  { device := some threeProcessorDevice, options := { greedyKernels := false },
    bus := { kind := .program } }

theorem twoPassLayer_bytewise :
    twoPassLayer.Bytewise threeProcessorDevice
      (ofFn [6, 3, 3] fun i => 3 * i - 80) where
  kernel := rfl
  quantization := rfl
  groups := rfl
  flatten := rfl
  interleaved := rfl
  values := by decide
  kernels := by decide
  inputs := by decide
  outputs := by decide
  inputProcessors := by decide
  outputProcessors := ⟨1, rfl⟩

set_option maxRecDepth 20000 in
theorem load_twoPassLayer :
    ∃ spans after packed span,
      (load {} [{ pointLayer 1 with active := false }, twoPassLayer, pointLayer 1]).run threeProcessors =
        .ok spans after ∧
      (packLayers (packSettings threeProcessors.options threeProcessorDevice)
        [{ pointLayer 1 with active := false }, twoPassLayer, pointLayer 1] 0).run {} = .ok spans packed ∧
      spans[1]? = some span ∧
      (∀ m < 2, ∀ c < 3, ∀ j < 9, twoPassLayer.storedWeight? packed.memory span.offset.toNat m c j =
        some ((part (ofFn [6, 3, 3] fun i => 3 * i - 80) (m * 3 + c)).flat (9 - 1 - j))) ∧
      (∀ m < 2, ∀ c < 4, ∀ j < 9, 2 ≤ m ∨ 3 ≤ c →
        twoPassLayer.storedWeight? packed.memory span.offset.toNat m c j = some 0) := by
  have returns : (match (load {} [{ pointLayer 1 with active := false }, twoPassLayer, pointLayer 1]).run
      threeProcessors with
      | .ok _ _ => true
      | .error _ _ => false) = true := by cbv
  cases ran : (load {} [{ pointLayer 1 with active := false }, twoPassLayer, pointLayer 1]).run
      threeProcessors with
  | error e st => simp [ran] at returns
  | ok spans after =>
    obtain ⟨packed, span, packing, place, weights, zeros⟩ := load_weights ran rfl
      (i := 1) (l := twoPassLayer) rfl rfl (by decide)
      (by
        intro j less earlier found
        obtain rfl : j = 0 := by omega
        cases found
        exact .inr rfl) rfl twoPassLayer_bytewise
    exact ⟨spans, after, packed, span, rfl, packing, place, weights, zeros⟩

end KernelMemory

end CnnForge
