import CnnForge.Proofs.KernelRoundTrip

namespace CnnForge

open Outcome List KernelLayer Bits Tensor

variable {j block i c n m : Nat} {l : KernelLayer}

namespace KernelLayer

/-- A layer with the weights `k`, several of which share a byte, and with processors as packing asks for them. -/
structure Subbyte (l : KernelLayer) (d : Device) (k : Tensor) : Prop where
  kernel : l.kernel = some k
  quantization : l.quantization = 1 ∨ l.quantization = 2 ∨ l.quantization = 4
  groups : l.groups = 1
  flatten : l.flatten = false
  interleaved : l.interleaved = false
  kernels : k.dim 0 = l.outputChannels * l.inputChannels
  inputs : l.inputChannels ≤ l.inExpand * l.inExpandThresh
  outputs : l.outputChannels ≤ l.outExpand * l.outExpandThresh
  inputProcessors : Bits.count l.processors = l.inExpandThresh
  outputProcessors : ∃ n, l.outputProcessors = ((1 <<< l.outExpandThresh) - 1) <<< (d.shared * n)

theorem Subbyte.two_le_perByte {d : Device} {k : Tensor} (subbyte : l.Subbyte d k) : 2 ≤ l.perByte := by
  unfold perByte bits
  rcases subbyte.quantization with same | same | same <;> rw [same] <;> decide

theorem Subbyte.packs {d : Device} {k : Tensor} (subbyte : l.Subbyte d k) : l.Packs d k where
  arrange := by
    have nonzero : l.quantization ≠ 0 ∧ l.quantization ≠ -1 := by
      rcases subbyte.quantization with same | same | same <;> rw [same] <;> decide
    simp [arrange, nonzero, subbyte.kernel, subbyte.flatten, subbyte.interleaved]
    rfl
  some_weights := Nat.lt_of_lt_of_le (by decide) subbyte.two_le_perByte
  bits := by
    unfold perByte bits
    rcases subbyte.quantization with same | same | same <;> rw [same] <;> decide
  groups := subbyte.groups
  flatten := subbyte.flatten
  inputProcessors := subbyte.inputProcessors
  outputProcessors := subbyte.outputProcessors

section

variable {l : KernelLayer} {k : Tensor} {d : Device} {rank block m c : Nat}

/-- No pass has fewer input channels than processors while another output channel follows it. -/
def EvenPasses (l : KernelLayer) : Prop :=
  l.inExpand ≤ 1 ∨ l.inputChannels = l.inExpand * l.inExpandThresh ∨ l.outputChannels ≤ 1

variable (subbyte : l.Subbyte d k) (even : l.EvenPasses)
include subbyte even

theorem Subbyte.hasKernel_of_le (passes : 0 < l.inExpand)
    (processor : rank < l.inExpandThresh) (kernel : l.HasKernel k rank block) {b : Nat} (earlier : b ≤ block) :
    l.HasKernel k rank b := by
  obtain ⟨input, output⟩ := kernel
  have channels : b / l.inExpand * l.perByte * l.inputChannels ≤ block / l.inExpand * l.perByte * l.inputChannels :=
    Nat.mul_le_mul_right _ (Nat.mul_le_mul_right _ (Nat.div_le_div_right earlier))
  refine ⟨?_, by omega⟩
  rcases even with single | full | last
  · obtain one : l.inExpand = 1 := by omega
    rw [one, Nat.mod_one] at input ⊢
    exact input
  · have step := Nat.mul_le_mul_right l.inExpandThresh (Nat.succ_le_of_lt (Nat.mod_lt b passes))
    rw [Nat.succ_mul] at step
    omega
  · rw [subbyte.kernels] at output
    have first : block / l.inExpand = 0 := by
      apply Nat.eq_zero_of_not_pos
      intro second
      have more := Nat.mul_le_mul_right l.inputChannels (Nat.mul_le_mul second subbyte.packs.some_weights)
      have fewer := Nat.mul_le_mul_right l.inputChannels last
      omega
    have inside : block < l.inExpand := (Nat.div_eq_zero_iff.mp first).resolve_left (by omega)
    rw [Nat.mod_eq_of_lt inside] at input
    rw [Nat.mod_eq_of_lt (by omega)]
    have step := Nat.mul_le_mul_right l.inExpandThresh earlier
    omega

theorem Subbyte.hasKernel_present (output : m < l.outputChannels)
    (input : c < l.inputChannels) :
    l.HasKernel k (c % l.inExpandThresh) ((m * l.inExpand + c / l.inExpandThresh) / l.perByte) := by
  have fits := Nat.lt_of_lt_of_le input subbyte.inputs
  have positive : 0 < l.inExpandThresh := Nat.pos_of_ne_zero fun zero => by simp [zero] at fits
  have pass : c / l.inExpandThresh < l.inExpand := Nat.div_lt_of_lt_mul (Nat.mul_comm l.inExpand _ ▸ fits)
  have processor := Nat.mod_lt c positive
  have parts := Nat.div_add_mod' c l.inExpandThresh
  generalize c / l.inExpandThresh = e at pass parts ⊢
  constructor
  · rcases even with single | full | last
    · rw [show l.inExpand = 1 by omega, Nat.mod_one]
      omega
    · have step := Nat.mul_le_mul_right l.inExpandThresh
        (Nat.succ_le_of_lt (Nat.mod_lt ((m * l.inExpand + e) / l.perByte) (Nat.zero_lt_of_lt pass)))
      rw [Nat.succ_mul] at step
      omega
    · obtain rfl : m = 0 := by omega
      rw [Nat.zero_mul, Nat.zero_add]
      have less : e / l.perByte ≤ e := Nat.div_le_self _ _
      rw [Nat.mod_eq_of_lt (by omega)]
      have step := Nat.mul_le_mul_right l.inExpandThresh less
      omega
  · have channel : (m * l.inExpand + e) / l.perByte / l.inExpand * l.perByte ≤ m := by
      rw [Nat.div_div_eq_div_mul, Nat.mul_comm l.perByte, ← Nat.div_div_eq_div_mul, Nat.mul_comm m,
        Nat.mul_add_div (Nat.zero_lt_of_lt pass), Nat.div_eq_of_lt pass]
      exact Nat.div_mul_le_self _ _
    have step := Nat.mul_le_mul_right l.inputChannels (Nat.succ_le_of_lt (Nat.lt_of_le_of_lt channel output))
    rw [Nat.succ_mul] at step
    rw [subbyte.kernels]
    omega

theorem Subbyte.kernelWeight_eq
    (input : c < l.inExpand * l.inExpandThresh) (kernel : l.HasKernel k (c % l.inExpandThresh) block) (j : Nat) :
    l.kernelWeight k (m * l.inputChannels + c) j = l.weight k m c j := by
  unfold kernelWeight weight
  rw [subbyte.kernels]
  by_cases present : m < l.outputChannels ∧ c < l.inputChannels
  · have step := Nat.mul_le_mul_right l.inputChannels (Nat.succ_le_of_lt present.1)
    rw [Nat.succ_mul] at step
    rw [if_pos present, if_pos (by omega)]
  · rw [if_neg present, if_neg]
    intro less
    have output : m < l.outputChannels := by
      apply Nat.lt_of_mul_lt_mul_right (a := l.inputChannels)
      omega
    apply present ⟨output, _⟩
    rcases even with single | full | last
    · have one : l.inExpand = 1 := by
        cases passes : l.inExpand with
        | zero => simp [passes] at input
        | succ n => omega
      rw [one, Nat.one_mul] at input
      have only := kernel.1
      rw [Nat.mod_eq_of_lt input] at only
      omega
    · omega
    · obtain rfl : m = 0 := by omega
      have one := Nat.mul_le_mul_right l.inputChannels last
      omega

end

end KernelLayer

/-- The weight of output channel `m` and input channel `c` for byte `j` of a kernel as the hardware reads it: it
takes the kernels of a processor one after the other, as many at once as share bytes. -/
def KernelLayer.storedField? (l : KernelLayer) (memory : KernelMemory) (offset m c j : Nat) : Option Int := do
  let p ← (positions l.processors)[c % l.inExpandThresh]?
  let index := m * l.inExpand + c / l.inExpandThresh
  let t := index / l.perByte * l.kernelBytes + j
  let b ← (memory.bytesAt p (offset + t / 9))[8 - t % 9]?
  return low l.bits (down b (index % l.perByte * l.bits))

namespace KernelLayer.Subbyte

variable {l : KernelLayer} {s : PackSettings} {k : Tensor} {i : Nat} {afterPlain : Bool} {span : KernelSpan}
  {before middle after : Packing} (subbyte : l.Subbyte s.device k) (plain : (decide (i = 0) && s.quad) = false)
  (empty : ∀ p column, before.memory.stored p column = [])
  (run : (l.pack s i afterPlain).run before = .ok span middle)
include subbyte plain empty run

theorem pack_kernel_field (extended : Packing.Extends middle after) (output : m < l.outExpand * l.outExpandThresh)
    (input : c < l.inExpand * l.inExpandThresh) (byte : j < l.kernelBytes)
    (kernels : ∀ b ≤ (m * l.inExpand + c / l.inExpandThresh) / l.perByte, l.HasKernel k (c % l.inExpandThresh) b) :
    l.storedField? after.memory span.offset.toNat m c j =
      some (low l.bits (l.kernelWeight k (m * l.inputChannels + c) j)) := by
  obtain ⟨p, b, found, stored, _, fields⟩ := subbyte.packs.pack_byte plain empty run extended output input byte rfl
    fun b le => .inl (kernels b le)
  have kernel := kernels _ (Nat.le_refl _)
  have present : (m * l.inExpand + c / l.inExpandThresh) / l.perByte / l.inExpand * l.perByte < l.outputChannels := by
    apply Nat.lt_of_mul_lt_mul_right (a := l.inputChannels)
    have below := kernel.2
    rw [subbyte.kernels] at below
    omega
  have field := fields _ (Nat.mod_lt (m * l.inExpand + c / l.inExpandThresh) subbyte.packs.some_weights)
  rw [blockWeight, if_pos ⟨kernel, present⟩, Nat.div_add_mod', kernelNumber_eq input] at field
  simp only [storedField?, found, Option.bind_eq_bind, Option.bind_some, stored, Option.pure_def, field]

theorem pack_absent_field (output : m < l.outExpand * l.outExpandThresh) (input : c < l.inExpand * l.inExpandThresh)
    (absent : ∀ b, (m * l.inExpand + c / l.inExpandThresh) / l.perByte ≤ b → ¬ l.HasKernel k (c % l.inExpandThresh) b) :
    l.storedField? middle.memory span.offset.toNat m c j = some 0 := by
  obtain ⟨n, thresh⟩ : ∃ n, l.outExpandThresh = n + 1 :=
    Nat.exists_eq_succ_of_ne_zero fun zero => by simp [zero] at output
  have positive : 0 < l.inExpandThresh := Nat.pos_of_ne_zero fun zero => by simp [zero] at input
  obtain ⟨p, found, complete, _, reads⟩ := subbyte.packs.pack_reads plain empty run thresh (Nat.mod_lt c positive)
  have zero : ∀ x, low l.bits (down (byte 0) x) = 0 := fun x =>
    (congrArg (low l.bits) (down_zero x)).trans (low_zero _)
  simp only [storedField?, found, Option.bind_eq_bind, Option.bind_some, reads,
    subbyte.packs.stream_zero s thresh rfl complete absent, Option.pure_def, zero]

/-- In the first pass that is short of input channels, the field of a channel that the layer does not have is that
of the first output channel's kernel number `c`: a kernel of another output channel. -/
theorem pack_short_pass (extended : Packing.Extends middle after) (input : c < l.inExpand * l.inExpandThresh)
    (later : l.inExpandThresh ≤ c) (short : c < l.inputChannels + l.inExpandThresh)
    (kernel : c < l.outputChannels * l.inputChannels) (byte : j < l.kernelBytes) :
    l.storedField? after.memory span.offset.toNat 0 c j =
      some (low l.bits ((k.part c).flat (l.kernelBytes - 1 - j))) := by
  have positive : 0 < l.inExpandThresh := Nat.pos_of_ne_zero fun zero => by simp [zero] at input
  have outputs : 0 < l.outputChannels := Nat.pos_of_ne_zero fun zero => by simp [zero] at kernel
  have pass : c / l.inExpandThresh < l.inExpand := Nat.div_lt_of_lt_mul (Nat.mul_comm l.inExpand _ ▸ input)
  have second : 0 < c / l.inExpandThresh := Nat.div_pos later positive
  have parts := Nat.div_add_mod' c l.inExpandThresh
  -- Several weights share a byte, so the block is that of an earlier pass.
  have earlier : c / l.inExpandThresh / l.perByte < c / l.inExpandThresh :=
    Nat.div_lt_self second subbyte.two_le_perByte
  rw [subbyte.pack_kernel_field plain empty run extended
    (Nat.lt_of_lt_of_le outputs subbyte.outputs) input byte]
  · rw [Nat.zero_mul, Nat.zero_add, kernelWeight, subbyte.kernels, if_pos kernel]
  · rw [Nat.zero_mul, Nat.zero_add]
    intro b le
    have step := Nat.mul_le_mul_right l.inExpandThresh (Nat.lt_of_le_of_lt le earlier)
    rw [Nat.succ_mul] at step
    refine ⟨?_, ?_⟩
    · rw [Nat.mod_eq_of_lt (by omega)]
      omega
    · rw [Nat.div_eq_of_lt (by omega), Nat.zero_mul, Nat.zero_mul, subbyte.kernels]
      omega

variable (even : l.EvenPasses)
include even

theorem pack_present (extended : Packing.Extends middle after) (output : m < l.outputChannels)
    (input : c < l.inputChannels) (byte : j < l.kernelBytes) : l.storedField? after.memory span.offset.toNat m c j =
      some (low l.bits ((k.part (m * l.inputChannels + c)).flat (l.kernelBytes - 1 - j))) := by
  have fits := Nat.lt_of_lt_of_le input subbyte.inputs
  have positive : 0 < l.inExpandThresh := Nat.pos_of_ne_zero fun zero => by simp [zero] at fits
  have passes : 0 < l.inExpand := Nat.pos_of_ne_zero fun zero => by simp [zero] at fits
  have kernel := subbyte.hasKernel_present even output input
  rw [subbyte.pack_kernel_field plain empty run extended (Nat.lt_of_lt_of_le output subbyte.outputs) fits byte
    (fun b le => subbyte.hasKernel_of_le even passes (Nat.mod_lt c positive) kernel le),
    subbyte.kernelWeight_eq even fits kernel, weight, if_pos ⟨output, input⟩]

theorem pack_absent (output : m < l.outExpand * l.outExpandThresh) (input : c < l.inExpand * l.inExpandThresh)
    (byte : j < l.kernelBytes) (absent : l.outputChannels ≤ m ∨ l.inputChannels ≤ c) :
    l.storedField? middle.memory span.offset.toNat m c j = some 0 := by
  have positive : 0 < l.inExpandThresh := Nat.pos_of_ne_zero fun zero => by simp [zero] at input
  have passes : 0 < l.inExpand := Nat.pos_of_ne_zero fun zero => by simp [zero] at input
  by_cases kernel : l.HasKernel k (c % l.inExpandThresh) ((m * l.inExpand + c / l.inExpandThresh) / l.perByte)
  · rw [subbyte.pack_kernel_field plain empty run (Packing.SameMemory.extends _ _ rfl) output input byte
      (fun b le => subbyte.hasKernel_of_le even passes (Nat.mod_lt c positive) kernel le),
      subbyte.kernelWeight_eq even input kernel, weight, if_neg (by omega)]
    exact congrArg some (low_zero _)
  · apply subbyte.pack_absent_field plain empty run output input
    intro b later there
    exact kernel (subbyte.hasKernel_of_le even passes (Nat.mod_lt c positive) there later)

end KernelLayer.Subbyte

namespace KernelMemory

/-- Weights that share bytes are read back from kernel memory, if a layer is the first one that is packed and its
passes are even; channels that the layer does not have are zero. In a pass that is short of input channels, such a
channel has the weights of another output channel. -/
theorem load_fields {s : LoaderSettings} {layers : List KernelLayer} {spans : List KernelSpan}
    {before after : Session} {d : Device} {l : KernelLayer} {k : Tensor} {i : Nat}
    (run : (load s layers).run before = .ok spans after) (device : before.device = some d)
    (number : layers[i]? = some l) (active : l.active = true) (reached : before.options.firstLayer ≤ i)
    (unpacked : ∀ j < i, ∀ earlier, layers[j]? = some earlier →
      j < before.options.firstLayer ∨ earlier.active = false)
    (plain : (decide (i = 0) && before.options.fastFifoQuad) = false) (subbyte : l.Subbyte d k) :
    ∃ packed span,
      (packLayers (packSettings before.options d) layers before.options.firstLayer).run {} = .ok spans packed ∧
      spans[i]? = some span ∧
      (l.EvenPasses →
        (∀ m < l.outputChannels, ∀ c < l.inputChannels, ∀ j < l.kernelBytes,
          l.storedField? packed.memory span.offset.toNat m c j =
            some (low l.bits ((k.part (m * l.inputChannels + c)).flat (l.kernelBytes - 1 - j)))) ∧
        ((∀ later ∈ layers.drop (i + 1), later.active = false) →
          ∀ m < l.outExpand * l.outExpandThresh, ∀ c < l.inExpand * l.inExpandThresh, ∀ j < l.kernelBytes,
            l.outputChannels ≤ m ∨ l.inputChannels ≤ c →
              l.storedField? packed.memory span.offset.toNat m c j = some 0)) ∧
      (∀ c < l.inExpand * l.inExpandThresh, l.inExpandThresh ≤ c → l.inputChannels ≤ c →
        c < l.inputChannels + l.inExpandThresh → c < l.outputChannels * l.inputChannels → ∀ j < l.kernelBytes,
          l.storedField? packed.memory span.offset.toNat 0 c j =
            some (low l.bits ((k.part c).flat (l.kernelBytes - 1 - j)))) := by
  obtain ⟨packed, span, start, middle, afterPlain, ran, place, empty, layerRun, extended, last⟩ :=
    load_first run device number active reached unpacked
  refine ⟨packed, span, ran, place, ?_, ?_⟩
  · intro even
    refine ⟨?_, ?_⟩
    · intro m output c input j byte
      exact subbyte.pack_present plain empty layerRun even extended output input byte
    · intro inactive m output c input j byte absent
      rw [last inactive]
      exact subbyte.pack_absent plain empty layerRun even output input byte absent
  · intro c input later _ short kernel j byte
    exact subbyte.pack_short_pass plain empty layerRun extended input later short kernel byte

def nibbleLayer : KernelLayer :=
  { kernel := some (ofFn [12, 2] fun i => i % 16 - 8), kernelSize := ⟨2, 1⟩, quantization := 4,
    processors := 5, outputProcessors := 15 <<< 4, inputChannels := 4, outputChannels := 3, outExpand := 1,
    outExpandThresh := 4, inExpand := 2, inExpandThresh := 2, groups := 1 }

theorem nibbleLayer_subbyte :
    nibbleLayer.Subbyte threeProcessorDevice (ofFn [12, 2] fun i => i % 16 - 8) where
  kernel := rfl
  quantization := .inr (.inr rfl)
  groups := rfl
  flatten := rfl
  interleaved := rfl
  kernels := rfl
  inputs := by decide
  outputs := by decide
  inputProcessors := by decide
  outputProcessors := ⟨1, rfl⟩

set_option maxRecDepth 20000 in
theorem load_nibbleLayer :
    ∃ spans after packed span,
      (load {} [{ pointLayer 1 with active := false }, nibbleLayer]).run threeProcessors = .ok spans after ∧
      (packLayers (packSettings threeProcessors.options threeProcessorDevice)
        [{ pointLayer 1 with active := false }, nibbleLayer] 0).run {} = .ok spans packed ∧
      spans[1]? = some span ∧
      (∀ m < 3, ∀ c < 4, ∀ j < 2, nibbleLayer.storedField? packed.memory span.offset.toNat m c j =
        some (low 4 ((part (ofFn [12, 2] fun i => i % 16 - 8) (m * 4 + c)).flat (2 - 1 - j)))) ∧
      (∀ c < 4, ∀ j < 2, nibbleLayer.storedField? packed.memory span.offset.toNat 3 c j = some 0) := by
  have returns : (match (load {} [{ pointLayer 1 with active := false }, nibbleLayer]).run threeProcessors with
      | .ok _ _ => true
      | .error _ _ => false) = true := by cbv
  cases ran : (load {} [{ pointLayer 1 with active := false }, nibbleLayer]).run threeProcessors with
  | error e st => simp [ran] at returns
  | ok spans after =>
    obtain ⟨packed, span, packing, place, fields, _⟩ := load_fields ran rfl
      (i := 1) (l := nibbleLayer) rfl rfl (by decide)
      (by
        intro j less earlier found
        obtain rfl : j = 0 := by omega
        cases found
        exact .inr rfl) rfl nibbleLayer_subbyte
    obtain ⟨present, absent⟩ := fields (.inr (.inl rfl))
    refine ⟨spans, after, packed, span, rfl, packing, place, present, ?_⟩
    intro c input j byte
    exact absent (by simp) 3 (by decide) c input j byte (.inl (by decide))

def shortPassLayer : KernelLayer :=
  { kernel := some (ofFn [6, 1, 1] fun i => i + 1), kernelSize := ⟨1, 1⟩, quantization := 4,
    processors := 3, outputProcessors := 3, inputChannels := 3, outputChannels := 2, outExpand := 1,
    outExpandThresh := 2, inExpand := 2, inExpandThresh := 2, groups := 1 }

theorem shortPassLayer_subbyte :
    shortPassLayer.Subbyte threeProcessorDevice (ofFn [6, 1, 1] fun i => i + 1) where
  kernel := rfl
  quantization := .inr (.inr rfl)
  groups := rfl
  flatten := rfl
  interleaved := rfl
  kernels := rfl
  inputs := by decide
  outputs := by decide
  inputProcessors := by decide
  outputProcessors := ⟨0, rfl⟩

set_option maxRecDepth 20000 in
/-- The first output channel has a weight for the fourth of three input channels, and the weight 5 of the second
output channel and the second input channel is lost. -/
theorem load_misplaces_weights :
    ∃ spans after packed span,
      (load {} [shortPassLayer]).run threeProcessors = .ok spans after ∧
      (packLayers (packSettings threeProcessors.options threeProcessorDevice) [shortPassLayer] 0).run {} =
        .ok spans packed ∧
      spans[0]? = some span ∧ shortPassLayer.inputChannels = 3 ∧
      shortPassLayer.storedField? packed.memory span.offset.toNat 0 3 0 = some 4 ∧
      (part (ofFn [6, 1, 1] fun i => i + 1) (1 * 3 + 1)).flat 0 = 5 ∧
      shortPassLayer.storedField? packed.memory span.offset.toNat 1 1 0 = some 0 := by
  have returns : (match (load {} [shortPassLayer]).run threeProcessors with
      | .ok _ _ => true
      | .error _ _ => false) = true := by cbv
  cases ran : (load {} [shortPassLayer]).run threeProcessors with
  | error e st => simp [ran] at returns
  | ok spans after =>
    obtain ⟨packed, span, start, middle, afterPlain, packing, place, empty, layerRun, extended, last⟩ :=
      load_first ran rfl (i := 0) (l := shortPassLayer) rfl rfl (by decide) (by omega)
    refine ⟨spans, after, packed, span, rfl, packing, place, rfl, ?_, rfl, ?_⟩
    · rw [shortPassLayer_subbyte.pack_short_pass rfl empty layerRun extended (by decide) (by decide) (by decide)
        (by decide) (by decide)]
      rfl
    · rw [last (by simp)]
      apply shortPassLayer_subbyte.pack_absent_field rfl empty layerRun (by decide) (by decide)
      rintro b later ⟨input, output⟩
      simp [shortPassLayer, perByte, bits, Tensor.dim, Tensor.ofFn] at later input output
      omega

end KernelMemory

end CnnForge
