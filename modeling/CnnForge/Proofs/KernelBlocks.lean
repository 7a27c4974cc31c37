import CnnForge.Proofs.ByteLanes
import CnnForge.Proofs.KernelOwnership
import CnnForge.Proofs.KernelStream

namespace CnnForge

attribute [local instance (2000)] instPowNat

open Outcome List ArrangedKernels Bits Packing.SameMemory Placement KernelLayer

variable {j block k rank i p c n layer m bits x t first : Nat} {l : KernelLayer} {debug : Bool} {weights : List Int}
  {α : Type} {s : PackSettings} {all : List KernelLayer} {spans : List KernelSpan} {before after : Packing}
  {length length' : Int}

namespace Bits

theorem low_natCast (k x : Nat) : low k (x : Int) = ((x % (1 <<< k) : Nat) : Int) := by
  rw [low_eq_emod, Nat.one_shiftLeft]
  simp

theorem down_natCast (x k : Nat) : down (x : Int) k = ((x >>> k : Nat) : Int) := by
  rw [down, Int.shiftRight_eq_div_pow, Nat.shiftRight_eq_div_pow]
  simp

theorem up_natCast (x k : Nat) : up (x : Int) k = ((x <<< k : Nat) : Int) := by
  rw [up, Nat.shiftLeft_eq]
  simp

theorem low_low_of_le (le : j ≤ k) (x : Int) : low j (low k x) = low j x := by
  apply Int.emod_emod_of_dvd
  refine ⟨2 ^ (k - j), ?_⟩
  rw [← Int.pow_add, Nat.add_sub_cancel' le]

theorem exists_low_eq (k : Nat) (x : Int) : ∃ n : Nat, n < 1 <<< k ∧ low k x = n := by
  have positive : (0 : Int) < 2 ^ k := Int.pow_pos (by decide)
  refine ⟨(x % 2 ^ k).toNat, ?_, ?_⟩
  · have below := Int.emod_lt_of_pos x positive
    rw [Nat.one_shiftLeft, Int.toNat_lt (Int.emod_nonneg _ (by omega))]
    simpa using below
  · rw [low_eq_emod, Int.toNat_of_nonneg (Int.emod_nonneg _ (by omega))]

theorem field_above {v : Nat} (below : x < 1 <<< k) (small : v < 1 <<< bits) :
    (x ||| v <<< k) < 1 <<< (k + bits) ∧ (x ||| v <<< k) % (1 <<< k) = x ∧ (x ||| v <<< k) >>> k = v := by
  simp only [Nat.one_shiftLeft] at below small ⊢
  have sum : x ||| v <<< k = 2 ^ k * v + x := by
    rw [Nat.two_pow_add_eq_or_of_lt below, Nat.or_comm, Nat.shiftLeft_eq, Nat.mul_comm]
  rw [sum, Nat.pow_add, Nat.mul_add_mod, Nat.mod_eq_of_lt below, Nat.shiftRight_eq_div_pow,
    Nat.mul_add_div (Nat.two_pow_pos k), Nat.div_eq_of_lt below]
  have step := Nat.mul_le_mul_left (2 ^ k) (Nat.succ_le_of_lt small)
  rw [Nat.mul_succ] at step
  omega

theorem low_zero (k : Nat) : low k 0 = 0 := Int.zero_emod _

theorem down_zero (k : Nat) : down 0 k = 0 := by
  have none : down 0 k = ((0 >>> k : Nat) : Int) := down_natCast 0 k
  rw [none, Nat.zero_shiftRight]
  rfl

theorem low_down_low (y : Nat) : low bits (down y k) = down (low (k + bits) y) k := by
  rw [down_natCast, low_natCast, low_natCast, down_natCast, Nat.one_shiftLeft, Nat.one_shiftLeft,
    Nat.shiftRight_eq_div_pow, Nat.shiftRight_eq_div_pow, Nat.pow_add, Nat.mod_mul_right_div_self]

end Bits

theorem Tensor.size_part {t : Tensor} (inside : i < t.dim 0) : (t.part i).data.size = shapeSize t.shape.tail := by
  rw [(t.part i).size_eq]
  unfold Tensor.dim at inside
  unfold Tensor.part
  cases same : t.shape with
  | nil => simp [same] at inside
  | cons n rest => rfl

namespace ArrangedKernels

def layOver (bits : Nat) (below : List Int) (k : Option (List Int) × Nat) : List Int :=
  (k.1.map fun weights => below.zipWith (fun x y => Bits.or x (up y (k.2 * bits))) weights).getD below

theorem overlay_eq_foldl (bits size : Nat) (ks : List (Option (List Int))) :
    overlay bits size ks = ks.zipIdx.foldl (layOver bits) (replicate size 0) := by
  unfold overlay
  congr 1
  funext below k
  rcases k with ⟨_ | weights, i⟩ <;> rfl

theorem length_layOver (bits : Nat) (ks : List (Option (List Int))) (n : Nat) (below : List Int) :
    ((ks.zipIdx n).foldl (layOver bits) below).length ≤ below.length := by
  induction ks generalizing n below with
  | nil => exact Nat.le_refl _
  | cons k ks ih =>
    apply Nat.le_trans (ih (n + 1) _)
    cases k with
    | none => exact Nat.le_refl _
    | some weights =>
      simp only [layOver, Option.map_some, Option.getD_some, length_zipWith]
      exact Nat.min_le_left _ _

theorem layOver_fields {size q : Nat} (ks : List (Option (List Int))) (n : Nat) {below : List Int}
    (length : below.length = size) (lengths : ∀ weights, some weights ∈ ks → weights.length = size)
    (small : ∀ weights, some weights ∈ ks → ∀ y ∈ weights, low bits y = y) (here : below[q]? = some (x : Int))
    (less : x < 1 <<< (n * bits)) :
    ∃ y : Nat, ((ks.zipIdx n).foldl (layOver bits) below)[q]? = some (y : Int) ∧ y < 1 <<< ((n + ks.length) * bits) ∧
      low (n * bits) y = x ∧
      ∀ i k, ks[i]? = some k → low bits (down y ((n + i) * bits)) = (k.getD []).getD q 0 := by
  induction ks generalizing n below x with
  | nil =>
    refine ⟨x, here, less, ?_, by simp⟩
    rw [low_natCast, Nat.mod_eq_of_lt less]
  | cons k ks ih =>
    -- The kernel's own weight at the place, zero if there is no kernel.
    obtain ⟨v, bound, value⟩ : ∃ v : Nat, v < 1 <<< bits ∧ (k.getD []).getD q 0 = v := by
      cases k with
      | none => exact ⟨0, by simp [Nat.one_shiftLeft], rfl⟩
      | some weights =>
        obtain ⟨v, bound, value⟩ := exists_low_eq bits (weights.getD q 0)
        have inside : q < weights.length := by
          rw [lengths weights (by simp), ← length]
          exact (List.getElem?_eq_some_iff.mp here).1
        have same := small weights (by simp) _ (getElem_mem inside)
        rw [getD_eq_getElem?_getD, getElem?_eq_getElem inside, Option.getD_some, same] at value
        exact ⟨v, bound, by rw [Option.getD_some, getD_eq_getElem?_getD, getElem?_eq_getElem inside, ← value]; rfl⟩
    have next : (layOver bits below (k, n))[q]? = some ((x ||| v <<< (n * bits) : Nat) : Int) ∧
        (layOver bits below (k, n)).length = size := by
      cases k with
      | none =>
        have zero : v = 0 := by simpa using value.symm
        simp only [layOver, Option.map_none, Option.getD_none, zero, Nat.zero_shiftLeft, Nat.or_zero]
        exact ⟨here, length⟩
      | some weights =>
        have inside : q < weights.length := by
          rw [lengths weights (by simp), ← length]
          exact (List.getElem?_eq_some_iff.mp here).1
        rw [Option.getD_some, getD_eq_getElem?_getD, getElem?_eq_getElem inside, Option.getD_some] at value
        simp only [layOver, Option.map_some, Option.getD_some, getElem?_zipWith, here,
          getElem?_eq_getElem inside, value, up_natCast, or_natCast, length_zipWith, length,
          lengths weights (by simp), Nat.min_self]
        exact ⟨trivial, trivial⟩
    obtain ⟨above, kept, own⟩ := field_above less bound
    rw [← Nat.succ_mul] at above
    obtain ⟨y, found, top, low, fields⟩ := ih (n + 1) next.2
      (fun weights member => lengths weights (mem_cons_of_mem _ member))
      (fun weights member => small weights (mem_cons_of_mem _ member)) next.1 above
    refine ⟨y, found, ?_, ?_, ?_⟩
    · rw [length_cons, show n + (ks.length + 1) = n + 1 + ks.length by omega]
      exact top
    · rw [← low_low_of_le (Nat.mul_le_mul_right bits (Nat.le_succ n)), low, low_natCast, kept]
    · intro i other listed
      cases i with
      | zero =>
        cases listed
        rw [Nat.add_zero, low_down_low, ← Nat.succ_mul, low, down_natCast, own, value]
      | succ i =>
        rw [show n + (i + 1) = n + 1 + i by omega]
        exact fields i other listed

theorem weights?_eq_some {a : ArrangedKernels} (found : a.weights? l i = some weights) :
    i < a.kernels.dim 0 ∧ weights = (a.kernels.part i).data.toList.map (low l.bits) := by
  unfold weights? at found
  split at found
  · rename_i inside
    exact ⟨inside, (Option.some.inj found).symm⟩
  · cases found

theorem weights?_getD (a : ArrangedKernels) (l : KernelLayer) (i q : Nat) :
    ((a.weights? l i).getD []).getD q 0 =
      low l.bits (if i < a.kernels.dim 0 then (a.kernels.part i).flat q else 0) := by
  unfold weights?
  split
  · rw [Option.getD_some, getD_eq_getElem?_getD, getElem?_map, Array.getElem?_toList, Tensor.flat,
      Array.getD_eq_getD_getElem?]
    cases (a.kernels.part i).data[q]? with
    | none => exact (low_zero _).symm
    | some x => rfl
  · exact (low_zero _).symm

end ArrangedKernels

theorem length_blocks_le {f : Nat → List α} (blocks : ∀ b < k, (f b).length ≤ n) :
    ((range k).flatMap f).length ≤ k * n := by
  induction k with
  | zero => simp
  | succ k ih =>
    have earlier := ih fun b less => blocks b (Nat.lt_succ_of_lt less)
    have last := blocks k (Nat.lt_succ_self k)
    rw [range_succ, flatMap_append, flatMap_singleton, length_append, Nat.succ_mul]
    omega

theorem getD_later_blocks {f : Nat → List Int} (short : ∀ b < k, (f b).length ≤ n)
    (zeros : ∀ b < k, i ≤ b → ∀ x ∈ f b, x = 0) (later : i * n ≤ t) : ((range k).flatMap f).getD t 0 = 0 := by
  induction k with
  | zero => simp
  | succ k ih =>
    have earlier := ih (fun b less => short b (Nat.lt_succ_of_lt less)) (fun b less => zeros b (Nat.lt_succ_of_lt less))
    rw [getD_eq_getElem?_getD] at earlier ⊢
    by_cases reached : k < i
    · have end_le := length_blocks_le short
      have step : (k + 1) * n ≤ i * n := Nat.mul_le_mul_right n reached
      rw [getElem?_eq_none (by omega)]
      rfl
    · rw [range_succ, flatMap_append, flatMap_singleton, getElem?_append]
      split
      · exact earlier
      · cases found : (f k)[t - ((range k).flatMap f).length]? with
        | none => rfl
        | some x => exact zeros k (Nat.lt_succ_self k) (by omega) x (mem_of_getElem? found)

namespace KernelLayer

/-- What packing asks of a layer with the weights `k`. The input processors are as many as a pass takes, and the
output processors are in a row that starts with the first of those that share memory. -/
structure Packs (l : KernelLayer) (d : Device) (k : Tensor) : Prop where
  arrange : l.arrange false = .ok ⟨k, l.inExpand, l.inputChannels⟩
  some_weights : 0 < l.perByte
  bits : l.perByte * l.bits = 8
  groups : l.groups = 1
  flatten : l.flatten = false
  inputProcessors : Bits.count l.processors = l.inExpandThresh
  outputProcessors : ∃ n, l.outputProcessors = ((1 <<< l.outExpandThresh) - 1) <<< (d.shared * n)

/-- Weight `j`, counted from the last one, of kernel number `n`; zero beyond the last kernel. -/
def kernelWeight (l : KernelLayer) (k : Tensor) (n j : Nat) : Int :=
  if n < k.dim 0 then (k.part n).flat (l.kernelBytes - 1 - j) else 0

/-- Number of the kernel in field `index` of a processor's stream: passes follow each other for each output
channel. -/
def kernelNumber (l : KernelLayer) (rank index : Nat) : Nat :=
  index / l.inExpand * l.inputChannels + (index % l.inExpand * l.inExpandThresh + rank)

def SharesByte (l : KernelLayer) (b : Int) (weights : Nat → Int) : Prop :=
  byte b = b ∧ ∀ i < l.perByte, low l.bits (down b (i * l.bits)) = low l.bits (weights i)

/-- A block of the stream of processor number `rank` has a kernel: the numbers of its pass and of the output
channels that share its bytes are those of channels that there are. -/
def HasKernel (l : KernelLayer) (k : Tensor) (rank block : Nat) : Prop :=
  block % l.inExpand * l.inExpandThresh + rank < l.inputChannels ∧
    rank + block / l.inExpand * l.perByte * l.inputChannels < k.dim 0

instance (l : KernelLayer) (k : Tensor) (rank block : Nat) : Decidable (l.HasKernel k rank block) :=
  inferInstanceAs (Decidable (_ ∧ _))

def blockWeight (l : KernelLayer) (k : Tensor) (rank block j i : Nat) : Int :=
  if l.HasKernel k rank block ∧ block / l.inExpand * l.perByte < l.outputChannels then
    l.kernelWeight k (l.kernelNumber rank (block * l.perByte + i)) j
  else 0

def blockItems (l : KernelLayer) (k : Tensor) (debug : Bool) (layer p rank block : Nat) : List StreamItem :=
  passItems ⟨k, l.inExpand, l.inputChannels⟩ l debug layer p rank
    (block / l.inExpand * l.perByte) (block % l.inExpand)

def blockKernels (l : KernelLayer) (k : Tensor) (rank block : Nat) : List (Option (List Int)) :=
  (range l.perByte).map fun i =>
    if block / l.inExpand * l.perByte < l.outputChannels then
      weights? ⟨k, l.inExpand, l.inputChannels⟩ l (l.kernelNumber rank (block * l.perByte + i))
    else none

theorem blockKernels_spec {k : Tensor} (member : some weights ∈ l.blockKernels k rank block) :
    weights.length = shapeSize k.shape.tail ∧ ∀ y ∈ weights, low l.bits y = y := by
  obtain ⟨i, _, found⟩ := mem_map.mp member
  obtain ⟨inside, rfl⟩ := weights?_eq_some (Option.ite_none_right_eq_some.mp found).2
  refine ⟨by simpa using Tensor.size_part inside, ?_⟩
  intro y element
  obtain ⟨x, _, rfl⟩ := mem_map.mp element
  exact low_low_of_le (Nat.le_refl _) x

theorem kernelIndex_eq {k : Tensor} (passes : 0 < l.inExpand) :
    kernelIndex ⟨k, l.inExpand, l.inputChannels⟩ l
        (rank + block / l.inExpand * l.perByte * l.inputChannels) (block % l.inExpand) i =
      l.kernelNumber rank (block * l.perByte + i) := by
  have parts : block * l.perByte + i =
      l.inExpand * (block / l.inExpand * l.perByte) + (i + block % l.inExpand * l.perByte) := by
    have whole := congrArg (· * l.perByte) (Nat.div_add_mod block l.inExpand)
    simp only [Nat.add_mul, Nat.mul_assoc] at whole
    omega
  simp only [kernelIndex, kernelNumber]
  rw [parts, Nat.mul_add_div passes, Nat.mul_add_mod, Nat.add_mul]
  omega

theorem kernelNumber_eq (input : c < l.inExpand * l.inExpandThresh) :
    l.kernelNumber (c % l.inExpandThresh) (m * l.inExpand + c / l.inExpandThresh) = m * l.inputChannels + c := by
  have pass : c / l.inExpandThresh < l.inExpand := Nat.div_lt_of_lt_mul (Nat.mul_comm l.inExpand _ ▸ input)
  rw [kernelNumber, Nat.mul_comm m l.inExpand, Nat.mul_add_div (Nat.zero_lt_of_lt pass), Nat.mul_add_mod, Nat.div_eq_of_lt pass,
    Nat.mod_eq_of_lt pass, Nat.add_zero, Nat.div_add_mod']

theorem block_lt (some_weights : 0 < l.perByte) (output : m < l.outExpand * l.outExpandThresh) {pass : Nat}
    (within : pass < l.inExpand) :
    (m * l.inExpand + pass) / l.perByte <
      l.outExpand * ((l.outExpandThresh + l.perByte - 1) / l.perByte) * l.inExpand := by
  apply Nat.div_lt_of_lt_mul
  have rounded : l.outExpandThresh ≤ l.perByte * ((l.outExpandThresh + l.perByte - 1) / l.perByte) := by
    have parts := Nat.div_add_mod (l.outExpandThresh + l.perByte - 1) l.perByte
    have rest := Nat.mod_lt (l.outExpandThresh + l.perByte - 1) some_weights
    omega
  generalize (l.outExpandThresh + l.perByte - 1) / l.perByte = each at rounded ⊢
  calc m * l.inExpand + pass < (m + 1) * l.inExpand := by rw [Nat.succ_mul]; omega
    _ ≤ l.outExpand * l.outExpandThresh * l.inExpand := Nat.mul_le_mul_right _ output
    _ ≤ l.outExpand * (l.perByte * each) * l.inExpand := Nat.mul_le_mul_right _ (Nat.mul_le_mul_left _ rounded)
    _ = l.perByte * (l.outExpand * each * l.inExpand) := by
      rw [Nat.mul_left_comm, Nat.mul_assoc]

namespace Packs

variable {d : Device} {k : Tensor} (packs : l.Packs d k)
include packs

theorem blockItems_kernel (passes : 0 < l.inExpand) (kernel : l.HasKernel k rank block)
    (complete : .missing ∉ l.blockItems k debug layer p rank block) :
    l.kernelBytes ≤ (overlay l.bits (shapeSize k.shape.tail) (l.blockKernels k rank block)).length ∧
      streamBytes (l.blockItems k debug layer p rank block) =
        ((overlay l.bits (shapeSize k.shape.tail)
          (l.blockKernels k rank block)).take l.kernelBytes).reverse := by
  have silent : ∀ text, streamBytes (if debug then [.note text] else []) = [] := by
    intro text
    cases debug <;> rfl
  have shared : shares ⟨k, l.inExpand, l.inputChannels⟩ l (block / l.inExpand * l.perByte)
      (rank + block / l.inExpand * l.perByte * l.inputChannels) (block % l.inExpand) = l.blockKernels k rank block := by
    simp only [shares, kernelIndex_eq passes]
    rfl
  simp only [blockItems, passItems, packs.flatten, Bool.false_eq_true, if_false, kernel.1, kernel.2,
    and_self, if_true, shared] at complete ⊢
  have long : ¬ (overlay l.bits (shapeSize k.shape.tail) (l.blockKernels k rank block)).length <
      l.kernelBytes := by
    intro short
    simp [short] at complete
  rw [if_neg long, streamBytes_append, silent, nil_append, streamBytes_bytes]
  exact ⟨Nat.le_of_not_lt long, rfl⟩

theorem blockItems_absent (absent : ¬ l.HasKernel k rank block) :
    streamBytes (l.blockItems k debug layer p rank block) = replicate (l.kernelBytes / l.perByte) 0 := by
  unfold HasKernel at absent
  simp only [blockItems, passItems, packs.flatten, Bool.false_eq_true, if_false]
  rw [if_neg absent, ← map_replicate, streamBytes_bytes]

section

variable (passes : 0 < l.inExpand) (whole : l.HasKernel k rank block ∨ l.perByte = 1)
  (complete : .missing ∉ l.blockItems k debug layer p rank block)
include passes whole complete

theorem length_blockItems :
    (streamBytes (l.blockItems k debug layer p rank block)).length = l.kernelBytes := by
  by_cases kernel : l.HasKernel k rank block
  · obtain ⟨long, bytes⟩ := packs.blockItems_kernel passes kernel complete
    rw [bytes, length_reverse, length_take, Nat.min_eq_left long]
  · rw [packs.blockItems_absent kernel, length_replicate, whole.resolve_left kernel, Nat.div_one]

theorem blockItems_shares (byte : j < l.kernelBytes) :
    ∃ b, (streamBytes (l.blockItems k debug layer p rank block))[j]? = some b ∧
      l.SharesByte b (l.blockWeight k rank block j) := by
  by_cases kernel : ¬ l.HasKernel k rank block
  · rw [packs.blockItems_absent kernel, whole.resolve_left kernel, Nat.div_one]
    refine ⟨0, by rw [getElem?_replicate, if_pos byte], rfl, ?_⟩
    intro i _
    rw [down_zero, blockWeight, if_neg fun there => kernel there.1]
  rw [Classical.not_not] at kernel
  obtain ⟨long, bytes⟩ := packs.blockItems_kernel passes kernel complete
  rw [overlay_eq_foldl] at long bytes
  have size := length_layOver l.bits (l.blockKernels k rank block) 0
    (replicate (shapeSize k.shape.tail) 0)
  rw [length_replicate] at size
  obtain ⟨y, found, top, _, fields⟩ := layOver_fields (q := l.kernelBytes - 1 - j) (x := 0)
    (l.blockKernels k rank block) 0 (length_replicate ..) (fun _ member => (blockKernels_spec member).1)
    (fun _ member => (blockKernels_spec member).2)
    (by rw [getElem?_replicate, if_pos (by omega)]) (by simp)
  refine ⟨y, ?_, ?_, ?_⟩
  · rw [bytes, getElem?_reverse (by rw [length_take]; omega), length_take, Nat.min_eq_left (by omega),
      getElem?_take_of_lt (by omega)]
    exact found
  · rw [Nat.zero_add, blockKernels, length_map, length_range, packs.bits] at top
    exact (low_natCast 8 y).trans (by rw [Nat.mod_eq_of_lt top])
  · intro i inside
    have own := fields i _ (by
      rw [blockKernels, getElem?_map, getElem?_range inside]
      rfl)
    rw [Nat.zero_add] at own
    rw [own, blockWeight]
    split
    · rename_i there
      rw [if_pos ⟨kernel, there⟩, weights?_getD]
      rfl
    · rename_i none
      rw [if_neg fun there => none there.2]
      exact (low_zero _).symm

end

section

variable (s : PackSettings) {layer p rank n : Nat} (thresh : l.outExpandThresh = n + 1)
include thresh

theorem exists_row : ∃ first, l.outputProcessors = (2 ^ (n + 1) - 1) * 2 ^ (d.shared * first) := by
  obtain ⟨first, row⟩ := packs.outputProcessors
  rw [Nat.one_shiftLeft, Nat.shiftLeft_eq, thresh] at row
  exact ⟨first, row⟩

theorem startColumn : l.startColumn d = 0 := by
  obtain ⟨first, row⟩ := packs.exists_row thresh
  rw [KernelLayer.startColumn, row, lowest_row]
  simp

theorem stream_eq (device : s.device = d) :
    l.stream s ⟨k, l.inExpand, l.inputChannels⟩ layer p rank =
      (range (l.outExpand * ((l.outExpandThresh + l.perByte - 1) / l.perByte) * l.inExpand)).flatMap
        (l.blockItems k s.debug layer p rank) := by
  obtain ⟨first, row⟩ := packs.exists_row thresh
  rw [stream, lead, device, packs.startColumn thresh,
    outputItems_row _ _ _ _ _ packs.some_weights packs.flatten packs.groups row thresh]
  simp only [Nat.zero_mul, Nat.zero_mod, Nat.zero_div, replicate_zero, nil_append]
  exact flatMap_range_flatMap _ _
    fun i pass => passItems ⟨k, l.inExpand, l.inputChannels⟩ l s.debug layer p rank (i * l.perByte) pass

theorem stream_gapless (device : s.device = d) :
    .skip ∉ l.stream s ⟨k, l.inExpand, l.inputChannels⟩ layer p rank := by
  rw [packs.stream_eq s thresh device]
  intro member
  obtain ⟨block, _, inside⟩ := mem_flatMap.mp member
  exact passItems_gapless _ _ _ _ _ _ _ _ inside

variable (device : s.device = d) (complete : .missing ∉ l.stream s ⟨k, l.inExpand, l.inputChannels⟩ layer p rank)
include device complete

theorem stream_shares
    (inside : block < l.outExpand * ((l.outExpandThresh + l.perByte - 1) / l.perByte) * l.inExpand)
    (whole : ∀ b ≤ block, l.HasKernel k rank b ∨ l.perByte = 1) (byte : j < l.kernelBytes) :
    ∃ b, (streamBytes (l.stream s ⟨k, l.inExpand, l.inputChannels⟩ layer p rank))[block * l.kernelBytes + j]? = some b ∧
      l.SharesByte b (l.blockWeight k rank block j) := by
  have passes : 0 < l.inExpand := Nat.pos_of_ne_zero fun zero => by simp [zero] at inside
  rw [packs.stream_eq s thresh device] at complete ⊢
  have present : ∀ b ≤ block, .missing ∉ l.blockItems k s.debug layer p rank b := fun b le missing =>
    complete (mem_flatMap.mpr ⟨b, mem_range.mpr (Nat.lt_of_le_of_lt le inside), missing⟩)
  rw [streamBytes_flatMap, getElem?_blocks
    (fun b le => packs.length_blockItems passes (whole b le) (present b le)) inside byte]
  exact packs.blockItems_shares passes (whole block (Nat.le_refl _)) (present block (Nat.le_refl _)) byte

theorem stream_zero
    (absent : ∀ b, block ≤ b → ¬ l.HasKernel k rank b) :
    (streamBytes (l.stream s ⟨k, l.inExpand, l.inputChannels⟩ layer p rank)).getD (block * l.kernelBytes + j) 0 = 0 := by
  rw [packs.stream_eq s thresh device] at complete ⊢
  rw [streamBytes_flatMap]
  apply getD_later_blocks (i := block) (n := l.kernelBytes) _ _ (Nat.le_add_right _ _)
  · intro b inside
    have passes : 0 < l.inExpand := Nat.pos_of_ne_zero fun zero => by simp [zero] at inside
    by_cases kernel : l.HasKernel k rank b
    · refine Nat.le_of_eq (packs.length_blockItems passes (.inl kernel) fun missing => ?_)
      exact complete (mem_flatMap.mpr ⟨b, mem_range.mpr inside, missing⟩)
    · rw [packs.blockItems_absent kernel, length_replicate]
      exact Nat.div_le_self _ _
  · intro b _ later x member
    rw [packs.blockItems_absent (absent b later)] at member
    exact eq_of_mem_replicate member

end

end Packs

end KernelLayer

def Packing.Extends (before after : Packing) : Prop :=
  (∀ p column, ∃ more, after.memory.stored p column = more ++ before.memory.stored p column) ∧
    (before.memory.Fits → after.memory.Fits)

theorem Packing.Extends.trans (a b c : Packing) (first : Packing.Extends a b)
    (second : Packing.Extends b c) : Packing.Extends a c := by
  refine ⟨?_, second.2 ∘ first.2⟩
  intro p column
  obtain ⟨more, bytes⟩ := first.1 p column
  obtain ⟨more', bytes'⟩ := second.1 p column
  exact ⟨more' ++ more, by rw [bytes', bytes, append_assoc]⟩

theorem Packing.SameMemory.extends (before after : Packing) (same : Packing.SameMemory before after) :
    Packing.Extends before after := by
  unfold Packing.Extends
  rw [same]
  exact ⟨fun _ _ => ⟨[], rfl⟩, id⟩

theorem Placement.storeByte_extends (pl : Placement) (d : Device) (p target : Nat) (value : Int) :
    Keeps Packing.Extends (pl.storeByte d p target value) := by
  intro before next after run
  refine ⟨?_, pl.storeByte_fits d p target value _ _ _ run⟩
  intro q column
  obtain ⟨more, _, bytes, _⟩ := pl.storeByte_grows d p target value _ _ _ run q column
  exact ⟨more, bytes⟩

def Packing.Pads (p : Nat) (before after : Packing) : Prop :=
  ∀ column, ∃ more, after.memory.stored p column = more ++ before.memory.stored p column ∧
    ∀ x ∈ more, x.value = 0

theorem Packing.Pads.trans (a b c : Packing) (first : Packing.Pads p a b) (second : Packing.Pads p b c) :
    Packing.Pads p a c := by
  intro column
  obtain ⟨more, bytes, zeros⟩ := first column
  obtain ⟨more', bytes', zeros'⟩ := second column
  refine ⟨more' ++ more, by rw [bytes', bytes, append_assoc], ?_⟩
  intro x member
  rcases mem_append.mp member with member | member
  · exact zeros' x member
  · exact zeros x member

theorem Packing.OnlyRow.pads {q : Nat} (apart : p ≠ q) (before after : Packing) (row : Packing.OnlyRow q before after) :
    Packing.Pads p before after := by
  intro column
  refine ⟨[], ?_, by simp⟩
  rw [KernelMemory.stored, row p column apart]
  rfl

theorem Packing.SameMemory.pads (p : Nat) (before after : Packing) (same : Packing.SameMemory before after) :
    Packing.Pads p before after :=
  Packing.OnlyRow.pads (Nat.succ_ne_self p).symm _ _ (row _ _ _ same)

theorem Placement.storeByte_pads {pl : Placement} {d : Device} (plain : pl.quad = false) (p target : Nat) :
    Keeps (Packing.Pads p) (pl.storeByte d p target 0) := by
  intro before next after run column
  obtain ⟨m, stored, rfl, _, _⟩ := storeByte_ok run
  rw [cell_plain plain] at stored
  obtain ⟨_, bytes, _, elsewhere⟩ := KernelMemory.store_spec stored
  by_cases here : column = pl.offset + target
  · subst here
    refine ⟨[⟨pl.layer, byte 0⟩], bytes, ?_⟩
    intro x member
    rw [mem_singleton.mp member]
    rfl
  · refine ⟨[], ?_, by simp⟩
    rw [KernelMemory.stored, elsewhere p column (by simpa using here)]
    rfl

namespace KernelLayer

variable {l : KernelLayer} {s : PackSettings} {a : ArrangedKernels} {pl : Placement} {layer : Nat}

section

variable {R : Packing → Packing → Prop} (same : ∀ a b, Packing.SameMemory a b → R a b)
  (transitive : ∀ a b c, R a b → R b c → R a c)
  (store : ∀ pl d p target value, Keeps R (storeByte pl d p target value))
include same transitive store

theorem packProcessors_keeps (pairs : List (Nat × Nat)) (length : Int) :
    Keeps R (pairs.foldlM (fun length (pair : Nat × Nat) =>
      l.packProcessor s a pl length pair.1 pair.2) length) :=
  Keeps.foldlM (fun s => same s s rfl) transitive pairs
    (fun _ pair _ => packProcessor_keeps same transitive (store pl s.device pair.1)) length

theorem pack_keeps (afterPlain : Bool) : Keeps R (l.pack s layer afterPlain) := by
  intro before span after run
  obtain ⟨a, middle, _, unchanged, packed⟩ := pack_ok run
  exact transitive _ _ _ (same _ _ unchanged) (packProcessors_keeps same transitive store _ _ _ _ _ packed)

theorem mapM_pack_keeps (layers : List KernelLayer) : Keeps R ((layers.zipIdx k).mapM fun (pair : KernelLayer × Nat) =>
      packActive s all first pair.1 pair.2) := by
  induction layers generalizing k with
  | nil => exact Keeps.pure (fun s => same s s rfl) _
  | cons layer layers ih =>
    rw [zipIdx_cons, mapM_cons]
    apply Keeps.bind transitive
    · exact Keeps.ite (Keeps.pure (fun s => same s s rfl) _) (pack_keeps same transitive store _)
    intro span
    apply Keeps.bind transitive ih
    intro spans
    exact .pure (fun s => same s s rfl) _

end

theorem packProcessor_holds (plain : pl.quad = false) (first : l.lead s.device a = 0)
    (gapless : .skip ∉ l.stream s a pl.layer p rank) (empty : ∀ column, before.memory.stored p column = [])
    (run : (l.packProcessor s a pl length p rank).run before = .ok length' after) :
    ∃ middle, middle.memory.Holds p pl.offset (streamBytes (l.stream s a pl.layer p rank)) ∧
      .missing ∉ l.stream s a pl.layer p rank ∧ Packing.Extends middle after ∧ Packing.Pads p middle after := by
  obtain ⟨target, middle, filled, streamed, words, same, _⟩ := packProcessor_ok plain run
  rw [first] at streamed
  refine ⟨middle, ?_, stream_complete _ streamed, ?_, ?_⟩
  · have none : before.memory.Holds p pl.offset [] := by
      intro w
      simp [empty]
    exact stream_holds plain _ gapless none streamed
  · exact Packing.Extends.trans _ _ _
      (fillWords_keeps Packing.SameMemory.extends Packing.Extends.trans pl s.device p
        (fun t => storeByte_extends pl s.device p t 0) _ _ _ _ _ words)
      (Packing.SameMemory.extends _ _ same)
  · exact Packing.Pads.trans _ _ _
      (fillWords_keeps (pads p) Packing.Pads.trans pl s.device p
        (storeByte_pads plain p) _ _ _ _ _ words)
      (pads p _ _ same)

/-- Every processor of a layer holds its stream when the layer is packed, if none had bytes before. After its
stream it has zeros. -/
theorem packProcessors_hold (pairs : List (Nat × Nat)) (rows : (pairs.map Prod.fst).Nodup) (plain : pl.quad = false)
    (first : l.lead s.device a = 0) (gapless : ∀ pair ∈ pairs, .skip ∉ l.stream s a pl.layer pair.1 pair.2)
    (empty : ∀ pair ∈ pairs, ∀ column, before.memory.stored pair.1 column = [])
    (run : (pairs.foldlM (fun length (pair : Nat × Nat) => l.packProcessor s a pl length pair.1 pair.2) length).run
      before = .ok length' after) :
    ∀ pair ∈ pairs, ∃ middle,
      middle.memory.Holds pair.1 pl.offset (streamBytes (l.stream s a pl.layer pair.1 pair.2)) ∧
      .missing ∉ l.stream s a pl.layer pair.1 pair.2 ∧ Packing.Extends middle after ∧
      Packing.Pads pair.1 middle after := by
  induction pairs generalizing before length with
  | nil => simp
  | cons pair pairs ih =>
    obtain ⟨reached, next, packed, rest⟩ := bind_ok.mp run
    rw [map_cons, nodup_cons] at rows
    have ownRow : ∀ length (pair : Nat × Nat),
        Keeps (Packing.OnlyRow pair.1) (l.packProcessor s a pl length pair.1 pair.2) :=
      fun _ pair => packProcessor_keeps (row pair.1) Packing.OnlyRow.trans
        (fun _ _ => storeByte_row plain)
    intro other member
    rcases mem_cons.mp member with rfl | member
    · obtain ⟨middle, holds, complete, extended, padded⟩ :=
        packProcessor_holds plain first (gapless _ (by simp)) (empty _ (by simp)) packed
      refine ⟨middle, holds, complete, ?_, ?_⟩
      · exact Packing.Extends.trans _ _ _ extended (packProcessors_keeps Packing.SameMemory.extends
          Packing.Extends.trans storeByte_extends pairs reached _ _ _ rest)
      · apply Packing.Pads.trans _ _ _ padded
        apply Keeps.foldlM (fun s => pads _ s s rfl) Packing.Pads.trans pairs _ reached _ _ _ rest
        intro length pair listed before next after run
        refine Packing.OnlyRow.pads ?_ _ _ (ownRow length pair _ _ _ run)
        intro same
        exact rows.1 (mem_map.mpr ⟨pair, listed, same.symm⟩)
    · have row := ownRow _ _ _ _ _ packed
      apply ih rows.2 (fun pair member => gapless pair (mem_cons_of_mem _ member)) _ rest other member
      intro pair' member' column
      have apart : pair'.1 ≠ pair.1 := by
        intro same
        exact rows.1 (mem_map.mpr ⟨pair', member', same⟩)
      rw [KernelMemory.stored, row _ _ apart]
      exact empty pair' (mem_cons_of_mem _ member') column

end KernelLayer

theorem packActive_unpacked (unpacked : i < first ∨ l.active = false) :
    Keeps (fun before after : Packing => after = before) (packActive s all first l i) := by
  intro before span after run
  have none : (decide (i < first) || !l.active) = true := by
    rcases unpacked with early | inactive
    · simp [early]
    · simp [inactive]
  unfold packActive at run
  rw [if_pos none] at run
  exact (pure_ok.mp run).2.symm

theorem mapM_pack_split (layers : List KernelLayer) (number : layers[i]? = some l)
    (unpacked : ∀ j < i, ∀ earlier, layers[j]? = some earlier → k + j < first ∨ earlier.active = false)
    (run : ((layers.zipIdx k).mapM fun (pair : KernelLayer × Nat) => packActive s all first pair.1 pair.2).run
      before = .ok spans after) :
    ∃ span middle later, (packActive s all first l (k + i)).run before = .ok span middle ∧
      spans[i]? = some span ∧
      (((layers.drop (i + 1)).zipIdx (k + i + 1)).mapM fun (pair : KernelLayer × Nat) =>
        packActive s all first pair.1 pair.2).run middle = .ok later after := by
  induction layers generalizing k i before spans with
  | nil => simp at number
  | cons layer layers ih =>
    rw [zipIdx_cons, mapM_cons] at run
    simp only [bind_ok, pure_ok] at run
    obtain ⟨span, next, packed, spans, after, rest, rfl, rfl⟩ := run
    cases i with
    | zero =>
      cases number
      exact ⟨span, next, spans, packed, rfl, rest⟩
    | succ i =>
      obtain rfl := packActive_unpacked (unpacked 0 (by omega) layer rfl) _ _ _ packed
      have later : ∀ j < i, ∀ earlier, layers[j]? = some earlier →
          k + 1 + j < first ∨ earlier.active = false := by
        intro j less earlier found
        rw [show k + 1 + j = k + (j + 1) from by omega]
        exact unpacked (j + 1) (by omega) earlier found
      obtain ⟨span', middle, others, ran, place, rest⟩ := ih number later rest
      rw [show k + 1 + i = k + (i + 1) from by omega] at ran rest
      exact ⟨span', middle, others, ran, place, rest⟩

theorem KernelMemory.Holds.bytesAt_padded {m grown : KernelMemory} {offset : Nat} {bytes : List Int}
    (holds : m.Holds p offset bytes) (fits : grown.Fits)
    (padded : ∃ added, grown.stored p (offset + t / 9) = added ++ m.stored p (offset + t / 9) ∧ ∀ x ∈ added, x.value = 0) :
    (grown.bytesAt p (offset + t / 9))[8 - t % 9]? = some (byte (bytes.getD t 0)) := by
  obtain ⟨added, stored, zeros⟩ := padded
  rw [getD_eq_getElem?_getD]
  cases found : bytes[t]? with
  | some value => exact holds.bytesAt fits ⟨added, stored⟩ found
  | none =>
    have room := fits p (offset + t / 9)
    have ended := getElem?_eq_none_iff.mp found
    have held := congrArg length (holds (t / 9))
    simp only [length_map, length_reverse, length_take, length_drop] at held
    rw [bytesAt_eq, stored, map_append, ← append_assoc]
    rw [stored, length_append] at room
    have inside : 8 - t % 9 <
        (replicate (9 - (added ++ m.stored p (offset + t / 9)).length) 0 ++ added.map StoredByte.value).length := by
      simp only [length_append, length_replicate, length_map]
      omega
    rw [getElem?_append_left inside, getElem?_eq_getElem inside, Option.getD_none]
    congr 1
    rcases mem_append.mp (getElem_mem inside) with member | member
    · exact eq_of_mem_replicate member
    · obtain ⟨x, inAdded, same⟩ := mem_map.mp member
      exact same.symm.trans (zeros x inAdded)

namespace KernelLayer.Packs

variable {k : Tensor} {afterPlain : Bool} {span : KernelSpan} {middle : Packing} (packs : l.Packs s.device k)
  (plain : (decide (i = 0) && s.quad) = false) (empty : ∀ p column, before.memory.stored p column = [])
  (run : (l.pack s i afterPlain).run before = .ok span middle)
include packs plain empty run

theorem pack_reads (thresh : l.outExpandThresh = n + 1) (processor : rank < l.inExpandThresh) :
    ∃ p, (positions l.processors)[rank]? = some p ∧
      .missing ∉ l.stream s ⟨k, l.inExpand, l.inputChannels⟩ i p rank ∧
      (∀ after, Packing.Extends middle after → ∀ t value,
        (streamBytes (l.stream s ⟨k, l.inExpand, l.inputChannels⟩ i p rank))[t]? = some value →
          (after.memory.bytesAt p (span.offset.toNat + t / 9))[8 - t % 9]? = some (byte value)) ∧
      ∀ t, (middle.memory.bytesAt p (span.offset.toNat + t / 9))[8 - t % 9]? =
        some (byte ((streamBytes (l.stream s ⟨k, l.inExpand, l.inputChannels⟩ i p rank)).getD t 0)) := by
  obtain ⟨a, start, arranged, same, packed⟩ := pack_ok run
  rw [plain] at arranged packed
  rw [packs.arrange, Except.ok.injEq] at arranged
  subst arranged
  have first : l.lead s.device ⟨k, l.inExpand, l.inputChannels⟩ = 0 := by
    simp [lead, packs.startColumn thresh]
  obtain ⟨p, found⟩ : ∃ p, (positions l.processors)[rank]? = some p := by
    have bound : rank < (positions l.processors).length := by
      rw [length_positions, packs.inputProcessors]
      exact processor
    exact ⟨_, getElem?_eq_getElem bound⟩
  obtain ⟨streamed, holds, complete, grown, padded⟩ := packProcessors_hold _
    (by rw [zipIdx_map_fst]; exact nodup_range.filter _) rfl first
    (fun pair _ => packs.stream_gapless s thresh rfl) (fun pair _ column => by rw [same, empty]) packed
    (p, rank) (mem_zipIdx_iff_getElem?.mpr found)
  have fits : middle.memory.Fits := by
    apply (pack_keeps Packing.SameMemory.extends Packing.Extends.trans
      storeByte_extends afterPlain _ _ _ run).2
    intro q column
    simp [empty]
  refine ⟨p, found, complete, ?_, fun t => holds.bytesAt_padded fits (padded _)⟩
  intro after extended t value byte
  exact holds.bytesAt (extended.2 fits) ((Packing.Extends.trans _ _ _ grown extended).1 p _) byte

/-- The byte that output channel `m` and input channel `c` share with others, if no earlier block of their
processor's stream is short. -/
theorem pack_byte (extended : Packing.Extends middle after) (output : m < l.outExpand * l.outExpandThresh)
    (input : c < l.inExpand * l.inExpandThresh) (byte : j < l.kernelBytes)
    (block_eq : (m * l.inExpand + c / l.inExpandThresh) / l.perByte = block)
    (whole : ∀ b ≤ block, l.HasKernel k (c % l.inExpandThresh) b ∨ l.perByte = 1) :
    ∃ p b, (positions l.processors)[c % l.inExpandThresh]? = some p ∧
      (after.memory.bytesAt p (span.offset.toNat + (block * l.kernelBytes + j) / 9))[
        8 - (block * l.kernelBytes + j) % 9]? = some b ∧
      l.SharesByte b (l.blockWeight k (c % l.inExpandThresh) block j) := by
  obtain ⟨n, thresh⟩ : ∃ n, l.outExpandThresh = n + 1 :=
    Nat.exists_eq_succ_of_ne_zero fun zero => by simp [zero] at output
  have positive : 0 < l.inExpandThresh := Nat.pos_of_ne_zero fun zero => by simp [zero] at input
  have inside := block_lt packs.some_weights output (Nat.div_lt_of_lt_mul (Nat.mul_comm l.inExpand _ ▸ input))
  obtain ⟨p, found, complete, reads, _⟩ := packs.pack_reads plain empty run thresh (Nat.mod_lt c positive)
  obtain ⟨b, here, shares⟩ := packs.stream_shares s thresh rfl complete (block_eq ▸ inside) whole byte
  exact ⟨p, b, found, shares.1 ▸ reads after extended _ b here, shares⟩

end KernelLayer.Packs

theorem mapM_pack_unpacked {s : PackSettings} {all : List KernelLayer} {first : Nat} (layers : List KernelLayer)
    (inactive : ∀ l ∈ layers, l.active = false) : Keeps (fun before after : Packing => after = before)
      ((layers.zipIdx k).mapM fun (pair : KernelLayer × Nat) => packActive s all first pair.1 pair.2) := by
  apply Keeps.mapM (R := fun before after : Packing => after = before) (fun _ => rfl)
    (fun _ _ _ first second => second.trans first)
  intro pair member
  exact packActive_unpacked (.inr (inactive _ (fst_mem_of_mem_zipIdx member)))

namespace KernelMemory

theorem load_first {s : LoaderSettings} {layers : List KernelLayer} {spans : List KernelSpan} {before after : Session}
    {d : Device} (run : (load s layers).run before = .ok spans after) (device : before.device = some d)
    (number : layers[i]? = some l) (active : l.active = true) (reached : before.options.firstLayer ≤ i)
    (unpacked : ∀ j < i, ∀ earlier, layers[j]? = some earlier → j < before.options.firstLayer ∨ earlier.active = false) :
    ∃ packed span start middle afterPlain,
      (packLayers (packSettings before.options d) layers before.options.firstLayer).run {} = .ok spans packed ∧
      spans[i]? = some span ∧ (∀ p column, start.memory.stored p column = []) ∧
      (l.pack (packSettings before.options d) i afterPlain).run start = .ok span middle ∧
      Packing.Extends middle packed ∧ ((∀ later ∈ layers.drop (i + 1), later.active = false) → packed = middle) := by
  obtain ⟨d', packed, selected, ran⟩ := load_ok run
  rw [device, Option.some.injEq] at selected
  subst selected
  have layersRun := ran
  simp only [packLayers, bind_ok, modify_ok] at layersRun
  obtain ⟨_, start, rfl, layersRun⟩ := layersRun
  obtain ⟨span, middle, later, layerRun, place, rest⟩ := mapM_pack_split layers number
    (fun j less earlier found => by simpa using unpacked j less earlier found) layersRun
  unfold packActive at layerRun
  rw [Nat.zero_add, if_neg (by simp [active]; omega)] at layerRun
  refine ⟨packed, span, _, middle, _, ran, place, fun _ _ => by simp [stored, word?], layerRun, ?_, ?_⟩
  · exact mapM_pack_keeps Packing.SameMemory.extends Packing.Extends.trans storeByte_extends
      _ _ _ _ rest
  · intro inactive
    exact mapM_pack_unpacked _ inactive _ _ _ rest

end KernelMemory

end CnnForge
