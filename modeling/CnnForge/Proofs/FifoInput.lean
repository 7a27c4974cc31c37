import CnnForge.DataMemory.Loader
import CnnForge.Proofs.Convolutions
import CnnForge.Proofs.KernelLoading

namespace CnnForge.InputLayout

open Bits
open List hiding count

variable (l : InputLayout)
variable {g k n b p : Nat} {us : List Nat}

/-- The processors of group `g` that take data from its FIFO. -/
def fifoLanes (g : Nat) : Nat := l.processors >>> (16 * g) % 16

def usedFrom (g n : Nat) : List Nat := (range' g n).filter fun g => l.fifoLanes g ≠ 0

def fifos : List Nat := l.usedFrom 0 4

def firstChannel (g : Nat) : Nat := countBelow l.processors (16 * g)

/-- The value for lane `b` of FIFO `g`: the channel of a processor is its place in the map. -/
def laneSample (data : Tensor) (n g b : Nat) : Int :=
  if l.processors.testBit (16 * g + b) then
    data.get3 (countBelow l.processors (16 * g + b)) (n / l.shape.width) (n % l.shape.width)
  else 0

def lanesWord (lane : Nat → Int) : Int :=
  byte (lane 0) + byte (lane 1) * 2 ^ 8 + byte (lane 2) * 2 ^ 16 + byte (lane 3) * 2 ^ 24

/-- One word for each pixel and each FIFO in use. -/
def delivered (data : Tensor) : List FifoWord :=
  (range l.shape.pixels).flatMap fun n => l.fifos.map fun g => ⟨g, n, some (lanesWord (l.laneSample data n g))⟩

/-- All groups but the last use their four lanes, and the last one uses lanes without a gap. -/
def Gapless : List Nat → Prop
  | [] => True
  | [u] => u ∈ [1, 3, 7, 15]
  | u :: us => u = 15 ∧ Gapless us

structure TakesFifo : Prop where
  allowed : l.processors &&& 0x000f000f000f000f = l.processors
  channels : count l.processors = l.shape.channels

/-- Each used lane takes the channel of its place, counted from the first FIFO on. -/
def Aligned (gs : List Nat) (k : Nat) : Prop :=
  ∀ i g, gs[i]? = some g → ∀ b < 4, (l.fifoLanes g).testBit b = true →
    l.firstChannel g + countBelow (l.fifoLanes g) b = 4 * (k + i) + b

variable {l}

namespace TakesFifo

variable (takes : l.TakesFifo)
include takes

theorem low (set : l.processors.testBit p = true) : p < 64 ∧ p % 16 < 4 := by
  have masked : (0x000f000f000f000f : Nat).testBit p = true := by
    rw [← takes.allowed, Nat.testBit_and, Bool.and_eq_true] at set
    exact set.2
  have below : p < 64 := by
    refine Nat.lt_of_not_le fun above => ?_
    rw [Nat.testBit_lt_two_pow (Nat.lt_of_lt_of_le (by decide) (Nat.pow_le_pow_right (by decide) above))] at masked
    cases masked
  refine ⟨below, ?_⟩
  have all : ∀ p < 64, (0x000f000f000f000f : Nat).testBit p = true → p % 16 < 4 := by decide
  exact all p below masked

theorem firstChannel_succ (g : Nat) : l.firstChannel (g + 1) = l.firstChannel g + count (l.fifoLanes g) := by
  have rest : countBelow (l.processors >>> (16 * g + 4)) 12 = 0 := by
    refine countBelow_eq_zero.mpr fun j below => Bool.eq_false_iff.mpr fun set => ?_
    rw [Nat.testBit_shiftRight] at set
    have := (takes.low set).2
    omega
  rw [firstChannel, firstChannel, fifoLanes, count_mod_sixteen, show 16 * (g + 1) = 16 * g + 4 + 12 from by omega,
    countBelow_add, rest, countBelow_add, Nat.add_zero]

theorem firstChannel_all : l.firstChannel 4 = l.shape.channels := by
  rw [← takes.channels]
  exact (count_eq_of_forall_lt fun j set => (takes.low set).1).symm

end TakesFifo

theorem usedFrom_succ (g n : Nat) : l.usedFrom g (n + 1) =
    if l.fifoLanes g = 0 then l.usedFrom (g + 1) n else g :: l.usedFrom (g + 1) n := by
  rw [usedFrom, range'_succ]
  by_cases empty : l.fifoLanes g = 0 <;> simp [usedFrom, empty]

theorem firstChannel_zero : l.firstChannel 0 = 4 * 0 :=
  countBelow_eq_zero.mpr fun j below => absurd below (by omega)

theorem fifoLanes_lt (g : Nat) : l.fifoLanes g < 16 := Nat.mod_lt _ (by decide)

theorem aligned_cons {gs : List Nat} : l.Aligned (g :: gs) k ↔ (∀ b < 4, (l.fifoLanes g).testBit b = true →
    l.firstChannel g + countBelow (l.fifoLanes g) b = 4 * k + b) ∧ l.Aligned gs (k + 1) := by
  constructor
  · intro aligned
    refine ⟨aligned 0 g rfl, fun i h found b below set => ?_⟩
    rw [aligned (i + 1) h found b below set]
    omega
  · rintro ⟨here, later⟩ i h found b below set
    cases i with
    | zero =>
      cases found
      exact here b below set
    | succ i =>
      rw [later i h found b below set]
      omega

theorem gapless_full : Gapless (15 :: us) ↔ Gapless us := by
  cases us <;> simp [Gapless]

theorem gapless_short {u : Nat} (short : u ≠ 15) : Gapless (u :: us) ↔ u ∈ [1, 3, 7, 15] ∧ us = [] := by
  cases us <;> simp [Gapless, short]

theorem lanes_in_order : ∀ u < 16, u ≠ 0 →
    ((∀ b < 4, u.testBit b = true → countBelow u b = b) ↔ u ∈ [1, 3, 7, 15]) := by decide

theorem lanes_count : ∀ u : Nat, u < 16 → u ≠ 0 → 0 < count u ∧ count u ≤ 4 ∧ (u ≠ 15 → count u < 4) := by decide

theorem exists_first_lane : ∀ u < 16, u ≠ 0 → ∃ b ∈ range 4, u.testBit b = true ∧ countBelow u b = 0 := by decide

namespace TakesFifo

variable (takes : l.TakesFifo)
include takes

theorem firstChannel_empty (empty : l.fifoLanes g = 0) : l.firstChannel (g + 1) = l.firstChannel g := by
  rw [takes.firstChannel_succ, empty]
  rfl

theorem channels_le (g n : Nat) : l.firstChannel (g + n) ≤ l.firstChannel g + 4 * (l.usedFrom g n).length := by
  induction n generalizing g with
  | zero => simp
  | succ n ih =>
    have rest := ih (g + 1)
    rw [show g + 1 + n = g + (n + 1) from by omega] at rest
    rw [usedFrom_succ]
    by_cases empty : l.fifoLanes g = 0
    · rw [if_pos empty]
      rw [takes.firstChannel_empty empty] at rest
      exact rest
    · have few := (lanes_count _ (fifoLanes_lt g) empty).2.1
      rw [if_neg empty, length_cons]
      rw [takes.firstChannel_succ] at rest
      omega

theorem none_left (less : l.firstChannel g < 4 * k) (aligned : l.Aligned (l.usedFrom g n) k) : l.usedFrom g n = [] := by
  induction n generalizing g with
  | zero => rfl
  | succ n ih =>
    rw [usedFrom_succ] at aligned ⊢
    by_cases empty : l.fifoLanes g = 0
    · rw [if_pos empty] at aligned ⊢
      exact ih (by rwa [takes.firstChannel_empty empty]) aligned
    · rw [if_neg empty] at aligned
      obtain ⟨b, listed, set, first⟩ := exists_first_lane _ (fifoLanes_lt g) empty
      have place := (aligned_cons.mp aligned).1 b (mem_range.mp listed) set
      omega

theorem aligned_iff_gapless (n : Nat) (start : l.firstChannel g = 4 * k) :
    l.Aligned (l.usedFrom g n) k ↔ Gapless ((l.usedFrom g n).map l.fifoLanes) := by
  induction n generalizing g k with
  | zero => simp [usedFrom, Aligned, Gapless]
  | succ n ih =>
    rw [usedFrom_succ]
    by_cases empty : l.fifoLanes g = 0
    · rw [if_pos empty]
      exact ih ((takes.firstChannel_empty empty).trans start)
    · have order := lanes_in_order _ (fifoLanes_lt g) empty
      have few := (lanes_count _ (fifoLanes_lt g) empty).2.2
      have next := takes.firstChannel_succ g
      rw [if_neg empty, aligned_cons, map_cons, start]
      simp only [Nat.add_left_cancel_iff]
      rw [order]
      by_cases full : l.fifoLanes g = 15
      · rw [full, gapless_full, ih (k := k + 1) (by rw [next, full, start]; rfl)]
        simp
      · rw [gapless_short full, map_eq_nil_iff]
        refine and_congr_right fun _ => ⟨takes.none_left (by have := few full; omega), fun none => ?_⟩
        rw [none]
        intro i h found
        cases found

theorem gapless_words (n : Nat) (last : g + n = 4) (start : l.firstChannel g = 4 * k)
    (gapless : Gapless ((l.usedFrom g n).map l.fifoLanes)) :
    (l.shape.channels + 3) / 4 = k + (l.usedFrom g n).length := by
  induction n generalizing g k with
  | zero =>
    obtain rfl : g = 4 := last
    rw [takes.firstChannel_all] at start
    simp [usedFrom]
    omega
  | succ n ih =>
    rw [usedFrom_succ] at gapless ⊢
    by_cases empty : l.fifoLanes g = 0
    · rw [if_pos empty] at gapless ⊢
      exact ih (by omega) ((takes.firstChannel_empty empty).trans start) gapless
    · obtain ⟨some_lanes, _, few⟩ := lanes_count _ (fifoLanes_lt g) empty
      have next := takes.firstChannel_succ g
      rw [if_neg empty, map_cons] at gapless
      rw [if_neg empty, length_cons]
      by_cases full : l.fifoLanes g = 15
      · rw [full, gapless_full] at gapless
        rw [ih (k := k + 1) (by omega) (by rw [next, full, start]; rfl) gapless]
        omega
      · have none := map_eq_nil_iff.mp ((gapless_short full).mp gapless).2
        have all := takes.channels_le (g + 1) n
        rw [show g + 1 + n = 4 from by omega, takes.firstChannel_all, none] at all
        have mono := countBelow_mono l.processors (show 16 * (g + 1) ≤ 16 * 4 by omega)
        have same : l.firstChannel (g + 1) ≤ l.firstChannel 4 := mono
        rw [takes.firstChannel_all] at same
        have := few full
        simp only [none, length_nil] at all ⊢
        omega

end TakesFifo

theorem nextFifo_eq {fuel map : Nat} (fifo : Nat) (enough : k < fuel) (skipped : ∀ j < k, map >>> (16 * j) % 16 = 0)
    (used : map >>> (16 * k) % 16 ≠ 0) : nextFifo 0xf fuel map fifo = some (map >>> (16 * k), fifo + k) := by
  induction k generalizing fuel map fifo with
  | zero =>
    obtain ⟨fuel, rfl⟩ := Nat.exists_eq_add_of_lt enough
    rw [nextFifo, if_pos (by rwa [Nat.and_two_pow_sub_one_eq_mod map 4])]
    rfl
  | succ k ih =>
    obtain ⟨fuel, rfl⟩ : ∃ f, fuel = f + 1 := ⟨fuel - 1, by omega⟩
    have here : map &&& 0xf = 0 := by
      rw [Nat.and_two_pow_sub_one_eq_mod map 4]
      exact skipped 0 (by omega)
    have more : map ≠ 0 := by
      rintro rfl
      simp at used
    have shift : ∀ j, map >>> 16 >>> (16 * j) = map >>> (16 * (j + 1)) := by
      intro j
      rw [← Nat.shiftRight_add, Nat.mul_succ, Nat.add_comm]
    rw [nextFifo, if_neg (by simp [here]), if_neg more,
      ih (fifo + 1) (by omega) (fun j below => by rw [shift]; exact skipped (j + 1) (by omega)) (by rwa [shift]), shift,
      Nat.add_assoc, Nat.add_comm 1]

theorem usedFrom_cons {h : Nat} {rest : List Nat} (used : l.usedFrom g n = h :: rest) :
    ∃ k n', h = g + k ∧ (∀ j < k, l.fifoLanes (g + j) = 0) ∧ l.fifoLanes h ≠ 0 ∧ rest = l.usedFrom (h + 1) n' := by
  induction n generalizing g with
  | zero => cases used
  | succ n ih =>
    rw [usedFrom_succ] at used
    by_cases empty : l.fifoLanes g = 0
    · rw [if_pos empty] at used
      obtain ⟨k, n', rfl, skipped, here, later⟩ := ih used
      refine ⟨k + 1, n', by omega, fun j below => ?_, here, later⟩
      cases j with
      | zero => exact empty
      | succ j =>
        rw [Nat.add_comm j, ← Nat.add_assoc]
        exact skipped j (by omega)
    · rw [if_neg empty] at used
      cases used
      exact ⟨0, n, rfl, fun j below => absurd below (by omega), empty, rfl⟩

/-- As long as groups in use are left, the next word goes to the next one. -/
theorem fifoTargets_eq {m : Nat} (left : m ≤ (l.usedFrom g n).length) :
    l.fifoTargets 0xf m (l.processors >>> (16 * g)) g =
      some (((l.usedFrom g n).take m).map fun g => (g, l.processors >>> (16 * g))) := by
  induction m generalizing g n with
  | zero => rfl
  | succ m ih =>
    cases used : l.usedFrom g n with
    | nil => simp [used] at left
    | cons h rest =>
      obtain ⟨k, n', rfl, skipped, here, rfl⟩ := usedFrom_cons used
      have shift : ∀ j, l.processors >>> (16 * g) >>> (16 * j) = l.processors >>> (16 * (g + j)) := by
        intro j
        rw [← Nat.shiftRight_add, Nat.mul_add]
      have some_left : l.processors >>> (16 * g) ≠ 0 := by
        intro none
        rw [fifoLanes, ← shift, none] at here
        simp at here
      have enough : k < (l.processors >>> (16 * g)).log2 / 16 + 2 := by
        obtain ⟨b, _, set, _⟩ := exists_first_lane _ (fifoLanes_lt (g + k)) here
        rw [fifoLanes, ← shift, Nat.testBit_mod_two_pow _ 4, Nat.testBit_shiftRight, Bool.and_eq_true] at set
        have := le_log2_of_testBit set.2
        omega
      have next := nextFifo_eq g enough (fun j below => by rw [shift]; exact skipped j below) (by rw [shift]; exact here)
      rw [used, length_cons] at left
      have rest := ih (show m ≤ (l.usedFrom (g + k + 1) n').length by omega)
      rw [Nat.mul_succ, Nat.shiftRight_add] at rest
      simp only [fifoTargets, if_neg some_left, next, shift]
      simp [rest]

theorem fifoTargets_start (m : Nat) : l.fifoTargets 0xf m 0 0 = l.fifoTargets 0xf m l.processors 0 := by
  cases m with
  | zero => rfl
  | succ m => by_cases none : l.processors = 0 <;> simp [fifoTargets, none]

variable {data : Tensor}

/-- The value that word `i` of a pixel, for FIFO `g`, has in lane `b`: channels are counted by words. -/
def sentSample (l : InputLayout) (data : Tensor) (n i g b : Nat) : Int :=
  if l.processors.testBit (16 * g + b) = true ∧ 4 * i + b < l.shape.channels then
    data.get3 (4 * i + b) (n / l.shape.width) (n % l.shape.width)
  else 0

def sent (l : InputLayout) (data : Tensor) : List FifoWord :=
  (range l.shape.pixels).flatMap fun n => (l.fifos.take ((l.shape.channels + 3) / 4)).zipIdx.map fun (g, i) =>
    ⟨g, n, some (lanesWord (l.sentSample data n i g))⟩

theorem foldlM_lanes {f : Int → Nat → Option Int} (lane : Nat → Int)
    (step : ∀ v, ∀ b < 4, f v b = some (Bits.or v (Bits.up (byte (lane b)) (8 * b)))) :
    (range 4).foldlM f 0 = some (lanesWord lane) := by
  rw [lanesWord, ← Unload.packLanes_four]
  simp only [show range 4 = [0, 1, 2, 3] from rfl, foldlM_cons, foldlM_nil, step _ 0 (by decide),
    step _ 1 (by decide), step _ 2 (by decide), step _ 3 (by decide), Option.bind_eq_bind, Option.bind_some]
  rfl

namespace TakesFifo

variable (takes : l.TakesFifo)
include takes

theorem words_le : (l.shape.channels + 3) / 4 ≤ l.fifos.length := by
  have all := takes.channels_le 0 4
  rw [Nat.zero_add, takes.firstChannel_all] at all
  have none := l.firstChannel_zero
  rw [fifos]
  omega

theorem packedFifoWords_eq (shape : data.shape = [l.shape.channels, l.shape.height, l.shape.width]) :
    l.packedFifoWords data = some (l.sent data) := by
  by_cases none : l.shape.pixels = 0
  · simp [packedFifoWords, sent, none]
  · have targets := fifoTargets_eq takes.words_le
    rw [Nat.mul_zero, Nat.shiftRight_zero, ← fifoTargets_start] at targets
    simp only [packedFifoWords, if_neg none, targets, Option.bind_eq_bind, Option.bind_some, Option.pure_def, sent]
    congr 1
    refine congrArg flatten (map_congr_left fun n listed => ?_)
    have inside := mem_range.mp listed
    rw [DataShape.pixels] at inside
    have row : n / l.shape.width < l.shape.height := Nat.div_lt_of_lt_mul (by rwa [Nat.mul_comm])
    have column : n % l.shape.width < l.shape.width :=
      Nat.mod_lt _ (Nat.pos_of_ne_zero fun none => by simp [none] at inside)
    rw [zipIdx_map, map_map]
    refine map_congr_left fun (g, i) _ => ?_
    simp only [Function.comp, Prod.map, FifoWord.mk.injEq, true_and]
    refine foldlM_lanes (l.sentSample data n i g) fun v b _ => ?_
    simp only [Nat.testBit_shiftRight, sentSample, id]
    split
    · rename_i used
      have found : element? data (4 * i + b) (n / l.shape.width) (n % l.shape.width) =
          some (data.get3 (4 * i + b) (n / l.shape.width) (n % l.shape.width)) :=
        if_pos (by simpa [Tensor.dim, shape] using ⟨used.2, row, column⟩)
      rw [found, Nat.mul_comm b]
      rfl
    · have zero : Bits.up (byte 0) (8 * b) = 0 := by simp [Bits.up, byte_eq_emod]
      rw [zero, or_zero]

end TakesFifo

theorem lane_rank (below : b < 4) : l.processors.testBit (16 * g + b) = (l.fifoLanes g).testBit b ∧
    countBelow l.processors (16 * g + b) = l.firstChannel g + countBelow (l.fifoLanes g) b := by
  have low : countBelow (l.processors >>> (16 * g) % 16) b = countBelow (l.processors >>> (16 * g)) b :=
    countBelow_mod _ _ 4 (Nat.le_of_lt below)
  rw [fifoLanes, Nat.testBit_mod_two_pow _ 4, Nat.testBit_shiftRight, countBelow_add, low]
  simp [below, firstChannel]

theorem lanesWord_inj {f g : Nat → Int} : lanesWord f = lanesWord g ↔ ∀ b < 4, byte (f b) = byte (g b) := by
  simp only [lanesWord, byte_eq_emod]
  constructor
  · intro same b below
    have : b = 0 ∨ b = 1 ∨ b = 2 ∨ b = 3 := by omega
    rcases this with rfl | rfl | rfl | rfl <;> omega
  · intro same
    rw [same 0 (by decide), same 1 (by decide), same 2 (by decide), same 3 (by decide)]

/-- A value for each channel that tells it from the others and from an unused lane. -/
def channelMarks (l : InputLayout) : Tensor :=
  .ofFn [l.shape.channels, l.shape.height, l.shape.width] fun k => k / (l.shape.width * l.shape.height) + 1

theorem flatMap_const_inj {α : Type} {f g : Nat → List α} {a : Nat} (pixels : 0 < p) (left : ∀ n, (f n).length = a)
    (right : ∀ n, (g n).length = b) (same : (range p).flatMap f = (range p).flatMap g) : f 0 = g 0 := by
  have length : p * a = p * b := by
    have := congrArg length same
    simpa [length_flatMap, left, right] using this
  obtain ⟨p, rfl⟩ : ∃ k, p = k + 1 := ⟨p - 1, by omega⟩
  rw [range_succ_eq_map, flatMap_cons, flatMap_cons] at same
  refine (append_inj same ?_).1
  rw [left, right]
  exact Nat.eq_of_mul_eq_mul_left pixels length

namespace TakesFifo

variable (takes : l.TakesFifo)
include takes

theorem rank_lt (set : l.processors.testBit (16 * g + b) = true) :
    countBelow l.processors (16 * g + b) < l.shape.channels := by
  have := countBelow_lt_count set
  rw [← takes.channels]
  exact_mod_cast this

theorem sent_eq_delivered (gapless : Gapless (l.fifos.map l.fifoLanes)) : l.sent data = l.delivered data := by
  have all := takes.gapless_words 4 rfl firstChannel_zero gapless
  have aligned := (takes.aligned_iff_gapless 4 firstChannel_zero).mpr gapless
  rw [Nat.zero_add] at all
  refine congrArg flatten (map_congr_left fun n _ => ext_getElem? fun i => ?_)
  rw [take_of_length_le (by rw [all]; exact Nat.le_refl _), getElem?_map, getElem?_map,
    getElem?_zipIdx]
  cases found : l.fifos[i]? with
  | none => rfl
  | some g =>
    have same : lanesWord (l.sentSample data n i g) = lanesWord (l.laneSample data n g) := by
      refine lanesWord_inj.mpr fun b below => congrArg byte ?_
      obtain ⟨bit, rank⟩ := l.lane_rank (g := g) below
      rw [sentSample, laneSample]
      by_cases set : l.processors.testBit (16 * g + b) = true
      · have place := aligned i g found b below (bit ▸ set)
        rw [← rank, Nat.zero_add] at place
        rw [if_pos set, place, if_pos ⟨set, place ▸ takes.rank_lt set⟩]
      · rw [if_neg set, if_neg fun both => set both.1]
    simp [same]

theorem gapless_of_sent (pixels : 0 < l.shape.pixels) (same : l.sent l.channelMarks = l.delivered l.channelMarks) :
    Gapless (l.fifos.map l.fifoLanes) := by
  refine (takes.aligned_iff_gapless 4 firstChannel_zero).mp fun i g found b below set => ?_
  have size : l.shape.channels < 255 := by
    have few := takes.channels_le 0 4
    have used : (l.usedFrom 0 4).length ≤ 4 := length_filter_le _ _
    rw [Nat.zero_add, takes.firstChannel_all, firstChannel_zero] at few
    omega
  have marks : ∀ c < l.shape.channels, l.channelMarks.get3 c (0 / l.shape.width) (0 % l.shape.width) = c + 1 := by
    intro c channel
    have row : 0 < l.shape.height := Nat.pos_of_ne_zero fun zero => by simp [DataShape.pixels, zero] at pixels
    have column : 0 < l.shape.width := Nat.pos_of_ne_zero fun zero => by simp [DataShape.pixels, zero] at pixels
    rw [Nat.zero_div, Nat.zero_mod]
    exact Tensor.get3_ofFn (fun c _ _ => c + 1) (fun _ => by push_cast; rfl) channel row column
  obtain ⟨bit, rank⟩ := l.lane_rank (g := g) below
  have first := congrArg (·[i]?)
    (flatMap_const_inj pixels (fun _ => length_map _) (fun _ => length_map _) same)
  have found : l.fifos[i]? = some g := found
  simp only [getElem?_map, getElem?_zipIdx, getElem?_take, found, Option.map_some] at first
  split at first
  · simp only [Option.map_some, Option.some.injEq, FifoWord.mk.injEq, true_and, Nat.zero_add] at first
    have lane := lanesWord_inj.mp first b below
    rw [← bit] at set
    have inside := takes.rank_lt set
    rw [laneSample, if_pos set, marks _ inside, sentSample] at lane
    rw [← rank, Nat.zero_add]
    split at lane
    · rename_i counted
      rw [marks _ counted.2, byte_eq_emod, byte_eq_emod] at lane
      omega
    · rw [byte_eq_emod, byte_eq_emod] at lane
      omega
  · cases first

end TakesFifo

end CnnForge.InputLayout

namespace CnnForge.DataMemory

open InputLayout

variable {l : InputLayout} {data : Tensor}
variable {words : List FifoWord}

/-- Says what is loaded, and gives the options of the run. -/
def announceFifos (embedded : Bool) (l : InputLayout) : Run Options := do
  Run.check (l.operands = 1)
  let o ← Run.options
  if !embedded then Bus.output "\n\n  "
  let n := l.shape
  let name := if l.planar then "CHW" else "HWC"
  Bus.output s!"// Data input: {name} {n.channels}x{n.height}x{n.width} ({n.bytes} bytes"
  if n.channels > 1 then Bus.output s!" total / {n.pixels} bytes per channel"
  Bus.output "):\n"
  return o

def sendWord (o : Options) (fifo : Nat) (value : Int) : Run Unit := do
  Bus.write 0 (.number value) { fifo := some fifo }
  for _ in List.range o.slowLoad.toNat do
    Bus.output "  asm volatile(\"nop\");\n"

def defineFifoArray (o : Options) (c : Nat) (words : List Int) : Run Unit := do
  Bus.defineArray (storedWords o words) s!"SAMPLE_INPUT_{c}" "0x%08x" 8 false
  if o.riscvFlash then Bus.output CSource.flashAttribute
  Bus.output s!"static const uint32_t input_{c}[] = SAMPLE_INPUT_{c};\n"

def grid (k m : Nat) (word : Nat → Nat → Int) : Array (Array Int) :=
  ((List.range k).map fun g => ((List.range m).map (word g)).toArray).toArray

def sendAll (embedded : Bool) (o : Options) (l : InputLayout) (words : List FifoWord) : Run Unit := do
  let mut arrays := grid l.fifoCount l.fifoLength fun _ _ => 0
  for w in words do
    let v ← Run.orFail .index w.value
    if embedded then
      if w.fifo ≥ arrays.size then throw .index
      arrays := arrays.modify w.fifo fun a => a.setIfInBounds w.index v
    else sendWord o w.fifo v
  if embedded then
    for (a, c) in arrays.toList.zipIdx do
      defineFifoArray o c a.toList
    sendArrays o l
  else Bus.output "  // End of data input\n\n"

theorem grid_zero (k m : Nat) : grid k m (fun _ _ => 0) = Array.replicate k (Array.replicate m 0) := by
  simp [grid, List.map_const']

theorem loadFifos_eq (packed : l.planar = false) (found : l.packedFifoWords data = some words) (embedded : Bool) :
    loadFifos embedded l data = announceFifos embedded l >>= fun o => sendAll embedded o l words := by
  cases embedded <;> by_cases several : l.shape.channels > 1 <;>
    simp [loadFifos, announceFifos, sendAll, sendWord, defineFifoArray, packed, found, several, Run.orFail, grid_zero,
      apply_ite (Functor.map _)]

theorem orFail_some {α : Type} (e : Failure) (a : α) : Run.orFail e (some a) = pure a := by
  rw [Run.orFail]

theorem forIn_send {word : Nat → Nat → Int} (o : Options) (known : ∀ w ∈ words, w.value = some (word w.fifo w.index))
    (arrays : Array (Array Int)) : (forIn words arrays fun w r => do
      let v ← Run.orFail .index w.value
      sendWord o w.fifo v
      pure (.yield r)) = (forM words fun w => sendWord o w.fifo (word w.fifo w.index)) >>= fun _ => pure arrays := by
  induction words with
  | nil => rfl
  | cons w words ih =>
    have rest := ih fun x member => known x (List.mem_cons_of_mem _ member)
    rw [List.forIn_cons, List.forM_cons, known w List.mem_cons_self]
    simp only [orFail_some, pure_bind, bind_assoc, rest]

theorem getElem?_grid (k m g : Nat) (word : Nat → Nat → Int) :
    (grid k m word)[g]? = if g < k then some ((List.range m).map (word g)).toArray else none := by
  rw [grid, List.getElem?_toArray, List.getElem?_map]
  split
  · rw [List.getElem?_range ‹_›]
    rfl
  · rw [List.getElem?_eq_none (by simpa using Nat.le_of_not_lt ‹_›)]
    rfl

theorem grid_modify (k m g n : Nat) (word word' : Nat → Nat → Int) :
    (grid k m word).modify g (fun a => a.setIfInBounds n (word' g n)) =
      grid k m fun g' n' => if g = g' ∧ n = n' then word' g' n' else word g' n' := by
  refine Array.ext_getElem? fun h => ?_
  rw [Array.getElem?_modify, getElem?_grid, getElem?_grid]
  by_cases inside : h < k
  · rw [if_pos inside, if_pos inside]
    by_cases same : g = h
    · subst same
      rw [if_pos rfl, Option.map_some, Option.some.injEq]
      refine Array.ext_getElem? fun x => ?_
      rw [Array.getElem?_setIfInBounds]
      by_cases here : n = x
      · subst here
        by_cases column : n < m <;> simp [column]
      · by_cases column : x < m <;> simp [here, column]
    · simp [same]
  · simp [inside]

theorem forIn_store {word : Nat → Nat → Int} (known : ∀ w ∈ words, w.value = some (word w.fifo w.index)) (k m : Nat)
    (start : Nat → Nat → Int) : (forIn words (grid k m start) fun w r => (do
      let v ← Run.orFail .index w.value
      if w.fifo ≥ r.size then throw .index
      pure (.yield (r.modify w.fifo fun a => a.setIfInBounds w.index v)) : Run (ForInStep (Array (Array Int))))) =
    if ∀ w ∈ words, w.fifo < k then
      pure (grid k m fun g n => if ∃ w ∈ words, w.fifo = g ∧ w.index = n then word g n else start g n)
    else throw .index := by
  induction words generalizing start with
  | nil => simp
  | cons w words ih =>
    have rest := ih fun x member => known x (List.mem_cons_of_mem _ member)
    have size : (grid k m start).size = k := by simp [grid]
    rw [List.forIn_cons, known w List.mem_cons_self]
    simp only [orFail_some, pure_bind, size]
    by_cases inside : w.fifo < k
    · rw [if_neg (by omega)]
      simp only [pure_bind, grid_modify, rest]
      have later : ∀ g n, (if ∃ x ∈ words, x.fifo = g ∧ x.index = n then word g n
          else if w.fifo = g ∧ w.index = n then word g n else start g n) =
          if ∃ x ∈ w :: words, x.fifo = g ∧ x.index = n then word g n else start g n := by
        intro g n
        by_cases listed : ∃ x ∈ words, x.fifo = g ∧ x.index = n
        · rw [if_pos listed, if_pos (by simp [listed])]
        · simp [listed]
      simp only [later, List.forall_mem_cons, inside, true_and]
    · rw [if_pos (by omega), if_neg fun all => inside (all w List.mem_cons_self)]
      rfl

def sendEach (o : Options) (l : InputLayout) (word : Nat → Nat → Int) : Run Unit := do
  forM (List.range l.shape.pixels) fun n => forM l.fifos fun g => sendWord o g (word g n)
  Bus.output "  // End of data input\n\n"

/-- The words of a FIFO are stored in an array, from which a loop over the pixels writes them. -/
def sendStored (o : Options) (l : InputLayout) (word : Nat → Nat → Int) : Run Unit := do
  forM l.fifos fun g => defineFifoArray o g ((List.range l.shape.pixels).map (word g))
  sendArrays o l

def word (l : InputLayout) (data : Tensor) (g n : Nat) : Int := lanesWord (l.laneSample data n g)

theorem delivered_known (l : InputLayout) (data : Tensor) :
    ∀ w ∈ l.delivered data, w.value = some (word l data w.fifo w.index) := by
  intro w member
  obtain ⟨n, _, listed⟩ := List.mem_flatMap.mp member
  obtain ⟨g, _, rfl⟩ := List.mem_map.mp listed
  rfl

theorem sendAll_each (o : Options) : sendAll false o l (l.delivered data) = sendEach o l (word l data) := by
  have sends := forIn_send o (delivered_known l data) (grid l.fifoCount l.fifoLength fun _ _ => 0)
  simp only [sendAll, Bool.false_eq_true, if_false, sends, bind_assoc, pure_bind]
  simp only [delivered, Run.forM_flatMap, List.forM_map]
  rfl

theorem fifos_eq_range (low : ∀ g ∈ l.fifos, g < l.fifos.length) : l.fifos = List.range l.fifos.length := by
  revert low
  by_cases first : l.fifoLanes 0 = 0 <;> by_cases second : l.fifoLanes 1 = 0 <;> by_cases third : l.fifoLanes 2 = 0 <;>
    by_cases fourth : l.fifoLanes 3 = 0 <;> simp [fifos, usedFrom, List.range', first, second, third, fourth] <;> decide

theorem sendAll_stored (o : Options) (packed : l.planar = false) (pixels : 0 < l.shape.pixels)
    (count : l.fifoCount = l.fifos.length) :
    sendAll true o l (l.delivered data) =
      if l.fifos = List.range l.fifos.length then sendStored o l (word l data) else throw .index := by
  have stores := forIn_store (delivered_known l data) l.fifoCount l.fifoLength fun _ _ => 0
  have length : l.fifoLength = l.shape.pixels := by simp [fifoLength, packed]
  have listed : ∀ g n, (∃ w ∈ l.delivered data, w.fifo = g ∧ w.index = n) ↔ g ∈ l.fifos ∧ n < l.shape.pixels := by
    intro g n
    constructor
    · rintro ⟨w, member, rfl, rfl⟩
      obtain ⟨n, inside, there⟩ := List.mem_flatMap.mp member
      obtain ⟨g, used, rfl⟩ := List.mem_map.mp there
      exact ⟨used, List.mem_range.mp inside⟩
    · rintro ⟨used, inside⟩
      exact ⟨_, List.mem_flatMap.mpr ⟨n, List.mem_range.mpr inside, List.mem_map_of_mem used⟩, rfl, rfl⟩
  have small : (∀ w ∈ l.delivered data, w.fifo < l.fifoCount) ↔ l.fifos = List.range l.fifos.length := by
    rw [count]
    constructor
    · intro all
      refine fifos_eq_range fun g used => ?_
      obtain ⟨w, member, rfl, _⟩ := (listed g 0).mpr ⟨used, pixels⟩
      exact all w member
    · intro all w member
      have used := ((listed w.fifo w.index).mp ⟨w, member, rfl, rfl⟩).1
      rw [all] at used
      exact List.mem_range.mp used
  simp only [sendAll, if_true, stores]
  simp only [small, listed]
  split
  · rename_i all
    simp only [pure_bind]
    have arrays : (grid l.fifoCount l.fifoLength fun g n =>
        if g ∈ l.fifos ∧ n < l.shape.pixels then word l data g n else 0).toList.zipIdx =
        l.fifos.map fun g => (((List.range l.shape.pixels).map (word l data g)).toArray, g) := by
      refine List.ext_getElem? fun i => ?_
      rw [List.getElem?_zipIdx, Array.getElem?_toList, getElem?_grid, count, length, List.getElem?_map]
      by_cases inside : i < l.fifos.length
      · have found : l.fifos[i]? = some i := by
          rw [all]
          exact List.getElem?_range inside
        have same : ∀ n ∈ List.range l.shape.pixels,
            (if i ∈ l.fifos ∧ n < l.shape.pixels then word l data i n else 0) = word l data i n :=
          fun n column => if_pos ⟨List.mem_of_getElem? found, List.mem_range.mp column⟩
        rw [if_pos inside, found, List.map_congr_left same, Nat.zero_add]
        rfl
      · simp [inside]
    rw [arrays, sendStored, Outcome.forIn_eq_forM (g := fun x => defineFifoArray o x.2 x.1.toList) _ fun _ _ => rfl, List.forM_map]
  · rfl

/-- Every channel reaches the lane of its processor exactly if no lane before the last one in use is left out. In a
program with stored input, the groups in use must in addition be the first ones. -/
theorem fifo_channels_delivered_iff (takes : l.TakesFifo) (packed : l.planar = false) :
    (∀ data : Tensor, data.shape = [l.shape.channels, l.shape.height, l.shape.width] →
      ∃ words, l.packedFifoWords data = some words ∧ ∀ embedded,
        loadFifos embedded l data = announceFifos embedded l >>= fun o => sendAll embedded o l words) ∧
    ((∀ data : Tensor, data.shape = [l.shape.channels, l.shape.height, l.shape.width] →
        l.packedFifoWords data = some (l.delivered data)) ↔
      (0 < l.shape.pixels → Gapless (l.fifos.map l.fifoLanes))) ∧
    (0 < l.shape.pixels → Gapless (l.fifos.map l.fifoLanes) →
      ∀ data : Tensor, data.shape = [l.shape.channels, l.shape.height, l.shape.width] →
        loadFifos false l data = (announceFifos false l >>= fun o => sendEach o l (word l data)) ∧
        loadFifos true l data = (announceFifos true l >>= fun o =>
          if l.fifos = List.range l.fifos.length then sendStored o l (word l data) else throw .index)) := by
  have delivers : ∀ data : Tensor, data.shape = [l.shape.channels, l.shape.height, l.shape.width] →
      Gapless (l.fifos.map l.fifoLanes) → l.packedFifoWords data = some (l.delivered data) := by
    intro data shape gapless
    rw [takes.packedFifoWords_eq shape, takes.sent_eq_delivered gapless]
  refine ⟨fun data shape => ?_, ⟨fun all pixels => ?_, fun gapless data shape => ?_⟩,
    fun pixels gapless data shape => ?_⟩
  · have found := takes.packedFifoWords_eq shape
    exact ⟨_, found, loadFifos_eq packed found⟩
  · have same := all l.channelMarks rfl
    rw [takes.packedFifoWords_eq rfl] at same
    exact takes.gapless_of_sent pixels (Option.some.inj same)
  · by_cases none : l.shape.pixels = 0
    · rw [takes.packedFifoWords_eq shape]
      simp [sent, delivered, none]
    · exact delivers data shape (gapless (Nat.pos_of_ne_zero none))
  · have words := takes.gapless_words 4 rfl firstChannel_zero gapless
    have count : l.fifoCount = l.fifos.length := by
      rw [fifoCount, packed, if_neg Bool.false_ne_true, words, Nat.zero_add, fifos]
    have sends := loadFifos_eq packed (delivers data shape gapless)
    refine ⟨(sends false).trans ?_, (sends true).trans ?_⟩
    · simp only [sendAll_each]
    · simp only [sendAll_stored _ packed pixels count]

def spreadInput : InputLayout := { processors := 0x30000000f, shape := ⟨6, 1, 2⟩ }

def spreadSamples : Tensor := .ofFn [6, 1, 2] fun k => k + 1

theorem fifo_channels_delivered_spread :
    loadFifos false spreadInput spreadSamples =
      (announceFifos false spreadInput >>= fun o => sendEach o spreadInput (word spreadInput spreadSamples)) ∧
    loadFifos true spreadInput spreadSamples = announceFifos true spreadInput >>= fun _ => throw .index := by
  have gapless : Gapless (spreadInput.fifos.map spreadInput.fifoLanes) :=
    show 15 = 15 ∧ 3 ∈ [1, 3, 7, 15] by decide
  have sends := (fifo_channels_delivered_iff (l := spreadInput) ⟨rfl, by decide⟩ rfl).2.2 (by decide) gapless
    spreadSamples rfl
  have later : spreadInput.fifos ≠ List.range spreadInput.fifos.length := by decide
  simpa only [if_neg later] using sends

def sparseFifos : InputLayout := { processors := 0x10001, shape := ⟨2, 1, 1⟩ }

def sparseSamples : Tensor := .ofFn [2, 1, 1] fun k => k + 1

/-- The second channel is not sent. -/
theorem fifo_channel_lost : sparseFifos.TakesFifo ∧
    (∀ embedded, loadFifos embedded sparseFifos sparseSamples = announceFifos embedded sparseFifos >>= fun o =>
      sendAll embedded o sparseFifos [⟨0, 0, some 1⟩]) ∧
    sparseFifos.delivered sparseSamples = [⟨0, 0, some 1⟩, ⟨1, 0, some 2⟩] :=
  ⟨⟨rfl, by decide⟩, loadFifos_eq rfl (by decide +kernel), by decide +kernel⟩

end CnnForge.DataMemory
