import CnnForge.Proofs.OutputImage

namespace CnnForge

attribute [local instance (2000)] instPowNat

open Bits
open List hiding count

structure Device.SharesMemory (d : Device) : Prop where
  processors : d.maxProcessors = 64
  group : d.groupSize = 16
  shared : d.shared = 4
  channels : d.maxChannels = 1024

namespace InputLayout

variable {l : InputLayout} {d : Device} {data : Tensor} {b : InputBlock}

def firstAt (l : InputLayout) (q : Nat) : Nat := q / 64 * count l.processors + countBelow l.processors (q % 64)

def blockAt (l : InputLayout) (q : Nat) : InputBlock := ⟨q, (l.processors >>> (q % 64)) % 16, l.firstAt q⟩

theorem firstAt_next (map : l.processors < 1 <<< 64) {q : Nat} (aligned : q % 4 = 0) :
    l.firstAt (q + 4) = l.firstAt q + (l.blockAt q).count := by
  have lanes : (l.blockAt q).count = countBelow (l.processors >>> (q % 64)) 4 := count_mod_sixteen _
  have next := countBelow_add l.processors (q % 64) 4
  rw [lanes, firstAt, firstAt]
  by_cases last : q % 64 = 60
  · rw [show (q + 4) / 64 = q / 64 + 1 from by omega, show (q + 4) % 64 = 0 from by omega, Nat.add_mul,
      Nat.one_mul, countBelow, Nat.add_assoc _ _ (countBelow _ 4), ← next, last,
      count_eq_countBelow (by rwa [Nat.one_shiftLeft] at map)]
    rfl
  · rw [show (q + 4) / 64 = q / 64 from by omega, show (q + 4) % 64 = q % 64 + 4 from by omega, next, Nat.add_assoc]

theorem firstAt_mono (l : InputLayout) {q q' : Nat} (le : q ≤ q') : l.firstAt q ≤ l.firstAt q' := by
  unfold firstAt
  by_cases same : q / 64 = q' / 64
  · have below := countBelow_mono l.processors (show q % 64 ≤ q' % 64 by omega)
    rw [same]
    omega
  · have all := countBelow_le_count l.processors (q % 64)
    have more : (q / 64 + 1) * count l.processors ≤ q' / 64 * count l.processors :=
      Nat.mul_le_mul_right _ (by omega)
    rw [Nat.add_mul, Nat.one_mul] at more
    omega

def Used (l : InputLayout) (b : InputBlock) : Prop := b.lanes ≠ 0 ∧ b.first < l.shape.channels

instance (l : InputLayout) (b : InputBlock) : Decidable (l.Used b) := inferInstanceAs (Decidable (_ ∧ _))

theorem blocksFrom_eq (shared : d.SharesMemory) (map : l.processors < 1 <<< 64) (a n : Nat)
    (left : l.firstAt (a * 4) < l.shape.channels) :
    l.blocksFrom d 4 (l.firstAt (a * 4)) ((range' a n).map (· * 4)) =
      ((range' a n).map fun k => l.blockAt (k * 4)).filter fun b => l.Used b := by
  induction n generalizing a with
  | zero => rfl
  | succ n ih =>
    have next := firstAt_next map (q := a * 4) (by omega)
    rw [show a * 4 + 4 = (a + 1) * 4 from by omega] at next
    rw [range'_succ, map_cons, map_cons, blocksFrom, shared.processors]
    have lanes : (l.processors >>> (a * 4 % 64)) % 2 ^ 4 = (l.blockAt (a * 4)).lanes := rfl
    have here : (⟨a * 4, (l.blockAt (a * 4)).lanes, l.firstAt (a * 4)⟩ : InputBlock) = l.blockAt (a * 4) := rfl
    simp only [lanes, here]
    by_cases none : (l.blockAt (a * 4)).lanes = 0
    · have count : (l.blockAt (a * 4)).count = 0 := by
        rw [InputBlock.count, none]
        rfl
      have unused : ¬l.Used (l.blockAt (a * 4)) := fun used => used.1 none
      have same : l.firstAt ((a + 1) * 4) = l.firstAt (a * 4) := by omega
      rw [if_pos none, filter_cons_of_neg (by simpa using unused), ← same]
      exact ih (a + 1) (by rwa [same])
    · have used : l.Used (l.blockAt (a * 4)) := ⟨none, left⟩
      rw [if_neg none, filter_cons_of_pos (by simpa using used), ← next]
      by_cases last : l.firstAt ((a + 1) * 4) ≥ l.shape.channels
      · have empty : ((range' (a + 1) n).map fun k => l.blockAt (k * 4)).filter (fun b => l.Used b) = [] := by
          rw [filter_eq_nil_iff]
          intro b member
          obtain ⟨k, listed, rfl⟩ := mem_map.mp member
          have above := (mem_range'_1.mp listed).1
          have mono := l.firstAt_mono (show (a + 1) * 4 ≤ k * 4 by omega)
          intro used
          have less : l.firstAt (k * 4) < l.shape.channels := (of_decide_eq_true used).2
          omega
        rw [if_pos last, empty]
      · rw [if_neg last, ih (a + 1) (by omega)]

theorem blocks_eq (shared : d.SharesMemory) (map : l.processors < 1 <<< 64) (packed : l.planar = false)
    (some_channels : l.shape.channels ≠ 0) :
    l.blocks d = ((range' 0 256).map fun k => l.blockAt (k * 4)).filter fun b => l.Used b := by
  have start : l.firstAt (0 * 4) = 0 := by simp [firstAt, countBelow]
  have all := blocksFrom_eq shared map 0 256 (by omega)
  rw [start] at all
  rw [← all, blocks, packed, shared.channels, range_eq_range']
  rfl

section Blocks

variable (shared : d.SharesMemory) (map : l.processors < 1 <<< 64) (packed : l.planar = false)
  (some_channels : l.shape.channels ≠ 0)

include shared map packed some_channels

theorem mem_blocks : b ∈ l.blocks d ↔ ∃ q, q % 4 = 0 ∧ q < 1024 ∧ b = l.blockAt q ∧ l.Used b := by
  rw [blocks_eq shared map packed some_channels, mem_filter, decide_eq_true_iff]
  constructor
  · rintro ⟨member, used⟩
    obtain ⟨k, listed, rfl⟩ := mem_map.mp member
    have bound := (mem_range'_1.mp listed).2
    exact ⟨k * 4, by omega, by omega, rfl, used⟩
  · rintro ⟨q, aligned, bound, rfl, used⟩
    refine ⟨mem_map.mpr ⟨q / 4, ?_, by rw [show q / 4 * 4 = q from by omega]⟩, used⟩
    rw [mem_range'_1]
    omega

theorem blocks_ordered : (l.blocks d).Pairwise fun b b' => b.position < b'.position := by
  rw [blocks_eq shared map packed some_channels]
  apply Pairwise.filter
  rw [pairwise_map]
  apply (pairwise_lt_range' 1).imp
  intro k k' less
  show k * 4 < k' * 4
  omega

end Blocks

theorem pass_blockAt (threshold : count l.processors = l.inExpandThresh) {q : Nat} (used : l.Used (l.blockAt q)) :
    l.pass (l.blockAt q) = q / 64 := by
  obtain ⟨i, set⟩ := Nat.exists_testBit_of_ne_zero used.1
  have shifted : (l.processors >>> (q % 64) % 2 ^ 4).testBit i = true := set
  rw [Nat.testBit_mod_two_pow, Bool.and_eq_true, Nat.testBit_shiftRight] at shifted
  have below := countBelow_mono l.processors (show q % 64 ≤ q % 64 + i by omega)
  have less := countBelow_lt_count shifted.2
  show l.firstAt q / l.inExpandThresh = q / 64
  have small : countBelow l.processors (q % 64) / count l.processors = 0 := Nat.div_eq_of_lt (by omega)
  rw [firstAt, ← threshold, Nat.mul_comm, Nat.mul_add_div (by omega), small, Nat.add_zero]

def word (l : InputLayout) (d : Device) (data : Tensor) (b : InputBlock) (j : Nat) : InputWord :=
  let n := j / l.operands
  let op := j % l.operands
  { address := l.start d b + 4 * (n * l.inExpand * l.operands + op), row := n / l.shape.width,
    column := n % l.shape.width, value := l.packedValue data b (n / l.shape.width) (n % l.shape.width) op }

theorem packedWords_eq : l.packedWords d data b = (range (l.shape.pixels * l.operands)).map (l.word d data b) := by
  have parts := flatMap_range_flatMap l.shape.pixels l.operands fun n op =>
    [{ address := l.start d b + 4 * (n * l.inExpand * l.operands + op), row := n / l.shape.width,
       column := n % l.shape.width, value := l.packedValue data b (n / l.shape.width) (n % l.shape.width) op : InputWord }]
  simp only [← map_eq_flatMap] at parts
  exact parts

def laneElement (l : InputLayout) (data : Tensor) (b : InputBlock) (row column op lane : Nat) : Option Int :=
  let c := b.first + countBelow b.lanes lane
  if b.lanes.testBit lane = true ∧ c < data.dim 0 / l.operands then
    element? data (c + op * l.shape.channels) row column
  else some 0

theorem packedValue_eq (row column op : Nat) :
    l.packedValue data b row column op =
      (((range 4).map (l.laneElement data b row column op)).mapM id).map Unload.packLanes := by
  -- After some lanes, the fold has their bytes and the channel of the next one.
  have lanes : ∀ n, (range n).foldl (fun (acc : Option Int × Nat) i =>
      if b.lanes.testBit i then
        if acc.2 < data.dim 0 / l.operands then
          (do
            let v ← acc.1
            let x ← element? data (acc.2 + op * l.shape.channels) row column
            return Bits.or v (Bits.up (Bits.byte x) (i * 8)), acc.2 + 1)
        else (acc.1, acc.2 + 1)
      else acc) (some 0, b.first) =
        ((range n).foldlM (fun v i => (l.laneElement data b row column op i).map fun x =>
          Bits.or v (Bits.up (Bits.byte x) (i * 8))) 0, b.first + countBelow b.lanes n) := by
    intro n
    induction n with
    | zero => rfl
    | succ n ih =>
      have zero : ∀ v, Bits.or v (Bits.up (Bits.byte 0) (n * 8)) = v := by
        intro v
        rw [show Bits.byte 0 = 0 from rfl, Bits.up, Int.zero_mul, or_zero]
      rw [range_succ, foldl_append, ih, foldlM_append, countBelow]
      simp only [foldl_cons, foldl_nil, foldlM_cons, foldlM_nil, laneElement]
      by_cases used : b.lanes.testBit n = true
      · by_cases inside : b.first + countBelow b.lanes n < data.dim 0 / l.operands
        · simp only [used, inside, and_self, ↓reduceIte, Option.map_eq_bind, Nat.add_assoc, bind_pure]
          rfl
        · simp [used, inside, Nat.add_assoc, zero]
      · simp [used, zero]
  rw [packedValue, lanes, show range 4 = [0, 1, 2, 3] from rfl]
  simp only [map_cons, map_nil, foldlM_cons, foldlM_nil, mapM_cons, mapM_nil, id]
  cases l.laneElement data b row column op 0 <;> cases l.laneElement data b row column op 1 <;>
    cases l.laneElement data b row column op 2 <;> cases l.laneElement data b row column op 3 <;> rfl

end InputLayout

end CnnForge
