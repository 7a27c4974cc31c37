import CnnForge.Proofs.ProcessorMaps
import CnnForge.Unload.Layout

namespace CnnForge.OutputLayout

attribute [local instance (2000)] instPowNat

open Bits

variable {b : OutputBlock} {lane c : Nat} {bs : List OutputBlock}

/-- A block with the processors of the map that it stands for. -/
structure Fits (l : OutputLayout) (b : OutputBlock) : Prop where
  inside : b.first < l.shape.channels
  pass : b.pass = b.first / l.outExpandThresh
  aligned : b.processor % 4 = 0
  lanes : b.lanes = (l.processors >>> b.processor) % 16
  rank : countBelow l.processors b.processor = b.first % l.outExpandThresh

inductive Covers (l : OutputLayout) : Nat → List OutputBlock → Prop where
  | done {c : Nat} (all : l.shape.channels ≤ c) : Covers l c []
  | block {c : Nat} {b : OutputBlock} {bs : List OutputBlock} (first : b.first = c) (fits : Fits l b)
      (rest : Covers l (b.first + b.count) bs) : Covers l c (b :: bs)

variable {l : OutputLayout} {d : Device}

theorem blockAt_eq (shared : d.shared = 4) (c processor map : Nat) :
    l.blockAt d c processor map = ⟨processor / 4 * 4, c / l.outExpandThresh, c, map % 16⟩ := by
  simp [blockAt, shared]

theorem firstProcessor_spec (shared : d.shared = 4) (used : l.processors ≠ 0) :
    l.firstProcessor d % 4 = 0 ∧ countBelow l.processors (l.firstProcessor d) = 0 ∧
      0 < countBelow l.processors (l.firstProcessor d + 4) := by
  obtain ⟨p, lowest, bit, below⟩ := lowest_spec used
  have start : l.firstProcessor d = p / 4 * 4 := by simp [firstProcessor, lowest, shared]
  rw [start]
  refine ⟨Nat.mul_mod_left _ _, ?_, ?_⟩
  · have le := countBelow_mono l.processors (m := p / 4 * 4) (n := p) (by omega)
    omega
  · have le := countBelow_mono l.processors (m := p + 1) (n := p / 4 * 4 + 4) (by omega)
    rw [countBelow, bit] at le
    simp only [if_true] at le
    omega

theorem next_in_pass (threshold : count l.processors = l.outExpandThresh) {p : Nat} (aligned : p % 4 = 0)
    (rank : countBelow l.processors p = c % l.outExpandThresh)
    (left : (c + count ((l.processors >>> p) % 16 : Nat)) % l.outExpandThresh ≠ 0) :
    l.processors >>> p / 16 = l.processors >>> (p + 4) ∧ (p + 4) % 4 = 0 ∧
      countBelow l.processors (p + 4) =
        (c + count ((l.processors >>> p) % 16 : Nat)) % l.outExpandThresh := by
  rw [count_mod_sixteen] at left ⊢
  have total := countBelow_le_count l.processors (p + 4)
  have sum := countBelow_add l.processors p 4
  rw [threshold] at total
  refine ⟨by rw [Nat.shiftRight_add, Nat.shiftRight_eq_div_pow _ 4], by omega, ?_⟩
  have same : (c + countBelow (l.processors >>> p) 4) % l.outExpandThresh =
      countBelow l.processors (p + 4) % l.outExpandThresh := by
    rw [sum, rank, Nat.mod_add_mod]
  rw [same] at left ⊢
  have less : countBelow l.processors (p + 4) < l.outExpandThresh := by
    apply Nat.lt_of_le_of_ne total
    intro full
    rw [full, Nat.mod_self] at left
    exact left rfl
  exact (Nat.mod_eq_of_lt less).symm

section

variable (shared : d.shared = 4) (used : l.processors ≠ 0) (threshold : count l.processors = l.outExpandThresh)
include shared used threshold

theorem blocksFrom_covers (c processor map : Nat)
    (inPass : c % l.outExpandThresh ≠ 0 → map = l.processors >>> processor ∧ processor % 4 = 0 ∧
      countBelow l.processors processor = c % l.outExpandThresh) :
    ∃ bs, l.blocksFrom d c processor map = some bs ∧ Covers l c bs := by
  obtain ⟨aligned, below, some_bit⟩ := firstProcessor_spec (d := d) shared used
  fun_induction blocksFrom l d c processor map with
  | case1 c processor map inside start b empty =>
    simp only [b, blockAt_eq shared, OutputBlock.count, firstMap, count_mod_sixteen] at empty
    rw [countBelow_add] at some_bit
    omega
  | case2 c processor map inside start b some_lanes ih =>
    have rank : countBelow l.processors (l.firstProcessor d) = c % l.outExpandThresh := by rw [below, start]
    have here : b = ⟨l.firstProcessor d, c / l.outExpandThresh, c, l.processors >>> l.firstProcessor d % 16⟩ := by
      simp only [b, blockAt_eq shared, firstMap, Nat.div_mul_cancel (Nat.dvd_of_mod_eq_zero aligned)]
    rw [here] at ih ⊢
    obtain ⟨bs, found, covers⟩ := ih (next_in_pass threshold aligned rank)
    rw [found]
    exact ⟨_, rfl, Covers.block rfl ⟨inside, rfl, aligned, rfl, rank⟩ covers⟩
  | case3 c processor inside left =>
    obtain ⟨none, _, rank⟩ := inPass left
    have less : countBelow l.processors processor < count l.processors := by
      rw [rank, threshold]
      apply Nat.mod_lt
      have le := countBelow_le_count l.processors (l.firstProcessor d + 4)
      omega
    exact absurd none.symm (shiftRight_ne_zero less)
  | case4 c processor map inside left some_map b ih =>
    obtain ⟨rfl, aligned', rank⟩ := inPass left
    have here : b = ⟨processor, c / l.outExpandThresh, c, l.processors >>> processor % 16⟩ := by
      simp only [b, blockAt_eq shared, Nat.div_mul_cancel (Nat.dvd_of_mod_eq_zero aligned')]
    rw [here] at ih ⊢
    obtain ⟨bs, found, covers⟩ := ih (next_in_pass threshold aligned' rank)
    rw [found]
    exact ⟨_, rfl, .block rfl ⟨inside, rfl, aligned', rfl, rank⟩ covers⟩
  | case5 c processor map outside => exact ⟨[], rfl, .done (by omega)⟩

theorem blocks_covers : ∃ bs, l.blocks d = .ok bs ∧ Covers l 0 bs := by
  obtain ⟨bs, found, covers⟩ := blocksFrom_covers (d := d) shared used threshold 0 (l.firstProcessor d)
    (l.firstMap d) (by simp)
  have some_bit := (firstProcessor_spec (d := d) shared used).2.2
  have le := countBelow_le_count l.processors (l.firstProcessor d + 4)
  refine ⟨bs, ?_, covers⟩
  rw [blocks, if_neg used, if_neg (by omega), found]

end

theorem Covers.fits (covers : Covers l c bs) : ∀ b ∈ bs, Fits l b := by
  induction covers with
  | done all => simp
  | block first fits rest ih =>
    intro b member
    rcases List.mem_cons.mp member with rfl | member
    · exact fits
    · exact ih b member

theorem Covers.first_le (covers : Covers l c bs) : ∀ b ∈ bs, c ≤ b.first := by
  induction covers with
  | done all => simp
  | @block c b bs first fits rest ih =>
    intro b' member
    rcases List.mem_cons.mp member with rfl | member
    · exact Nat.le_of_eq first.symm
    · exact Nat.le_trans (by omega) (ih b' member)

theorem Covers.channel {channel : Nat} (covers : Covers l c bs) (above : c ≤ channel)
    (inside : channel < l.shape.channels) : ∃ b ∈ bs, b.first ≤ channel ∧ channel < b.first + b.count := by
  induction covers with
  | done all => omega
  | @block c b bs first fits rest ih =>
    by_cases here : channel < b.first + b.count
    · exact ⟨b, by simp, by omega, here⟩
    · obtain ⟨b', member, bounds⟩ := ih (by omega)
      exact ⟨b', List.mem_cons_of_mem _ member, bounds⟩

section

variable (fits : Fits l b)
include fits

theorem Fits.testBit_lanes (bound : lane < 4) :
    b.lanes.testBit lane = l.processors.testBit (b.processor + lane) := by
  rw [fits.lanes, show (16 : Nat) = 2 ^ 4 from rfl, Nat.testBit_mod_two_pow, Nat.testBit_shiftRight]
  simp [bound]

theorem Fits.countBelow_lanes (bound : lane ≤ 4) :
    countBelow l.processors (b.processor + lane) = countBelow l.processors b.processor + countBelow b.lanes lane := by
  rw [countBelow_add, fits.lanes, show (16 : Nat) = 2 ^ 4 from rfl, countBelow_mod _ _ _ bound]

theorem Fits.count_eq : b.count = countBelow b.lanes 4 := by
  apply count_eq_countBelow
  rw [fits.lanes]
  exact Nat.mod_lt _ (by omega)

theorem Fits.lane_channel (threshold : count l.processors = l.outExpandThresh) (bound : lane < 4)
    (used : b.lanes.testBit lane = true) : (b.first + countBelow b.lanes lane) / l.outExpandThresh = b.pass ∧
      (positions l.processors)[(b.first + countBelow b.lanes lane) % l.outExpandThresh]? =
        some (b.processor + lane) := by
  have bit : l.processors.testBit (b.processor + lane) = true := by rw [← fits.testBit_lanes bound, used]
  have sum := fits.countBelow_lanes (Nat.le_of_lt bound)
  rw [fits.rank] at sum
  have less : b.first % l.outExpandThresh + countBelow b.lanes lane < l.outExpandThresh := by
    have le := countBelow_le_count l.processors (b.processor + lane + 1)
    rw [countBelow, bit, threshold] at le
    simp only [if_true] at le
    omega
  have rank : (b.first + countBelow b.lanes lane) % l.outExpandThresh =
      countBelow l.processors (b.processor + lane) := by
    rw [sum, ← Nat.mod_add_mod, Nat.mod_eq_of_lt less]
  constructor
  · rw [fits.pass]
    have parts := Nat.div_add_mod b.first l.outExpandThresh
    rw [← parts, Nat.add_assoc, Nat.mul_add_div (by omega), Nat.div_eq_of_lt less, parts, Nat.add_zero]
  · rw [rank]
    exact getElem?_positions bit

def processorOf (l : OutputLayout) (c : Nat) : Nat := (positions l.processors).getD (c % l.outExpandThresh) 0

/-- Where the word of a channel lies: that of its pixel in the memory of its processor. -/
def channelAddress (l : OutputLayout) (d : Device) (c n : Nat) (gap : Int) : Int :=
  l.address d (l.blockAt d c (l.processorOf c) 0) n gap

theorem Fits.lane_processor (threshold : count l.processors = l.outExpandThresh) (bound : lane < 4)
    (used : b.lanes.testBit lane = true) : l.processorOf (b.first + countBelow b.lanes lane) = b.processor + lane := by
  rw [processorOf, List.getD_eq_getElem?_getD, (fits.lane_channel threshold bound used).2]
  rfl

theorem Fits.lane_address (shared : d.shared = 4) (threshold : count l.processors = l.outExpandThresh)
    (bound : lane < 4) (used : b.lanes.testBit lane = true) (n : Nat) (gap : Int) :
    l.channelAddress d (b.first + countBelow b.lanes lane) n gap = l.address d b n gap := by
  have aligned := fits.aligned
  rw [channelAddress, fits.lane_processor threshold bound used, blockAt_eq shared]
  simp only [address, blockWord]
  rw [(fits.lane_channel threshold bound used).1, show (b.processor + lane) / 4 * 4 = b.processor from by omega]

theorem Fits.length_usedLanes : b.usedLanes.length = b.count := by
  rw [fits.count_eq, Bits.countBelow_eq_length]
  rfl

end

/-- As few processors as a pass needs, from the first one on. -/
structure Packed (l : OutputLayout) (d : Device) : Prop where
  shared : d.shared = 4
  some_channels : 0 < l.outExpandThresh
  processors : l.processors = 2 ^ l.outExpandThresh - 1

namespace Packed

theorem threshold (packed : Packed l d) : count l.processors = l.outExpandThresh := by
  rw [packed.processors, count_packed]

theorem processors_ne_zero (packed : Packed l d) : l.processors ≠ 0 := by
  have two := Nat.pow_le_pow_right (n := 2) (by omega) packed.some_channels
  rw [packed.processors]
  omega

theorem covers (packed : Packed l d) : ∃ bs, l.blocks d = .ok bs ∧ Covers l 0 bs :=
  blocks_covers packed.shared packed.processors_ne_zero packed.threshold

variable {b : OutputBlock}

variable (packed : Packed l d) (fits : Fits l b)
include packed fits

theorem processor : b.processor = b.first % l.outExpandThresh := by
  have rank := fits.rank
  have less := Nat.mod_lt b.first packed.some_channels
  rw [packed.processors, countBelow_packed] at rank
  omega

theorem testBit (bound : lane < 4) :
    b.lanes.testBit lane = decide (b.first % l.outExpandThresh + lane < l.outExpandThresh) := by
  rw [fits.testBit_lanes bound, packed.processors, Nat.testBit_two_pow_sub_one, packed.processor fits]

theorem countBelow_lanes (bound : lane ≤ 4) :
    countBelow b.lanes lane = min lane (l.outExpandThresh - b.first % l.outExpandThresh) := by
  have sum := fits.countBelow_lanes bound
  have less := Nat.mod_lt b.first packed.some_channels
  rw [packed.processors, countBelow_packed, countBelow_packed, packed.processor fits] at sum
  omega

theorem count_eq :
    b.count = min 4 (l.outExpandThresh - b.first % l.outExpandThresh) := by
  rw [fits.count_eq, packed.countBelow_lanes fits (Nat.le_refl 4)]

theorem first_used : b.lanes.testBit 0 = true := by
  rw [packed.testBit fits (by omega), decide_eq_true_eq]
  exact Nat.mod_lt _ packed.some_channels

theorem lanes_ne_zero : b.lanes ≠ 0 := by
  intro none
  have first := packed.first_used fits
  simp [none] at first

theorem first_address (n : Nat) (gap : Int) :
    l.channelAddress d b.first n gap = l.address d b n gap :=
  fits.lane_address packed.shared packed.threshold (show 0 < 4 by omega) (packed.first_used fits) n gap

theorem lowest_lane :
    lowest (l.processors >>> b.processor : Nat) = 0 := by
  apply lowest_eq_zero
  rw [Nat.testBit_shiftRight, packed.processors, Nat.testBit_two_pow_sub_one, packed.processor fits]
  simpa using Nat.mod_lt b.first packed.some_channels

end Packed

end CnnForge.OutputLayout
