import CnnForge.Proofs.ByteLanes

namespace CnnForge

open Bits List InputLayout

variable {bs : List OutputBlock} {j : Nat}

/-- A value of the output is in memory: a byte in the lane of its processor, or a word of its own among
those of the processors that share a memory. -/
def OutputLayout.Holds (l : OutputLayout) (d : Device) (base gap : Int) (memory : Int → BitVec 32) (c n : Nat)
    (v : Int) : Prop :=
  let lane := l.processorOf c % 4
  let a := d.dataBase + l.channelAddress d c n gap + base
  if l.size = 1 then (memory a).extractLsb' (8 * lane) 8 = BitVec.ofInt 8 v
  else memory (a + 4 * lane) = BitVec.ofInt 32 v

def OutputLayout.InMemory (l : OutputLayout) (d : Device) (base gap : Int) (data : Tensor) (memory : Int → BitVec 32) :
    Prop :=
  ∀ c < l.shape.channels, ∀ row < l.shape.height, ∀ column < l.shape.width, ∃ v,
    element? data c row column = some v ∧ l.Holds d base gap memory c (row * l.shape.width + column) v

/-- All values of the output are there, and memory has words for them. -/
structure OutputLayout.Stored (l : OutputLayout) (d : Device) (gap : Int) (data : Tensor) (room : Nat) : Prop where
  channels : l.shape.channels ≤ data.dim 0
  height : l.shape.height ≤ data.dim 1
  width : l.shape.width ≤ data.dim 2
  words : ∀ c < l.shape.channels, ∀ n < l.shape.pixels,
    0 ≤ d.dataBase + l.channelAddress d c n gap ∧ d.dataBase + l.channelAddress d c n gap + 12 < 4 * room

namespace Unload

def wordCheck (base : Int) (w : Int × Int × VerifyStyle) : Check :=
  Bus.byteCheck (w.1 + base) w.2.1 w.2.2.bytes.toNat false w.2.2.comment

def checksAt (base : Int) (s : VerifySettings) (l : OutputLayout) (d : Device) (data : Tensor)
    (place : Nat × OutputBlock) : List Check :=
  let (n, b) := place
  match (laneValues data l b (n / l.shape.width) (n % l.shape.width)).mapM id with
  | none => []
  | some values => (pixelWords s l d n b values).map (wordCheck base)

def Known (l : OutputLayout) (data : Tensor) (place : Nat × OutputBlock) : Prop :=
  ∃ values, (laneValues data l place.2 (place.1 / l.shape.width) (place.1 % l.shape.width)).mapM id = some values

def places (l : OutputLayout) (bs : List OutputBlock) : List (Nat × OutputBlock) :=
  (range l.shape.pixels).flatMap fun n => bs.map fun b => (n, b)

variable {l : OutputLayout} {d : Device} {b : OutputBlock} {data : Tensor} {s : VerifySettings}

theorem mem_places {n : Nat} : (n, b) ∈ places l bs ↔ n < l.shape.pixels ∧ b ∈ bs := by
  simp [places]

theorem known_of_dims (channels : l.shape.channels ≤ data.dim 0) (height : l.shape.height ≤ data.dim 1)
    (width : l.shape.width ≤ data.dim 2) {place : Nat × OutputBlock} (member : place ∈ places l bs) : Known l data place := by
  obtain ⟨n, b⟩ := place
  have inside := (mem_places.mp member).1
  have positive : 0 < l.shape.width := by
    apply Nat.pos_of_ne_zero
    intro none
    simp [DataShape.pixels, none] at inside
  have row : n / l.shape.width < data.dim 1 :=
    Nat.lt_of_lt_of_le (Nat.div_lt_of_lt_mul (by rwa [Nat.mul_comm])) height
  have column : n % l.shape.width < data.dim 2 := Nat.lt_of_lt_of_le (Nat.mod_lt _ positive) width
  have value : ∀ lane, ∃ v, laneValue data l b (n / l.shape.width) (n % l.shape.width) lane = some v := by
    intro lane
    simp only [laneValue]
    split
    · rename_i used
      have channel := Nat.lt_of_lt_of_le used.2 channels
      rw [element?, if_pos ⟨channel, row, column⟩]
      exact ⟨_, rfl⟩
    · exact ⟨0, rfl⟩
  obtain ⟨v0, first⟩ := value 0
  obtain ⟨v1, second⟩ := value 1
  obtain ⟨v2, third⟩ := value 2
  obtain ⟨v3, fourth⟩ := value 3
  refine ⟨[v0, v1, v2, v3], ?_⟩
  rw [laneValues_eq]
  simp [range, range.loop, first, second, third, fourth]

theorem known_of_stored {gap : Int} {room : Nat} (stored : l.Stored d gap data room) {place : Nat × OutputBlock}
    (member : place ∈ places l bs) : Known l data place :=
  known_of_dims stored.channels stored.height stored.width member

section

variable (packed : l.Packed d) (fits : l.Fits b)
include packed fits

theorem lane_used (less : j < b.count) :
    j < 4 ∧ b.lanes.testBit j = true ∧ countBelow b.lanes j = j := by
  have count := packed.count_eq fits
  have four : j < 4 := by omega
  refine ⟨four, ?_, ?_⟩
  · rw [packed.testBit fits four, decide_eq_true_eq]
    omega
  · rw [packed.countBelow_lanes fits (by omega)]
    omega

theorem lane_place (less : j < b.count) (n : Nat) (gap : Int) :
    l.processorOf (b.first + j) % 4 = j ∧ l.channelAddress d (b.first + j) n gap = l.address d b n gap := by
  obtain ⟨four, used, rank⟩ := lane_used packed fits less
  have aligned := fits.aligned
  have processor := fits.lane_processor packed.threshold four used
  have address := fits.lane_address packed.shared packed.threshold four used n gap
  rw [rank] at processor address
  exact ⟨by omega, address⟩

theorem laneValue_eq (less : j < b.count)
    (inside : b.first + j < l.shape.channels) (row column : Nat) :
    laneValue data l b row column j = element? data (b.first + j) row column := by
  obtain ⟨_, used, rank⟩ := lane_used packed fits less
  simp only [laneValue, rank, used, inside, and_self, if_true]

theorem byte_passes (bytes : l.size = 1) (base : Int) (n : Nat)
    {values : List Int} (four : values.length = 4) (memory : Int → BitVec 32) :
    ((pixelWords s l d n b values).map (wordCheck base)).all (Check.passes memory) = true ↔
      ∀ j < min b.count (l.shape.channels - b.first),
        l.Holds d base s.gap memory (b.first + j) n (values.getD j 0) := by
  have inside := fits.inside
  have count := packed.count_eq fits
  have less := Nat.mod_lt b.first packed.some_channels
  have word : min b.count (l.shape.channels - b.first) ≤ 4 := by omega
  obtain ⟨w, lanes, bound, same⟩ := packLanes_bytes four word (memory (d.dataBase + l.address d b n s.gap + base))
  simp only [pixelWords, bytes, if_true, map_cons, map_nil, all_cons, all_nil, Bool.and_true,
    wordCheck, lanes, Int.toNat_natCast]
  rw [Bus.byteCheck_passes memory _ bound (by omega) word, same]
  apply forall_congr'
  intro j
  apply forall_congr'
  intro below
  obtain ⟨lane, address⟩ := lane_place packed fits (j := j) (by omega) n s.gap
  simp only [OutputLayout.Holds, bytes, if_true, lane, address]

theorem word_passes (bytes : l.size = 4) (base : Int) (n : Nat)
    (values : List Int) (memory : Int → BitVec 32) :
    ((pixelWords s l d n b values).map (wordCheck base)).all (Check.passes memory) = true ↔
      ∀ j < min b.count (l.shape.channels - b.first),
        l.Holds d base s.gap memory (b.first + j) n (values.getD j 0) := by
  have count := packed.count_eq fits
  have whole : min (min b.count (l.shape.channels - b.first)) 4 = min b.count (l.shape.channels - b.first) := by omega
  have other : ¬ (4 : Nat) = 1 := by decide
  simp only [pixelWords, bytes, other, if_false, whole, map_map, all_map, all_eq_true, mem_range,
    Function.comp]
  apply forall_congr'
  intro j
  apply forall_congr'
  intro below
  obtain ⟨lane, address⟩ := lane_place packed fits (j := j) (by omega) n s.gap
  obtain ⟨w, value, bound⟩ : ∃ w : Nat, low 32 (values.getD j 0) = w ∧ w < 2 ^ 32 := by
    rw [low_eq_emod]
    exact ⟨(values.getD j 0 % 2 ^ 32).toNat, by omega, by omega⟩
  have place : d.dataBase + l.address d b n s.gap + base + 4 * j = d.dataBase + l.address d b n s.gap + j * (4 : Nat) + base := by
    omega
  simp only [OutputLayout.Holds, bytes, other, if_false, lane, address, wordCheck, value, place]
  rw [Bus.byteCheck_passes memory _ bound (by decide) (by decide), ← BitVec.toNat_inj, BitVec.toNat_ofInt]
  have fits_word := (memory (d.dataBase + l.address d b n s.gap + j * (4 : Nat) + base)).isLt
  rw [low_eq_emod] at value
  simp only [show 8 * Int.toNat 4 = 32 from rfl, Nat.mod_eq_of_lt fits_word, Nat.mod_eq_of_lt bound]
  rw [show (((2 ^ 32 : Nat) : Int)) = 2 ^ 32 from rfl, value, Int.toNat_natCast]

theorem checksAt_pass (bytes : l.size = 1 ∨ l.size = 4) (base : Int) (n : Nat)
    (memory : Int → BitVec 32) (known : Known l data (n, b)) :
    (checksAt base s l d data (n, b)).all (Check.passes memory) = true ↔
      ∀ c, b.first ≤ c → c < b.first + b.count → c < l.shape.channels → ∃ v,
        element? data c (n / l.shape.width) (n % l.shape.width) = some v ∧
          l.Holds d base s.gap memory c n v := by
  obtain ⟨values, found⟩ := known
  obtain ⟨four, lanes⟩ := laneValues_some found
  have pass : (checksAt base s l d data (n, b)).all (Check.passes memory) = true ↔
      ∀ j < min b.count (l.shape.channels - b.first),
        l.Holds d base s.gap memory (b.first + j) n (values.getD j 0) := by
    simp only [checksAt, found]
    rcases bytes with bytes | bytes
    · exact byte_passes packed fits bytes base n four memory
    · exact word_passes packed fits bytes base n values memory
  have value : ∀ j < min b.count (l.shape.channels - b.first),
      element? data (b.first + j) (n / l.shape.width) (n % l.shape.width) = some (values.getD j 0) := by
    intro j below
    rw [← laneValue_eq packed fits (by omega) (by omega)]
    exact lanes j (lane_used packed fits (by omega)).1
  rw [pass]
  constructor
  · intro holds c above below inside
    obtain ⟨j, rfl⟩ := Nat.exists_eq_add_of_le above
    exact ⟨_, value j (by omega), holds j (by omega)⟩
  · intro holds j below
    obtain ⟨v, found, held⟩ := holds (b.first + j) (by omega) (by omega) (by omega)
    rw [value j below] at found
    exact Option.some.inj found ▸ held

end

theorem places_pass (packed : l.Packed d) (bytes : l.size = 1 ∨ l.size = 4) (base : Int) (covers : l.Covers 0 bs)
    (memory : Int → BitVec 32) (known : ∀ place ∈ places l bs, Known l data place) :
    ((places l bs).flatMap (checksAt base s l d data)).all (Check.passes memory) = true ↔
      l.InMemory d base s.gap data memory := by
  have pass : ((places l bs).flatMap (checksAt base s l d data)).all (Check.passes memory) = true ↔
      ∀ n < l.shape.pixels, ∀ c < l.shape.channels, ∃ v,
        element? data c (n / l.shape.width) (n % l.shape.width) = some v ∧
          l.Holds d base s.gap memory c n v := by
    rw [all_flatMap, all_eq_true]
    constructor
    · intro all n inside c channel
      obtain ⟨b, listed, above, below⟩ := covers.channel (Nat.zero_le c) channel
      have place : (n, b) ∈ places l bs := mem_places.mpr ⟨inside, listed⟩
      exact (checksAt_pass packed (covers.fits b listed) bytes base n memory (known _ place)).mp (all _ place) c above below
        channel
    · rintro holds ⟨n, b⟩ place
      obtain ⟨inside, listed⟩ := mem_places.mp place
      apply (checksAt_pass packed (covers.fits b listed) bytes base n memory (known _ place)).mpr
      intro c _ _ channel
      exact holds n inside c channel
  rw [pass]
  constructor
  · intro holds c channel row below column right
    have inside : row * l.shape.width + column < l.shape.pixels := by
      calc row * l.shape.width + column < row * l.shape.width + l.shape.width := by omega
        _ = (row + 1) * l.shape.width := by rw [Nat.succ_mul]
        _ ≤ l.shape.height * l.shape.width := Nat.mul_le_mul_right _ below
    have held := holds _ inside c channel
    have upper : (row * l.shape.width + column) / l.shape.width = row := by
      rw [Nat.mul_comm, Nat.mul_add_div (by omega), Nat.div_eq_of_lt right, Nat.add_zero]
    have lower : (row * l.shape.width + column) % l.shape.width = column := by
      rw [Nat.mul_comm, Nat.mul_add_mod, Nat.mod_eq_of_lt right]
    rwa [upper, lower] at held
  · intro holds n inside c channel
    have positive : 0 < l.shape.width := by
      apply Nat.pos_of_ne_zero
      intro none
      simp [DataShape.pixels, none] at inside
    have held := holds c channel (n / l.shape.width) (Nat.div_lt_of_lt_mul (by rwa [Nat.mul_comm])) (n % l.shape.width)
      (Nat.mod_lt _ positive)
    rwa [Nat.mul_comm, Nat.div_add_mod] at held

end Unload

end CnnForge
