import CnnForge.Device.Catalog
import CnnForge.Proofs.AddedChecks
import CnnForge.Proofs.OutputRecords

namespace CnnForge

open Outcome Bits OutputLayout Device OutputBlock
open List hiding count

variable {c n lane row column room : Nat} {bs : List OutputBlock} {values : List Int} {r : Nat × Mark}

theorem Bits.exists_testBit_of_lt {x rank : Nat} (less : rank < countBelow x n) :
    ∃ p < n, x.testBit p = true ∧ countBelow x p = rank := by
  rw [countBelow_eq_length] at less
  obtain ⟨below, used, same⟩ := of_getElem?_filter_testBit (getElem?_eq_getElem less)
  exact ⟨_, below, used, same⟩

def OutputBlock.channels (b : OutputBlock) : List Nat :=
  b.usedLanes.map fun lane => b.first + countBelow b.lanes lane

namespace OutputLayout

variable {l : OutputLayout} {d : Device} {b : OutputBlock}

theorem Fits.channels_eq (fits : Fits l b) : b.channels = range' b.first b.count := by
  apply ext_getElem?
  intro k
  rw [channels, getElem?_map, usedLanes]
  by_cases less : k < b.count
  · rw [fits.count_eq] at less
    obtain ⟨lane, below, used, rank⟩ := exists_testBit_of_lt less
    rw [← rank, getElem?_filter_testBit used below, getElem?_range' (by rwa [rank, fits.count_eq])]
    simp
  · rw [getElem?_eq_none (by rw [← fits.length_usedLanes] at less; simpa [usedLanes] using less),
      getElem?_eq_none (by simpa using less)]
    rfl

theorem filter_range'_lt (first count bound : Nat) :
    (range' first count).filter (· < bound) = range' first (min count (bound - first)) := by
  induction count generalizing first with
  | zero => simp
  | succ count ih =>
    rw [range'_succ, filter_cons, ih]
    by_cases below : first < bound
    · rw [if_pos (by simpa using below), show min (count + 1) (bound - first) = min count (bound - (first + 1)) + 1 by omega,
        range'_succ]
    · rw [if_neg (by simpa using below), show bound - first = 0 by omega, show bound - (first + 1) = 0 by omega]
      simp

theorem Covers.visits (covers : Covers l c bs) :
    (bs.flatMap channels).filter (· < l.shape.channels) = range' c (l.shape.channels - c) := by
  induction covers with
  | done all =>
    rw [Nat.sub_eq_zero_of_le all]
    rfl
  | @block c b bs first fits rest ih =>
    subst first
    rw [flatMap_cons, filter_append, ih, fits.channels_eq, filter_range'_lt]
    rcases Nat.le_total (b.first + b.count) l.shape.channels with whole | part
    · rw [Nat.min_eq_left (by omega), range'_append_1]
      congr 1
      omega
    · rw [Nat.min_eq_right (by omega), Nat.sub_eq_zero_of_le part, range'_zero, append_nil]

theorem Covers.ordered (covers : Covers l c bs) : bs.Pairwise fun b b' => b.first + b.count ≤ b'.first := by
  induction covers with
  | done all => exact Pairwise.nil
  | block first fits rest ih => exact Pairwise.cons rest.first_le ih

theorem Fits.exists_lane (fits : Fits l b) (above : b.first ≤ c) (below : c < b.first + b.count) :
    ∃ lane < 4, b.lanes.testBit lane = true ∧ b.first + countBelow b.lanes lane = c := by
  rw [fits.count_eq] at below
  obtain ⟨lane, bound, used, rank⟩ := exists_testBit_of_lt (show c - b.first < countBelow b.lanes 4 by omega)
  exact ⟨lane, bound, used, by omega⟩

section

variable (fits : Fits l b) (threshold : count l.processors = l.outExpandThresh)
include fits threshold

theorem Fits.channel_eq
    (some_channels : 0 < l.outExpandThresh) (bound : lane < 4) (pass : c / l.outExpandThresh = b.pass)
    (processor : l.processorOf c = b.processor + lane) :
    b.lanes.testBit lane = true ∧ b.first + countBelow b.lanes lane = c := by
  have inside : c % l.outExpandThresh < (positions l.processors).length := by
    rw [length_positions, threshold]
    exact Nat.mod_lt _ some_channels
  have listed : (positions l.processors)[c % l.outExpandThresh]? = some (b.processor + lane) := by
    rw [← processor, processorOf, getD_eq_getElem?_getD, getElem?_eq_getElem inside]
    rfl
  obtain ⟨_, used, rank⟩ := of_getElem?_filter_testBit listed
  rw [fits.countBelow_lanes (Nat.le_of_lt bound), fits.rank] at rank
  refine ⟨by rw [fits.testBit_lanes bound, used], ?_⟩
  calc b.first + countBelow b.lanes lane
      = l.outExpandThresh * b.pass + (b.first % l.outExpandThresh + countBelow b.lanes lane) := by
        rw [fits.pass, ← Nat.add_assoc, Nat.div_add_mod]
    _ = c := by rw [rank, ← pass, Nat.div_add_mod]

variable (above : b.first ≤ c) (below : c < b.first + b.count)
include above below

theorem Fits.processor_eq : l.processorOf c / 4 * 4 = b.processor := by
  obtain ⟨lane, bound, used, rfl⟩ := fits.exists_lane above below
  have aligned := fits.aligned
  rw [fits.lane_processor threshold bound used]
  omega

theorem Fits.pass_eq : c / l.outExpandThresh = b.pass := by
  obtain ⟨lane, bound, used, rfl⟩ := fits.exists_lane above below
  exact (fits.lane_channel threshold bound used).1

end

theorem Fits.address_eq (fits : Fits l b) (shared : d.shared = 4) (threshold : count l.processors = l.outExpandThresh)
    (above : b.first ≤ c) (below : c < b.first + b.count) (n : Nat) (gap : Int) :
    l.channelAddress d c n gap = l.address d b n gap := by
  obtain ⟨lane, bound, used, rfl⟩ := fits.exists_lane above below
  exact fits.lane_address shared threshold bound used n gap

theorem Fits.count_pos (fits : Fits l b) (used : b.lanes ≠ 0) : 0 < b.count := by
  rw [fits.count_eq]
  apply Nat.pos_of_ne_zero
  intro none
  rw [countBelow_eq_zero] at none
  apply used
  apply Nat.eq_of_testBit_eq
  intro lane
  rw [Nat.zero_testBit]
  by_cases bound : lane < 4
  · exact none lane bound
  · rw [fits.lanes, show (16 : Nat) = 2 ^ 4 from rfl, Nat.testBit_mod_two_pow]
    simp [bound]

def SameBlock (l : OutputLayout) (c c' : Nat) : Prop :=
  c' / l.outExpandThresh = c / l.outExpandThresh ∧ l.processorOf c' / 4 = l.processorOf c / 4

theorem Fits.not_sameBlock {b' : OutputBlock} (fits : Fits l b) (fits' : Fits l b')
    (threshold : count l.processors = l.outExpandThresh) (later : b.first + b.count ≤ b'.first) {c' : Nat}
    (above : b.first ≤ c) (below : c < b.first + b.count) (above' : b'.first ≤ c') (below' : c' < b'.first + b'.count) :
    ¬l.SameBlock c c' := by
  rintro ⟨pass, memory⟩
  rw [fits.pass_eq threshold above below, fits'.pass_eq threshold above' below', fits.pass, fits'.pass] at pass
  have processor : b'.processor = b.processor := by
    rw [← fits.processor_eq threshold above below, ← fits'.processor_eq threshold above' below', memory]
  have rank := fits.rank
  rw [← processor, fits'.rank] at rank
  have parts := Nat.div_add_mod b.first l.outExpandThresh
  have parts' := Nat.div_add_mod b'.first l.outExpandThresh
  rw [rank, pass] at parts'
  omega

/-- Index of the word of a channel in a memory of `room` words. -/
def wordIndex? (l : OutputLayout) (d : Device) (gap : Int) (room c n : Nat) : Option Nat :=
  position? room (Bits.down (d.dataBase + l.channelAddress d c n gap) 2)

/-- A later pixel, or a later channel in another block, has the word of channel `c` of pixel `n`. -/
def Retaken (l : OutputLayout) (d : Device) (gap : Int) (room c n : Nat) : Prop :=
  ∃ c' < l.shape.channels, ∃ n' < l.shape.pixels, (n < n' ∨ n = n' ∧ c < c' ∧ ¬l.SameBlock c c') ∧
    l.wordIndex? d gap room c' n' = l.wordIndex? d gap room c n

instance (l : OutputLayout) (c c' : Nat) : Decidable (l.SameBlock c c') :=
  inferInstanceAs (Decidable (_ ∧ _))

instance (l : OutputLayout) (d : Device) (gap : Int) (room c n : Nat) : Decidable (l.Retaken d gap room c n) :=
  inferInstanceAs (Decidable (∃ c' < l.shape.channels, ∃ n' < l.shape.pixels, _ ∧ _))

/-- A lane of the word with channel `c`: the byte of the channel that its processor has in the pass, and
zero where there is none. -/
def HoldsLane (l : OutputLayout) (data : Tensor) (c row column lane : Nat) (byte : Int) : Prop :=
  let processor := l.processorOf c / 4 * 4 + lane
  (∀ c' < l.shape.channels, c' / l.outExpandThresh = c / l.outExpandThresh → l.processorOf c' = processor →
    (InputLayout.element? data c' row column).map Bits.byte = some byte) ∧
  ((∀ c' < l.shape.channels, c' / l.outExpandThresh = c / l.outExpandThresh → l.processorOf c' ≠ processor) →
    byte = 0)

end OutputLayout

namespace Unload

variable {l : OutputLayout} {d : Device} {b : OutputBlock} {data : Tensor} {s : VerifySettings}

theorem packLanes_lane (four : values.length = 4) (bound : lane < 4) :
    byte (down (packLanes values) (8 * lane)) = byte (values.getD lane 0) := by
  obtain ⟨x, y, z, w, rfl⟩ : ∃ x y z w, values = [x, y, z, w] := by
    rcases values with _ | ⟨x, _ | ⟨y, _ | ⟨z, _ | ⟨w, _ | _⟩⟩⟩⟩ <;> simp at four
    exact ⟨x, y, z, w, rfl⟩
  simp only [packLanes_four, down, Int.shiftRight_eq_div_pow, byte_eq_emod]
  have cases : lane = 0 ∨ lane = 1 ∨ lane = 2 ∨ lane = 3 := by omega
  rcases cases with rfl | rfl | rfl | rfl
  all_goals simp
  all_goals omega

theorem holdsLane_of_values (fits : l.Fits b) (threshold : count l.processors = l.outExpandThresh)
    (some_channels : 0 < l.outExpandThresh) (known : (laneValues data l b row column).mapM id = some values)
    (above : b.first ≤ c) (below : c < b.first + b.count) (bound : lane < 4) :
    l.HoldsLane data c row column lane (byte (down (packLanes values) (8 * lane))) := by
  obtain ⟨four, each⟩ := laneValues_some known
  have value := each lane bound
  rw [packLanes_lane four bound, OutputLayout.HoldsLane, fits.processor_eq threshold above below,
    fits.pass_eq threshold above below]
  constructor
  · intro c' inside pass processor
    obtain ⟨used, rfl⟩ := fits.channel_eq threshold some_channels bound pass processor
    rw [laneValue, if_pos ⟨used, inside⟩] at value
    rw [value]
    rfl
  · intro none
    have idle : ¬(b.lanes.testBit lane = true ∧ b.first + countBelow b.lanes lane < l.shape.channels) := by
      rintro ⟨used, inside⟩
      exact none _ inside (fits.lane_channel threshold bound used).1 (fits.lane_processor threshold bound used)
    rw [laneValue, if_neg idle, Option.some.injEq] at value
    rw [← value]
    rfl

theorem places_ordered (covers : l.Covers c bs) :
    (places l bs).Pairwise fun p p' => p.1 < p'.1 ∨ p.1 = p'.1 ∧ p.2.first + p.2.count ≤ p'.2.first := by
  rw [places, pairwise_flatMap]
  constructor
  · intro n _
    rw [pairwise_map]
    exact covers.ordered.imp fun later => .inr ⟨rfl, later⟩
  · refine pairwise_lt_range.imp ?_
    intro n n' less p member p' member'
    obtain ⟨b, _, rfl⟩ := mem_map.mp member
    obtain ⟨b', _, rfl⟩ := mem_map.mp member'
    exact .inl less

theorem mem_recordsAt {place : Nat × OutputBlock} (member : r ∈ recordsAt s l d data room place) : place.2.lanes ≠ 0 ∧
      position? room (Bits.down (d.dataBase + l.address d place.2 place.1 s.gap) 2) = some r.1 := by
  rw [recordsAt] at member
  split at member
  · simp at member
  · rename_i used
    refine ⟨used, ?_⟩
    rw [Option.mem_toList] at member
    simp only [recordAt, Option.bind_eq_bind, Option.bind_eq_some_iff, Option.pure_def, Option.some.injEq] at member
    obtain ⟨_, _, i, here, rfl⟩ := member
    exact here

theorem Recorded.place {refuses : Prop} {out : String} {before after : Session} (covers : l.Covers 0 bs)
    (recorded : Recorded refuses out ((places l bs).flatMap (recordsAt s l d data room)) before after)
    (inside : n < l.shape.pixels) (member : b ∈ bs) (used : b.lanes ≠ 0)
    (here : recordAt s l d data room (n, b) = some r)
    (kept : refuses ∨ ∀ b' ∈ bs, b'.lanes ≠ 0 → ∀ n' < l.shape.pixels,
      n < n' ∨ n = n' ∧ b.first + b.count ≤ b'.first →
        position? room (Bits.down (d.dataBase + l.address d b' n' s.gap) 2) ≠ some r.1) :
    (after.used out)[r.1]? = some r.2 := by
  obtain ⟨pre, post, split⟩ := append_of_mem (mem_places.mpr ⟨inside, member⟩)
  have records : (places l bs).flatMap (recordsAt s l d data room) =
      pre.flatMap (recordsAt s l d data room) ++ r :: post.flatMap (recordsAt s l d data room) := by
    rw [split, flatMap_append, flatMap_cons, recordsAt, if_neg used, here]
    rfl
  have ordered := places_ordered covers
  rw [split, pairwise_append, pairwise_cons] at ordered
  have last : ∀ r' ∈ post.flatMap (recordsAt s l d data room), r'.1 ≠ r.1 := by
    intro r' later same
    rcases kept with refused | kept
    · have nodup := (recorded.fresh refused).1
      rw [records, map_append, map_cons, nodup_append, nodup_cons] at nodup
      exact nodup.2.1.1 (same ▸ mem_map_of_mem later)
    · obtain ⟨place, member', later⟩ := mem_flatMap.mp later
      obtain ⟨used', index⟩ := mem_recordsAt later
      have listed : place ∈ places l bs := by
        rw [split]
        simp [member']
      obtain ⟨inside', member''⟩ := mem_places.mp listed
      exact kept place.2 member'' used' place.1 inside' (ordered.2.1.1 place member') (same ▸ index)
  rw [recorded.words, records]
  exact recordAll_last last _

section

variable {check : Verifier} {out : String} {before after : Session} {u : Unit}

theorem verify_used (direct : s.interleaved = false ∨ s.embedded = true) (selected : before.device = some d)
    (run : (verify check s l data).run before = .ok u after) : l.processors ≠ 0 := by
  rw [verify_direct direct] at run
  obtain ⟨_, middle, saved, run⟩ := bind_ok.mp run
  have same := Steady.same (Stays.saveResult _ _) saved
  exact (verifyDirect_ok (same.device.trans selected) run).1

variable (shared : d.shared = 4) (bytes : l.bits = 8) (threshold : count l.processors = l.outExpandThresh)
  (steady : ∀ address value style, Steady (check address value style)) (direct : s.interleaved = false ∨ s.embedded = true)
  (recorded : s.output = some out) (selected : before.device = some d)
  (run : (verify check s l data).run before = .ok u after)

include shared bytes threshold steady direct recorded selected run

theorem verify_word (channel : c < l.shape.channels) (inside : row < l.shape.height) (inside' : column < l.shape.width)
    (kept : s.overwriteOk = false ∧ before.options.noErrorStop = false ∨
      ¬l.Retaken d s.gap (before.room out) c (row * l.shape.width + column)) :
    ∃ first v : Int,
      (imageWord out (d.dataBase + l.channelAddress d c (row * l.shape.width + column) s.gap)).run after =
        .ok (some (.output s.layer first row column v)) after ∧
      ∀ lane < 4, l.HoldsLane data c row column lane (byte (down v (8 * lane))) := by
  have used := verify_used direct selected run
  obtain ⟨bs, found, covers⟩ := blocks_covers shared used threshold
  obtain ⟨known, records⟩ := verify_records bytes steady direct recorded selected found run
  obtain ⟨b, member, above, below⟩ := covers.channel (Nat.zero_le c) channel
  have fits := covers.fits b member
  have some_channels : 0 < l.outExpandThresh := by
    have some_bit := (firstProcessor_spec (d := d) shared used).2.2
    have le := countBelow_le_count l.processors (l.firstProcessor d + 4)
    omega
  have lanes : b.lanes ≠ 0 := by
    obtain ⟨lane, _, bit, _⟩ := fits.exists_lane above below
    exact ne_zero_of_testBit bit
  have pixel : row * l.shape.width + column < l.shape.pixels := by
    have rows := Nat.mul_le_mul_right l.shape.width inside
    rw [Nat.succ_mul] at rows
    rw [DataShape.pixels]
    omega
  have place : (row * l.shape.width + column) / l.shape.width = row ∧
      (row * l.shape.width + column) % l.shape.width = column := by
    rw [Nat.mul_comm, Nat.mul_add_mod, Nat.mod_eq_of_lt inside', Nat.mul_add_div (by omega), Nat.div_eq_of_lt inside']
    exact ⟨rfl, rfl⟩
  generalize row * l.shape.width + column = n at *
  obtain ⟨r, here⟩ := known (n, b) (mem_places.mpr ⟨pixel, member⟩) lanes
  have mark := Recorded.place covers records pixel member lanes here ?_
  · simp only [recordAt, Option.bind_eq_bind, Option.bind_eq_some_iff, Option.pure_def, Option.some.injEq, place] at here
    obtain ⟨values, lane_values, i, index, rfl⟩ := here
    refine ⟨b.first, packLanes values, ?_, ?_⟩
    · rw [imageWord_ok, records.room, fits.address_eq shared threshold above below]
      exact ⟨rfl, i, index, mark⟩
    · intro lane bound
      exact holdsLane_of_values fits threshold some_channels lane_values above below bound
  · refine kept.imp id ?_
    intro last b' member' lanes' n' pixel' later index
    have fits' := covers.fits b' member'
    have counted := fits'.count_pos lanes'
    have clash : l.wordIndex? d s.gap (before.room out) b'.first n' = some r.1 := by
      rw [wordIndex?, fits'.address_eq shared threshold (Nat.le_refl _) (by omega), index]
    have same : l.wordIndex? d s.gap (before.room out) c n = some r.1 := by
      rw [wordIndex?, fits.address_eq shared threshold above below]
      have listed : r ∈ recordsAt s l d data (before.room out) (n, b) := by simp [recordsAt, lanes, here]
      exact (mem_recordsAt listed).2
    apply last
    refine ⟨b'.first, fits'.inside, n', pixel', later.imp id ?_, clash.trans same.symm⟩
    rintro ⟨rfl, after_block⟩
    exact ⟨rfl, by omega, fits.not_sameBlock fits' threshold after_block above below (Nat.le_refl _) (by omega)⟩

theorem verify_untouched {i : Nat}
    (free : ∀ c < l.shape.channels, ∀ n < l.shape.pixels, l.wordIndex? d s.gap (before.room out) c n ≠ some i) :
    (after.used out)[i]? = (before.used out)[i]? := by
  obtain ⟨bs, found, covers⟩ := blocks_covers shared (verify_used direct selected run) threshold
  obtain ⟨_, records⟩ := verify_records bytes steady direct recorded selected found run
  rw [records.words]
  apply recordAll_other
  intro r member same
  obtain ⟨place, listed, member⟩ := mem_flatMap.mp member
  obtain ⟨pixel, block⟩ := mem_places.mp listed
  obtain ⟨lanes, index⟩ := mem_recordsAt member
  have fits := covers.fits place.2 block
  have counted := fits.count_pos lanes
  apply free place.2.first fits.inside place.1 pixel
  rw [wordIndex?, fits.address_eq shared threshold (Nat.le_refl _) (by omega), index, same]

end

section

variable {out : String} {before : Session}

theorem verifyListed_unwritten {st : Session} {address value : Int} (style : VerifyStyle)
    (kind : st.bus.kind = .program) (unwritten : st.bus.settings.mainFile = none) (plain : st.bus.outputMemory = none)
    (above : 0 ≤ address) (above' : 0 ≤ value) : (Bus.verifyListed address value style).run st = .ok () st := by
  simp [Bus.verifyListed, Bus.verify, Bus.verifyStatement, kind, unwritten, plain, above, above', Run.check, Run.options]

theorem packLanes_nonneg (four : values.length = 4) : 0 ≤ packLanes values := by
  obtain ⟨w, same, _⟩ := packLanes_bytes four (Nat.le_refl 4) 0
  omega

theorem verify_returns (shared : d.shared = 4) (bytes : l.bits = 8) (used : l.processors ≠ 0)
    (threshold : count l.processors = l.outExpandThresh) (direct : s.interleaved = false) (recorded : s.output = some out)
    (selected : before.device = some d) (stored : l.Stored d s.gap data (before.room out))
    (overwrites : s.overwriteOk = true) (silent : s.notes = none) (unsaved : before.options.resultNumpy = none)
    (kind : before.bus.kind = .program) (unwritten : before.bus.settings.mainFile = none)
    (plain : before.bus.outputMemory = none) : Returns (verify @Bus.verifyListed s l data) before := by
  obtain ⟨bs, found, covers⟩ := blocks_covers shared used threshold
  rw [verify_direct (.inl direct)]
  apply Returns.step (saveResult_unsaved unsaved s data)
  suffices ends : Ends (Quiet before) (fun _ => False) (fun _ => True) (verifyDirect @Bus.verifyListed s l data) by
    obtain ⟨u, after, run, _⟩ := ends.returns (.refl before)
    exact ⟨u, after, run⟩
  refine verifyDirect_ends (fun _ quiet => quiet.device.trans selected) used (by simp [silent]) ?_
  rw [found]
  rintro ⟨n, b⟩ place lanes counted
  refine verifyPixel_ends (absurd (known_of_stored stored place)) ?_ counted
  intro values known w member
  obtain ⟨inside, listed⟩ := mem_places.mp place
  have fits := covers.fits b listed
  have some_channels := fits.count_pos lanes
  obtain ⟨above, below⟩ := stored.words b.first fits.inside n inside
  rw [fits.address_eq shared threshold (Nat.le_refl _) (by omega)] at above below
  simp only [pixelWords, size, bytes, Nat.reduceDiv, if_true, mem_singleton] at member
  subst member
  constructor
  · refine takeWord_ends overwrites (fun _ _ => .trans _ _ _) above fun st name quiet named => ?_
    rw [recorded, Option.some.injEq] at named
    rw [quiet.room, ← named]
    dsimp only
    omega
  · intro st quiet
    rw [verifyListed_unwritten _ (quiet.bus ▸ kind) (quiet.bus ▸ unwritten) (quiet.bus ▸ plain) above
      (packLanes_nonneg (laneValues_some known).1)]
    exact ⟨trivial, quiet⟩

end

/-- The channels are visited in order, and the memory then has the output: each word that no later place takes,
or every word if none may be overwritten, has the bytes of its lanes. -/
theorem verify_image {check : Verifier} {out : String} (shared : d.shared = 4) (bytes : l.bits = 8)
    (threshold : count l.processors = l.outExpandThresh) (steady : ∀ address value style, Steady (check address value style))
    (direct : s.interleaved = false ∨ s.embedded = true) (recorded : s.output = some out) (data : Tensor)
    (before : Session) (selected : before.device = some d) :
    (l.processors = 0 ∧ l.blocks d = .error .value ∨
      ∃ bs, l.blocks d = .ok bs ∧
        (bs.flatMap channels).filter (· < l.shape.channels) = List.range l.shape.channels) ∧
    (∀ after, (verify check s l data).run before ≠ .error .endless after) ∧
    ∀ after, (verify check s l data).run before = .ok () after →
      (∀ c < l.shape.channels, ∀ row < l.shape.height, ∀ column < l.shape.width,
        s.overwriteOk = false ∧ before.options.noErrorStop = false ∨
          ¬l.Retaken d s.gap (before.room out) c (row * l.shape.width + column) →
        ∃ first v : Int,
          (imageWord out (d.dataBase + l.channelAddress d c (row * l.shape.width + column) s.gap)).run after =
            .ok (some (.output s.layer first row column v)) after ∧
          ∀ lane < 4, l.HoldsLane data c row column lane (byte (down v (8 * lane)))) ∧
      ∀ i, (∀ c < l.shape.channels, ∀ n < l.shape.pixels, l.wordIndex? d s.gap (before.room out) c n ≠ some i) →
        (after.used out)[i]? = (before.used out)[i]? := by
  have blocks : l.processors = 0 ∧ l.blocks d = .error .value ∨
      ∃ bs, l.blocks d = .ok bs ∧
        (bs.flatMap channels).filter (· < l.shape.channels) = List.range l.shape.channels := by
    by_cases used : l.processors = 0
    · exact .inl ⟨used, by rw [blocks, if_pos used]⟩
    · obtain ⟨bs, found, covers⟩ := blocks_covers shared used threshold
      exact .inr ⟨bs, found, by rw [covers.visits, List.range_eq_range', Nat.sub_zero]⟩
  refine ⟨blocks, ?_, ?_⟩
  · have ends : Yields (· ≠ .endless) (fun _ => True) (l.blocks d) := by
      rcases blocks with ⟨_, refused⟩ | ⟨bs, found, _⟩
      · simp [refused, Yields]
      · simp [found, Yields]
    intro after failed
    exact (verify_halts steady ends direct).error selected failed rfl
  · intro after run
    refine ⟨?_, fun i free => verify_untouched shared bytes threshold steady direct recorded selected run free⟩
    intro c channel row inside column inside' kept
    exact verify_word shared bytes threshold steady direct recorded selected run channel inside inside' kept

/-- Two processors of different memories, with a gap between them, and a pass that has one channel. -/
def sparseLayout : OutputLayout :=
  { processors := 0x21, shape := ⟨3, 1, 2⟩, outExpand := 2, outExpandThresh := 2 }

def pairLayout : OutputLayout := { processors := 0x11, shape := ⟨2, 1, 2⟩, outExpandThresh := 2 }

def takingSettings (gap : Int) : VerifySettings :=
  { layer := 0, overwriteOk := true, gap, input := "input", output := some "output" }

def emptyMemory : Session :=
  { device := some max78000
    bus := { kind := .program }
    images := Std.HashMap.ofList [("output", { size := 0x400000 })] }

theorem emptyMemory_room : emptyMemory.room "output" = 0x400000 := by
  simp [Session.room, emptyMemory, Std.HashMap.ofList_singleton]

theorem verify_sparse_image :
    ∃ after, (verify @Bus.verifyListed (takingSettings 0) sparseLayout (.ofFn [3, 1, 2] fun k => k - 3)).run emptyMemory =
        .ok () after ∧
      ∀ c < 3, ∀ row < 1, ∀ column < 2, ∃ first v : Int,
        (imageWord "output" (max78000.dataBase +
            sparseLayout.channelAddress max78000 c (row * 2 + column) 0)).run after =
          .ok (some (.output 0 first row column v)) after ∧
        ∀ lane < 4, sparseLayout.HoldsLane (.ofFn [3, 1, 2] fun k => k - 3) c row column lane (byte (down v (8 * lane))) := by
  have recorded : (takingSettings 0).output = some "output" := rfl
  obtain ⟨_, _, words⟩ := verify_image (l := sparseLayout) (d := max78000) rfl rfl (by decide)
    (Stays.verifyListed SameMemory.busFree) (.inl rfl) recorded (.ofFn [3, 1, 2] fun k => k - 3) emptyMemory rfl
  have stored : sparseLayout.Stored max78000 0 (.ofFn [3, 1, 2] fun k => k - 3) (emptyMemory.room "output") := by
    rw [emptyMemory_room]
    exact ⟨by decide, by decide, by decide, by decide⟩
  obtain ⟨_, after, run⟩ := verify_returns (l := sparseLayout) (s := takingSettings 0) rfl rfl (by decide) (by decide) rfl
    rfl rfl stored rfl rfl rfl rfl rfl rfl
  refine ⟨after, run, ?_⟩
  intro c channel row inside column inside'
  refine (words after run).1 c channel row inside column inside' (.inr ?_)
  rw [emptyMemory_room]
  have apart : ∀ c < 3, ∀ row < 1, ∀ column < 2,
      ¬sparseLayout.Retaken max78000 0 0x400000 c (row * 2 + column) := by decide
  exact apart c channel row inside column inside'

/-- With a gap that reaches the next memory, the second pixel of the first channel takes the word of the second one. -/
theorem verify_overwrites :
    ∃ after, (verify @Bus.verifyListed (takingSettings 8191) pairLayout (.ofFn [2, 1, 2] fun k => k + 1)).run emptyMemory =
        .ok () after ∧
      ∃ layer c y x v : Int,
        (imageWord "output" (max78000.dataBase + pairLayout.channelAddress max78000 1 0 8191)).run after =
          .ok (some (.output layer c y x v)) after ∧
        ¬pairLayout.HoldsLane (.ofFn [2, 1, 2] fun k => k + 1) 1 0 0 0 (byte (down v 0)) := by
  have stored : pairLayout.Stored max78000 8191 (.ofFn [2, 1, 2] fun k => k + 1) (emptyMemory.room "output") := by
    rw [emptyMemory_room]
    exact ⟨by decide, by decide, by decide, by decide⟩
  obtain ⟨_, after, run⟩ := verify_returns (l := pairLayout) (s := takingSettings 8191) rfl rfl (by decide) (by decide) rfl
    rfl rfl stored rfl rfl rfl rfl rfl rfl
  have last : ¬pairLayout.Retaken max78000 8191 (emptyMemory.room "output") 0 1 := by
    rw [emptyMemory_room]
    decide
  obtain ⟨first, v, word, lanes⟩ := verify_word (l := pairLayout) (d := max78000) (s := takingSettings 8191)
    rfl rfl (by decide) (Stays.verifyListed SameMemory.busFree) (.inl rfl) rfl rfl run (show 0 < 2 by decide) (show 0 < 1 by decide)
    (show 1 < 2 by decide) (.inr last)
  refine ⟨after, run, 0, first, 0, 1, v, word, ?_⟩
  have here := (lanes 0 (by decide)).1 0 (by decide) rfl rfl
  rw [Nat.mul_zero] at here
  intro wrong
  have there := wrong.1 1 (by decide) rfl rfl
  rw [← here] at there
  exact absurd there (by decide)

end Unload

end CnnForge
