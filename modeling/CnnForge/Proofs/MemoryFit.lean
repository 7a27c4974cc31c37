import CnnForge.Accelerator.Constraints
import CnnForge.Proofs.InputCopies

namespace CnnForge

open Outcome Bits
open List hiding count

variable {l : InputLayout} {d : Device} {data : Tensor} {b b' : InputBlock} {q q' : Nat}

/-- Both devices have memories with room between them, the first one none. -/
def Device.Accelerates (d : Device) : Prop := d = .max78000 ∨ d = .max78002

namespace Device.Accelerates

theorem sharesMemory (accelerates : d.Accelerates) : d.SharesMemory := by
  rcases accelerates with rfl | rfl <;> exact ⟨rfl, rfl, rfl, rfl⟩

def memoryStart (d : Device) (q : Nat) : Int :=
  d.dataBase + d.groupSpacing * (q / 16 : Nat) + d.instanceSize * 16 * (q % 16 / 4 : Nat)

theorem memoryStart_step (accelerates : d.Accelerates) (aligned : q % 4 = 0) (aligned' : q' % 4 = 0) (less : q < q')
    (bound : q' < 64) :
    memoryStart d q + d.instanceSize * 16 ≤ memoryStart d q' ∧
      (memoryStart d q + d.instanceSize * 16 = memoryStart d q' ↔ q' = q + 4 ∧ q % 16 ≠ 12) := by
  rcases accelerates with rfl | rfl
  all_goals
    simp only [memoryStart, max78000, max78002]
    omega

theorem memoryStart_room (accelerates : d.Accelerates) (bound : q < 64) :
    0 ≤ memoryStart d q ∧ memoryStart d q + d.instanceSize * 16 ≤ 4 * (d.groupSpacing * d.groups : Nat) ∧
      memoryStart d q % 4 = 0 ∧ d.instanceWidth ≤ d.instanceSize := by
  rcases accelerates with rfl | rfl
  all_goals
    simp only [memoryStart, max78000, max78002]
    omega

end Device.Accelerates

open Device.Accelerates

/-- One pass from the start of the memories on, of frames that are not larger than a memory. -/
structure InputLayout.FitsMemory (l : InputLayout) (d : Device) (data : Tensor) : Prop extends OnePass l data where
  offset : l.offset = 0
  some_channels : l.shape.channels ≠ 0
  some_pixels : l.shape.pixels ≠ 0
  size : 4 * l.shape.pixels ≤ d.instanceWidth * 16

/-- The frame fills a memory, and so does that of the next memory of the group. -/
def InputLayout.FillsNeighbors (l : InputLayout) (d : Device) : Prop :=
  4 * l.shape.pixels = d.instanceSize * 16 ∧
    ∃ q < 64, q % 4 = 0 ∧ q % 16 ≠ 12 ∧ (l.processors >>> q) % 16 ≠ 0 ∧ (l.processors >>> (q + 4)) % 16 ≠ 0

namespace InputLayout.FitsMemory

variable (fits : l.FitsMemory d data) (accelerates : d.Accelerates)
include fits accelerates

theorem mem_iff : b ∈ l.blocks d ↔ ∃ q, q % 4 = 0 ∧ q < 64 ∧ b = l.blockAt q ∧ b.lanes ≠ 0 := by
  rw [mem_blocks accelerates.sharesMemory fits.map fits.packed fits.some_channels]
  have processors := fits.processors
  constructor
  · rintro ⟨q, aligned, _, rfl, lanes, channel⟩
    refine ⟨q, aligned, Nat.lt_of_not_le fun wide => ?_, rfl, lanes⟩
    have later : 1 * count l.processors ≤ q / 64 * count l.processors := Nat.mul_le_mul_right _ (by omega)
    simp only [blockAt, firstAt] at channel
    omega
  · rintro ⟨q, aligned, bound, rfl, lanes⟩
    refine ⟨q, aligned, by omega, rfl, lanes, ?_⟩
    obtain ⟨lane, set⟩ := Nat.exists_testBit_of_ne_zero lanes
    have less : lane < 4 := by
      have below := Nat.lt_of_le_of_lt (Nat.ge_two_pow_of_testBit set) (Nat.mod_lt _ (show 16 > 0 by decide))
      exact (Nat.pow_lt_pow_iff_right (show 1 < 2 by decide)).mp below
    obtain ⟨own, rank⟩ := OnePass.lane_eq (l := l) bound less
    have channel := countBelow_lt_count (own.symm.trans set)
    omega

theorem used (member : b ∈ l.blocks d) : l.Used b := by
  obtain ⟨_, _, _, _, used⟩ := (mem_blocks accelerates.sharesMemory fits.map fits.packed fits.some_channels).mp member
  exact used

theorem start_eq (member : b ∈ l.blocks d) : ∃ q, q % 4 = 0 ∧ q < 64 ∧ b = l.blockAt q ∧
    (l.processors >>> q) % 16 ≠ 0 ∧ l.start d b = memoryStart d q ∧
      l.packedEnd d b = memoryStart d q + 4 * l.shape.pixels := by
  obtain ⟨q, aligned, bound, rfl, lanes⟩ := (fits.mem_iff accelerates).mp member
  have small : q % 64 = q := Nat.mod_eq_of_lt bound
  have start : l.start d (l.blockAt q) = memoryStart d q := by
    have shares := accelerates.sharesMemory
    simp only [InputLayout.start, fits.pass_eq (fits.used accelerates member), shares.processors, shares.group,
      shares.shared, fits.offset,
      fits.operands, memoryStart]
    simp [blockAt, small]
  refine ⟨q, aligned, bound, rfl, by simpa [blockAt, small] using lanes, start, ?_⟩
  simp [packedEnd, start, fits.passes, fits.operands]

theorem inside (member : b ∈ l.blocks d) :
    0 ≤ l.start d b ∧ l.packedEnd d b ≤ 4 * (d.groupSpacing * d.groups : Nat) ∧ l.start d b % 4 = 0 := by
  obtain ⟨q, _, bound, _, _, start, stop⟩ := fits.start_eq accelerates member
  obtain ⟨low, high, word, narrow⟩ := accelerates.memoryStart_room bound
  have size := fits.size
  rw [start, stop]
  omega

theorem apart (member : b ∈ l.blocks d) (member' : b' ∈ l.blocks d) (less : b.position < b'.position) :
    l.start d b + d.instanceSize * 16 ≤ l.start d b' := by
  obtain ⟨q, aligned, bound, rfl, _, start, _⟩ := fits.start_eq accelerates member
  obtain ⟨q', aligned', bound', rfl, _, start', _⟩ := fits.start_eq accelerates member'
  rw [start, start']
  exact (accelerates.memoryStart_step aligned aligned' less bound').1

theorem end_ne_start (room : ¬l.FillsNeighbors d) (member : b ∈ l.blocks d) (member' : b' ∈ l.blocks d) :
    l.packedEnd d b ≠ l.start d b' := by
  obtain ⟨q, aligned, bound, rfl, used, start, stop⟩ := fits.start_eq accelerates member
  obtain ⟨q', aligned', bound', rfl, used', start', _⟩ := fits.start_eq accelerates member'
  have narrow := (accelerates.memoryStart_room bound).2.2.2
  have size := fits.size
  have pixels := fits.some_pixels
  rw [stop, start']
  intro same
  rcases Nat.lt_trichotomy q q' with less | rfl | more
  · obtain ⟨step, next⟩ := accelerates.memoryStart_step aligned aligned' less bound'
    obtain ⟨rfl, group⟩ := next.mp (by omega)
    exact room ⟨by omega, q, bound, aligned, group, used, used'⟩
  · omega
  · have step := (accelerates.memoryStart_step aligned' aligned more bound).1
    omega

theorem places_nodup {room : Nat} (whole : room = d.groupSpacing * d.groups) :
    (((l.blocks d).flatMap (DataMemory.blockRecords l d room data)).map Prod.fst).Nodup := by
  have place : ∀ b ∈ l.blocks d, ∀ j < l.shape.pixels,
      (position? room (Bits.down (l.word d data b j).address 2)).getD 0 = (l.start d b / 4).toNat + j := by
    intro b member j inside
    obtain ⟨low, high, word⟩ := fits.inside accelerates member
    simp only [packedEnd, fits.passes, fits.operands] at high
    have index : Bits.down (l.word d data b j).address 2 = ((l.start d b / 4).toNat + j : Nat) := by
      rw [Bits.down, Int.shiftRight_eq_div_pow]
      simp only [InputLayout.word, fits.operands, fits.passes, Nat.div_one, Nat.mod_one]
      omega
    rw [index, position?_natCast (by omega), Option.getD_some]
  have places : ((l.blocks d).flatMap (DataMemory.blockRecords l d room data)).map Prod.fst =
      (l.blocks d).flatMap fun b => (range l.shape.pixels).map ((l.start d b / 4).toNat + ·) := by
    rw [map_flatMap]
    refine flatMap_congr fun b member => ?_
    rw [DataMemory.blockRecords, packedWords_eq, fits.operands, Nat.mul_one, map_map, map_map]
    refine map_congr_left fun j listed => place b member j (mem_range.mp listed)
  rw [places, nodup_flatMap]
  constructor
  · intro b _
    exact (nodup_range).map (fun _ _ same => by omega)
  · refine (blocks_ordered accelerates.sharesMemory fits.map fits.packed fits.some_channels).imp_of_mem ?_
    intro b b' member member' less x own other
    obtain ⟨j, listed, rfl⟩ := mem_map.mp own
    obtain ⟨j', _, same⟩ := mem_map.mp other
    have bound := mem_range.mp listed
    have step := fits.apart accelerates member member' less
    obtain ⟨low, _, word⟩ := fits.inside accelerates member
    have narrow := (accelerates.memoryStart_room (show 0 < 64 by decide)).2.2.2
    have size := fits.size
    omega

theorem neighbors (full : l.FillsNeighbors d) :
    ∃ seen b b' rest, l.blocks d = seen ++ b :: b' :: rest ∧ l.packedEnd d b = l.start d b' := by
  obtain ⟨filled, q, bound, aligned, group, lanes, lanes'⟩ := full
  have here : ∀ p < 64, p % 4 = 0 → (l.processors >>> p) % 16 ≠ 0 → l.blockAt p ∈ l.blocks d :=
    fun p small aligned lanes =>
    (fits.mem_iff accelerates).mpr ⟨p, aligned, small, rfl, by simpa [blockAt, Nat.mod_eq_of_lt small] using lanes⟩
  have member := here q bound aligned lanes
  have member' := here (q + 4) (by omega) (by omega) lanes'
  obtain ⟨p, _, _, same, _, _, stop⟩ := fits.start_eq accelerates member
  obtain ⟨p', _, bound', same', _, start', _⟩ := fits.start_eq accelerates member'
  obtain rfl : q = p := congrArg InputBlock.position same
  obtain rfl : q + 4 = p' := congrArg InputBlock.position same'
  have next := (accelerates.memoryStart_step aligned (by omega) (by omega) bound').2.mpr ⟨rfl, group⟩
  have split : range' 0 256 = range' 0 (q / 4) ++ (q / 4) :: (q / 4 + 1) :: range' (q / 4 + 2) (254 - q / 4) := by
    have parts : range' 0 (q / 4) ++ range' (0 + q / 4) (254 - q / 4 + 1 + 1) =
      range' 0 (q / 4 + (254 - q / 4 + 1 + 1)) :=
      range'_append_1
    rw [show q / 4 + (254 - q / 4 + 1 + 1) = 256 by omega, Nat.zero_add] at parts
    exact parts.symm
  have places : q / 4 * 4 = q ∧ (q / 4 + 1) * 4 = q + 4 := by omega
  rw [blocks_eq accelerates.sharesMemory fits.map fits.packed fits.some_channels, split,
    map_append, filter_append, map_cons,
    map_cons, places.1, places.2, filter_cons_of_pos (by simpa using fits.used accelerates member),
    filter_cons_of_pos (by simpa using fits.used accelerates member')]
  exact ⟨_, _, _, _, rfl, by rw [stop, start']; omega⟩

end InputLayout.FitsMemory

namespace DataMemory

open Accelerator InputLayout

variable {w : Setup} {main header : Sink} {before : Session} {E : Prop} {embedded : Bool} {α β : Type}
  {records : List (Nat × Mark)}

theorem accepts_of_fits (fits : l.FitsMemory w.device data) (accelerates : w.device.Accelerates)
    (given : w.options.fixedInput = false) (room : w.room = w.device.groupSpacing * w.device.groups)
    (free : ¬l.FillsNeighbors w.device) : Accepts w l data where
  given := given
  threshold := by
    have threshold := fits.threshold
    have some_channels := fits.some_channels
    omega
  channels := fits.some_channels
  operands := by
    have channels : data.dim 0 = l.shape.channels := by simp [Tensor.dim, fits.shape]
    rw [fits.operands, channels, Nat.div_self (Nat.pos_of_ne_zero fits.some_channels)]
  words := fun b member => by
    obtain ⟨low, high, _⟩ := fits.inside accelerates member
    exact fits_of_room fits.toOnePass low (by rwa [room])
  apart := fun b member b' member' => fits.end_ne_start accelerates free member member'

theorem run_step {x : Run α} {f : α → Run β} {a : α} {s middle : Session} (ran : x.run s = .ok a middle) :
    (x >>= f).run s = (f a).run middle := by
  rw [EStateM.run_bind, ran]

theorem loadBlock_exits {s : Loading} (writing : Writing w before) (threshold : l.inExpandThresh ≠ 0)
    (follows : s.last = some (l.start w.device b)) :
    ∃ after, (loadBlock embedded l data s b).run before = .error (.exit 1) after := by
  unfold loadBlock
  rw [run_step (Run.device_ok.mpr ⟨writing.device, rfl⟩), if_neg threshold, if_pos follows, EStateM.run_bind]
  obtain ⟨after, stopped⟩ := Run.stop_run
    ("Layer 0 processor map is misconfigured for data input. There is data overlap between "
      ++ s!"processors {(b.position : Int) - 1} and {b.position}") before
  rw [stopped]
  exact ⟨after, rfl⟩

section

variable (into : Embeds w main header) (library : w.settings.apiFile = none) (memory : w.options.fifo = false)
  (fits : l.FitsMemory w.device data) (accelerates : w.device.Accelerates)
  (regular : embedded = true → count l.processors = l.inExpandThresh)
  (room : w.room = w.device.groupSpacing * w.device.groups)
include into library fits accelerates regular room

theorem loadPacked_states :
    ∃ (text : InputBlock → String) (state : List InputBlock → Loading), state [] = {} ∧
      (∀ seen, (state seen).last = seen.getLast?.map (l.packedEnd w.device)) ∧
      ∀ seen b rest, l.blocks w.device = seen ++ b :: rest →
        Loads False w (text b) (blockRecords l w.device w.room data b) (· = state (seen ++ [b]))
          (loadPacked embedded l data b (state seen)) := by
  have words : ∀ seen b rest, l.blocks w.device = seen ++ b :: rest →
      ∀ x ∈ l.packedWords w.device data b, ¬Fits w.room x → False := by
    intro seen b rest whole x listed wrong
    obtain ⟨low, high, _⟩ := fits.inside accelerates (show b ∈ l.blocks w.device by simp [whole])
    exact wrong (fits_of_room fits.toOnePass low (by rwa [room]) x listed)
  cases embedded with
  | true =>
    have folded : l.Folded w.device :=
      ⟨⟨fits.packed, fits.map, regular rfl⟩, accelerates.sharesMemory, fits.some_channels⟩
    exact ⟨_, Loads.loading l w.device data, rfl, fun _ => rfl, fun seen b rest whole =>
      Loads.loadPacked_embedded into folded whole (words seen b rest whole)⟩
  | false =>
    have single : Bus.librarySink w.settings = some main := by rw [Bus.librarySink, library, into.file]; rfl
    refine ⟨?text, fun seen => { last := seen.getLast?.map (l.packedEnd w.device) }, rfl,
      fun _ => rfl, fun seen b rest whole => ?step⟩
    case step =>
      beta_reduce
      rw [getLast?_append]
      exact Loads.loadPacked_single into.file single into.apart (words seen b rest whole) _

theorem foldlM_exits (writing : Writing w before)
    (free : Free ((l.blocks w.device).flatMap (blockRecords l w.device w.room data)) before.bus.image.words)
    (full : l.FillsNeighbors w.device) :
    ∃ after, ((l.blocks w.device).foldlM (loadBlock embedded l data) {}).run before = .error (.exit 1) after := by
  obtain ⟨text, state, start, ends, step⟩ := loadPacked_states into library fits accelerates regular room
  obtain ⟨first, b, b', post, whole, follows⟩ := fits.neighbors accelerates full
  have threshold : l.inExpandThresh ≠ 0 := by
    have threshold := fits.threshold
    have some_channels := fits.some_channels
    omega
  -- Up to the second of the two blocks, a block is loaded or stops the run too.
  have all : ∀ mid seen before, l.blocks w.device = seen ++ (mid ++ b' :: post) →
      (state (seen ++ mid)).last = some (l.start w.device b') → Writing w before →
      Free ((mid ++ b' :: post).flatMap (blockRecords l w.device w.room data)) before.bus.image.words →
      ∃ after, ((mid ++ b' :: post).foldlM (loadBlock embedded l data) (state seen)).run before =
        .error (.exit 1) after := by
    intro mid
    induction mid with
    | nil =>
      intro seen before _ last writing _
      rw [append_nil] at last
      have exits : ∃ after, (loadBlock embedded l data (state seen) b').run before = .error (.exit 1) after :=
        loadBlock_exits writing threshold last
      obtain ⟨after, stopped⟩ := exits
      rw [nil_append, foldlM_cons, EStateM.run_bind, stopped]
      exact ⟨after, rfl⟩
    | cons a mid ih =>
      intro seen before parts last writing free
      rw [cons_append, foldlM_cons, EStateM.run_bind]
      by_cases stops : (state seen).last = some (l.start w.device a)
      · have exits : ∃ after, (loadBlock embedded l data (state seen) a).run before = .error (.exit 1) after :=
          loadBlock_exits writing threshold stops
        obtain ⟨after, stopped⟩ := exits
        rw [stopped]
        exact ⟨after, rfl⟩
      · rw [cons_append, flatMap_cons, free_append] at free
        have loads := Loads.loadBlock fits.packed threshold stops (step seen a _ parts)
        obtain ⟨s, middle, run⟩ := loads.returns writing fun _ => free.1
        obtain ⟨writing', _, taken, same⟩ := (loads before writing).2 s middle run
        rw [run, same]
        refine ih (seen ++ [a]) middle (by simp [parts]) (by simpa using last) writing' ?_
        rw [taken.words]
        exact free.2
  have found := all (first ++ [b]) [] before (by simp [whole]) (by rw [nil_append, ends]; simp [follows])
    writing (by simpa [whole] using free)
  rw [start] at found
  simpa [whole] using found

include memory in
theorem load_exits (writing : Writing w before) (fresh : ∀ i : Nat, before.bus.image.words[i]? = none)
    (full : l.FillsNeighbors w.device) : ∃ after, (load embedded l data).run before = .error (.exit 1) after := by
  have free : Free ((l.blocks w.device).flatMap (blockRecords l w.device w.room data)) before.bus.image.words :=
    ⟨fits.places_nodup accelerates room, fun r _ => fresh r.1⟩
  have blocks : ∀ middle, Writing w middle → middle.bus.image.words = before.bus.image.words →
      ∃ after, (loadBlocks embedded w.device w.options l data).run middle = .error (.exit 1) after := by
    intro middle writing same
    obtain ⟨after, stopped⟩ := foldlM_exits into library fits accelerates regular room writing (same ▸ free) full
    have operands : l.operands = data.dim 0 / l.shape.channels := by
      have channels : data.dim 0 = l.shape.channels := by simp [Tensor.dim, fits.shape]
      rw [fits.operands, channels, Nat.div_self (Nat.pos_of_ne_zero fits.some_channels)]
    refine ⟨after, ?_⟩
    unfold loadBlocks
    rw [if_neg fits.some_channels, Run.check, if_pos (decide_eq_true operands), pure_bind, EStateM.run_bind, stopped]
  have announced : ∀ middle, Writing w middle → middle.bus.image.words = before.bus.image.words →
      ∃ after, (announce l.shape >>= fun _ => loadBlocks embedded w.device w.options l data).run middle =
        .error (.exit 1) after := by
    intro middle writing same
    have loads := Loads.announce (E := False) into.file into.apart l.shape
    obtain ⟨_, next, run⟩ := loads.returns writing fun _ => ⟨nodup_nil, by simp⟩
    obtain ⟨writing', _, taken, _⟩ := (loads middle writing).2 _ next run
    rw [run_step run]
    exact blocks next writing' (taken.words.trans same)
  unfold load
  rw [run_step (Run.options_ok.mpr ⟨writing.options, rfl⟩), into.given, Bool.false_and,
    if_neg Bool.false_ne_true, memory,
    if_neg Bool.false_ne_true]
  unfold loadMemory
  rw [run_step (Run.device_ok.mpr ⟨writing.device, rfl⟩), run_step (Run.options_ok.mpr ⟨writing.options, rfl⟩)]
  cases embedded with
  | true => exact announced before writing rfl
  | false =>
    have loads := Loads.output (E := False) into.file into.apart "\n\n  "
    obtain ⟨_, next, run⟩ := loads.returns writing fun _ => ⟨nodup_nil, by simp⟩
    obtain ⟨writing', _, taken, _⟩ := (loads before writing).2 _ next run
    show ∃ after, (Bus.output "\n\n  " >>= fun _ => announce l.shape >>= fun _ =>
      loadBlocks false w.device w.options l data).run before = _
    rw [run_step run]
    exact announced next writing' taken.words

include memory in
theorem load_returns (writing : Writing w before) (fresh : ∀ i : Nat, before.bus.image.words[i]? = none)
    (free : ¬l.FillsNeighbors w.device) :
    ∃ after, (load embedded l data).run before = .ok () after := by
  have accepts := accepts_of_fits fits accelerates into.given room free
  have records : Free ((l.blocks w.device).flatMap (blockRecords l w.device w.room data)) before.bus.image.words :=
    ⟨fits.places_nodup accelerates room, fun r _ => fresh r.1⟩
  cases embedded with
  | true =>
    have loads : Loads False w _ _ _ (load true l data) :=
      Loads.load_embedded into accelerates.sharesMemory ⟨fits.packed, fits.map, regular rfl⟩ memory
        fun refused => refused accepts
    obtain ⟨_, after, run⟩ := loads.returns writing fun _ => records
    exact ⟨after, run⟩
  | false =>
    have single : Bus.librarySink w.settings = some main := by rw [Bus.librarySink, library, into.file]; rfl
    have loads : Loads False w _ _ _ (load false l data) :=
      Loads.load_single into.file single into.apart fits.packed memory fun refused => refused accepts
    obtain ⟨_, after, run⟩ := loads.returns writing fun _ => records
    exact ⟨after, run⟩

end

/-- The check of the input size of a planned layer with the same frame. -/
structure Planned (l : InputLayout) (p : PlannedLayer) : Prop where
  size : p.inputSize = ⟨l.shape.height, l.shape.width⟩
  passes : p.inExpand = l.inExpand
  operands : p.operands = l.operands
  bigData : p.bigData = l.planar
  offset : p.inOffset = l.offset
  plain : p.streaming = false

theorem pixels_le_of_checkMemory {p : PlannedLayer} (planned : Planned l p) (one : l.OnePass data)
    (start : l.offset = 0)
    {terminating i : Nat} {warnings warnings' : List String}
    (checked : (Accelerator.checkMemory d terminating i p).run warnings = .ok () warnings') :
    4 * l.shape.pixels ≤ d.instanceWidth * 16 := by
  obtain ⟨_, _, _, rest⟩ := bind_ok.mp checked
  obtain ⟨_, _, bounded, _⟩ := bind_ok.mp rest
  simp only [Accelerator.inputBytes, Accelerator.memoryBytes, planned.plain, planned.size, planned.passes,
    planned.operands,
    planned.bigData, planned.offset, one.packed, one.passes, one.operands,
    start, Checked.refuseIf, Pair.product] at bounded
  by_contra wide
  rw [DataShape.pixels] at wide
  rw [if_pos (by simp; omega)] at bounded
  cases bounded

/-- An input that passes the check of its size is loaded, unless its frames fill two memories that follow each other:
then the end of the first one is taken for an overlap. All words of a block are in a memory of its own. -/
theorem load_returns_iff_spaced (into : Embeds w main header) (library : w.settings.apiFile = none)
    (memory : w.options.fifo = false) (accelerates : w.device.Accelerates) (one : l.OnePass data)
    (offset : l.offset = 0)
    (some_channels : l.shape.channels ≠ 0) (some_pixels : l.shape.pixels ≠ 0)
    (regular : embedded = true → count l.processors = l.inExpandThresh) {p : PlannedLayer} (planned : Planned l p)
    {terminating i : Nat} {warnings warnings' : List String}
    (checked : (Accelerator.checkMemory w.device terminating i p).run warnings = .ok () warnings')
    (writing : Writing w before) (fresh : ∀ i : Nat, before.bus.image.words[i]? = none)
    (room : w.room = w.device.groupSpacing * w.device.groups) :
    ((∃ after, (load embedded l data).run before = .ok () after) ↔ ¬l.FillsNeighbors w.device) ∧
    ((∃ after, (load embedded l data).run before = .error (.exit 1) after) ↔ l.FillsNeighbors w.device) ∧
    (∀ b ∈ l.blocks w.device, l.start w.device b = memoryStart w.device b.position ∧
      ∀ x ∈ l.packedWords w.device data b, l.start w.device b ≤ x.address ∧
        x.address + 4 ≤ l.start w.device b + w.device.instanceWidth * 16) ∧
    (l.blocks w.device).Pairwise fun b b' =>
      l.start w.device b + w.device.instanceWidth * 16 ≤ l.start w.device b' := by
  have size := pixels_le_of_checkMemory planned one offset checked
  have fits : l.FitsMemory w.device data := ⟨one, offset, some_channels, some_pixels, size⟩
  have returns := load_returns into library memory fits accelerates regular room writing fresh
  have exits := load_exits into library memory fits accelerates regular room writing fresh
  refine ⟨⟨?_, returns⟩, ⟨?_, exits⟩, ?_, ?_⟩
  · rintro ⟨after, run⟩ full
    obtain ⟨_, stopped⟩ := exits full
    cases run.symm.trans stopped
  · rintro ⟨after, stopped⟩
    by_contra free
    obtain ⟨_, run⟩ := returns free
    cases run.symm.trans stopped
  · intro b member
    obtain ⟨q, _, _, rfl, _, start, _⟩ := fits.start_eq accelerates member
    refine ⟨start, fun x listed => ?_⟩
    rw [packedWords_eq, one.operands, Nat.mul_one] at listed
    obtain ⟨j, inside, rfl⟩ := mem_map.mp listed
    have bound := mem_range.mp inside
    simp only [InputLayout.word, one.operands, one.passes, Nat.div_one, Nat.mod_one]
    omega
  · refine (blocks_ordered accelerates.sharesMemory one.map one.packed some_channels).imp_of_mem ?_
    intro b b' member member' less
    have step := fits.apart accelerates member member' less
    have narrow := (accelerates.memoryStart_room (show 0 < 64 by decide)).2.2.2
    omega

def twoFrames (columns : Nat) : InputLayout := { processors := 0x11, shape := ⟨2, 64, columns⟩, inExpandThresh := 2 }

def plannedFrames (columns : Nat) : PlannedLayer := { processors := 0x11, inputSize := ⟨64, columns⟩, inExpand := 1 }

theorem inputSession_embeds : Embeds (inputSetup false (.stream "program")) (.stream "program") (.stream "samples") :=
  ⟨rfl, rfl, .inl rfl, .inr (by decide), by decide, rfl, rfl⟩

theorem load_almost_full :
    ∃ after, (load true (twoFrames 127) (.full [2, 64, 127] 5)).run (inputSession false) = .ok () after := by
  have planned : Planned (twoFrames 127) (plannedFrames 127) := ⟨rfl, rfl, rfl, rfl, rfl, rfl⟩
  have checked : (Accelerator.checkMemory .max78000 0 0 (plannedFrames 127)).run [] = .ok () [] := rfl
  refine (load_returns_iff_spaced inputSession_embeds rfl rfl (.inl rfl)
    ⟨rfl, rfl, rfl, by decide, by decide, by decide, rfl⟩ rfl (by decide) (by decide) (fun _ => by decide)
      planned checked
    (inputSession_writing false "program") (fun _ => by simp [inputSession]) rfl).1.mpr ?_
  exact fun full => absurd full.1 (by decide)

/-- Full memories pass the check of their size, and loading stops. -/
theorem load_refuses_full :
    (Accelerator.checkMemory .max78000 0 0 (plannedFrames 128)).run [] = .ok () [] ∧
      ∃ after, (load false (twoFrames 128) (.full [2, 64, 128] 5)).run (inputSession false) =
        .error (.exit 1) after := by
  have fits : (twoFrames 128).FitsMemory .max78000 (.full [2, 64, 128] 5) :=
    ⟨⟨rfl, rfl, rfl, by decide, by decide, by decide, rfl⟩, rfl, by decide, by decide, by decide⟩
  exact ⟨rfl, load_exits inputSession_embeds rfl rfl fits (.inl rfl) (fun never => (by cases never)) rfl
    (inputSession_writing false "program") (fun _ => by simp [inputSession])
    ⟨by decide, 0, by decide, by decide, by decide, by decide, by decide⟩⟩

end DataMemory

end CnnForge
