import CnnForge.Proofs.InputLoading

namespace CnnForge

open Outcome Bits Accelerator
open List hiding count

variable {d : Device} {room : Nat} {base : Int} {b : InputBlock}

/-- One operand in one pass: every channel of the input has a processor of its own. -/
structure InputLayout.OnePass (l : InputLayout) (data : Tensor) : Prop where
  packed : l.planar = false
  passes : l.inExpand = 1
  operands : l.operands = 1
  map : l.processors < 1 <<< 64
  processors : count l.processors = l.shape.channels
  threshold : l.shape.channels ≤ l.inExpandThresh
  shape : data.shape = [l.shape.channels, l.shape.height, l.shape.width]

namespace InputLayout

variable {l : InputLayout} {d : Device} {data : Tensor} {b : InputBlock} {c p row column : Nat}

def pixelAddress (l : InputLayout) (d : Device) (p n : Nat) : Int :=
  d.dataBase + d.groupSpacing * (p / 16 : Nat) + d.instanceSize * 16 * (p % 16 / 4 : Nat) + l.offset + 4 * n

namespace OnePass

def laneValue (l : InputLayout) (data : Tensor) (b : InputBlock) (row column lane : Nat) : Int :=
  let c := b.first + countBelow b.lanes lane
  if b.lanes.testBit lane = true ∧ c < l.shape.channels then data.get3 c row column else 0

theorem packedValue_eq (one : OnePass l data) (inside : row < l.shape.height) (inside' : column < l.shape.width) :
    l.packedValue data b row column 0 = some (Unload.packLanes ((range 4).map (laneValue l data b row column))) := by
  have dims : data.dim 0 = l.shape.channels ∧ data.dim 1 = l.shape.height ∧ data.dim 2 = l.shape.width := by
    simp [Tensor.dim, one.shape]
  have each : l.laneElement data b row column 0 = fun lane => some (laneValue l data b row column lane) := by
    funext lane
    rw [laneElement, laneValue, one.operands, Nat.div_one, dims.1, Nat.zero_mul, Nat.add_zero]
    split
    · rename_i used
      rw [element?, if_pos ⟨by rw [dims.1]; exact used.2, by rw [dims.2.1]; exact inside, by rw [dims.2.2]; exact inside'⟩]
    · rfl
  rw [InputLayout.packedValue_eq, each]
  rfl

theorem pass_eq (one : OnePass l data) (used : l.Used b) : l.pass b = 0 :=
  Nat.div_eq_of_lt (Nat.lt_of_lt_of_le used.2 one.threshold)

theorem lt_of_testBit (one : OnePass l data) (used : l.processors.testBit p = true) : p < 64 := by
  have below := Nat.lt_of_le_of_lt (Nat.ge_two_pow_of_testBit used) one.map
  rw [Nat.one_shiftLeft] at below
  exact (Nat.pow_lt_pow_iff_right (by decide)).mp below

theorem lane_eq {q lane : Nat} (small : q < 64) (bound : lane < 4) :
    (l.blockAt q).lanes.testBit lane = l.processors.testBit (q + lane) ∧
      (l.blockAt q).first + countBelow (l.blockAt q).lanes lane = countBelow l.processors (q + lane) := by
  have lanes : (l.blockAt q).lanes = (l.processors >>> q) % 2 ^ 4 :=
    congrArg (fun n => (l.processors >>> n) % 16) (Nat.mod_eq_of_lt small)
  have first : (l.blockAt q).first = countBelow l.processors q := by
    rw [blockAt, firstAt, Nat.mod_eq_of_lt small, Nat.div_eq_of_lt small, Nat.zero_mul, Nat.zero_add]
  rw [lanes, first, Nat.testBit_mod_two_pow, Nat.testBit_shiftRight, countBelow_mod _ _ _ (by omega), ← countBelow_add]
  simp [bound]

theorem used_block (one : OnePass l data) (used : l.processors.testBit p = true) : l.Used (l.blockAt (p / 4 * 4)) := by
  have small := one.lt_of_testBit used
  have channel := countBelow_lt_count used
  rw [one.processors] at channel
  obtain ⟨set, rank⟩ := lane_eq (l := l) (show p / 4 * 4 < 64 by omega) (show p % 4 < 4 by omega)
  rw [show p / 4 * 4 + p % 4 = p from by omega] at set rank
  exact ⟨ne_zero_of_testBit (set.trans used), by omega⟩

variable (one : OnePass l data) (shares : d.SharesMemory) (used : l.processors.testBit p = true)
include one shares used

theorem block_mem :
    l.blockAt (p / 4 * 4) ∈ l.blocks d := by
  have small := one.lt_of_testBit used
  have here := one.used_block used
  have some_channels := here.2
  exact (mem_blocks shares one.map one.packed (by omega)).mpr ⟨p / 4 * 4, by omega, by omega, rfl, here⟩

theorem word_address (n : Nat) :
    (l.word d data (l.blockAt (p / 4 * 4)) n).address = l.pixelAddress d p n := by
  have small := one.lt_of_testBit used
  have pass := one.pass_eq (one.used_block used)
  have group : (l.blockAt (p / 4 * 4)).position % 64 / 16 = p / 16 := by
    show p / 4 * 4 % 64 / 16 = p / 16
    omega
  have memory : (l.blockAt (p / 4 * 4)).position % 16 / 4 = p % 16 / 4 := by
    show p / 4 * 4 % 16 / 4 = p % 16 / 4
    omega
  simp only [word, start, shares.processors, shares.group, shares.shared, group, memory, pass, one.operands, one.passes,
    pixelAddress]
  simp

end OnePass

end InputLayout

namespace DataMemory

open InputLayout

variable {w : Setup} {l : InputLayout} {data : Tensor} {before after : Session}

theorem stores_once {words words' : Std.HashMap Nat Mark} (blocks : List InputBlock) (d : Device) (base : Int)
    {refuses : Prop} (taken : Taken refuses (blocks.flatMap (blockRecords l d room data)) words words')
    (holds : refuses) : ((blocks.flatMap (blockStores l d base data)).map (·.address)).Nodup := by
  have places : (blocks.flatMap (blockRecords l d room data)).map Prod.fst =
      ((blocks.flatMap (blockStores l d base data)).map (·.address)).map fun a =>
        (position? room (Bits.down (a - base) 2)).getD 0 := by
    simp only [map_flatMap, blockRecords, blockStores, map_map, Function.comp_def, recordOf, Int.add_sub_cancel]
  have once := (taken.fresh holds).1
  rw [places] at once
  exact once.of_map

theorem mem_addresses {j : Nat} (bound : j < l.shape.pixels * l.operands) :
    (l.word d data b j).address + base ∈ (blockStores l d base data b).map (·.address) := by
  rw [blockStores, packedWords_eq, map_map, map_map]
  exact mem_map.mpr ⟨j, mem_range.mpr bound, rfl⟩

theorem execute_pixel (one : l.OnePass data) {d : Device} (shares : d.SharesMemory) {base : Int}
    (once : (((l.blocks d).flatMap (blockStores l d base data)).map (·.address)).Nodup) {c p row column : Nat}
    (listed : (positions l.processors)[c]? = some p) (inside : row < l.shape.height) (inside' : column < l.shape.width)
    (file : RegisterFile) :
    let word := execute ((l.blocks d).flatMap (blockStores l d base data)) file
      (l.pixelAddress d p (row * l.shape.width + column) + base)
    byte (down word (8 * (p % 4))) = byte (data.get3 c row column) ∧
      ∀ lane < 4, l.processors.testBit (p / 4 * 4 + lane) = false → byte (down word (8 * lane)) = 0 := by
  obtain ⟨_, used, rank⟩ := of_getElem?_filter_testBit listed
  have small := one.lt_of_testBit used
  have channel := countBelow_lt_count used
  rw [one.processors, rank] at channel
  let b := l.blockAt (p / 4 * 4)
  let values := (range 4).map (OnePass.laneValue l data b row column)
  -- The word of the pixel in the block of the processor.
  have parts : (row * l.shape.width + column) / l.shape.width = row ∧
      (row * l.shape.width + column) % l.shape.width = column := by
    rw [Nat.mul_comm, Nat.mul_add_div (by omega), Nat.mul_add_mod, Nat.div_eq_of_lt inside', Nat.mod_eq_of_lt inside']
    exact ⟨rfl, rfl⟩
  have value : (l.word d data b (row * l.shape.width + column)).value = some (Unload.packLanes values) := by
    simp only [InputLayout.word, one.operands, Nat.div_one, Nat.mod_one, parts]
    exact one.packedValue_eq inside inside'
  have stored : (⟨l.pixelAddress d p (row * l.shape.width + column) + base, Unload.packLanes values, ""⟩ : Store) ∈
      (l.blocks d).flatMap (blockStores l d base data) := by
    have pixel : row * l.shape.width + column < l.shape.pixels * l.operands := by
      have rows : (row + 1) * l.shape.width ≤ l.shape.height * l.shape.width := Nat.mul_le_mul_right _ inside
      rw [Nat.add_mul] at rows
      rw [one.operands, Nat.mul_one, DataShape.pixels]
      omega
    refine mem_flatMap.mpr ⟨b, one.block_mem shares used, ?_⟩
    rw [blockStores, packedWords_eq, map_map]
    refine mem_map.mpr ⟨_, mem_range.mpr pixel, ?_⟩
    rw [Function.comp_apply, one.word_address shares used, value, Option.getD_some]
  have four : values.length = 4 := rfl
  obtain ⟨v, known, fits, _⟩ := Unload.packLanes_bytes four (Nat.le_refl 4) 0
  have word : execute ((l.blocks d).flatMap (blockStores l d base data)) file
      (l.pixelAddress d p (row * l.shape.width + column) + base) = Unload.packLanes values := by
    refine execute_agree ⟨_, stored, rfl⟩ (fun s listed same => ?_) (by omega) (by omega) file
    rw [inj_on_of_nodup_map once listed stored same]
  have lanes : ∀ lane < 4, byte (down (Unload.packLanes values) (8 * lane)) =
      byte (if l.processors.testBit (p / 4 * 4 + lane) = true ∧ countBelow l.processors (p / 4 * 4 + lane) < l.shape.channels
        then data.get3 (countBelow l.processors (p / 4 * 4 + lane)) row column else 0) := by
    intro lane bound
    obtain ⟨set, channel⟩ := OnePass.lane_eq (l := l) (show p / 4 * 4 < 64 by omega) bound
    rw [Unload.packLanes_lane rfl bound, getD_eq_getElem?_getD, getElem?_map, getElem?_range bound,
      Option.map_some, Option.getD_some, OnePass.laneValue, set, channel]
  simp only [word]
  constructor
  · rw [lanes _ (by omega), show p / 4 * 4 + p % 4 = p from by omega, rank, if_pos ⟨used, channel⟩]
  · intro lane bound idle
    rw [lanes lane bound, idle]
    rfl

/-- Unless overwriting is allowed, single stores write no word twice, and the input is found in what they leave behind. -/
theorem load_decodes (one : l.OnePass data) (shares : w.device.SharesMemory) (writing : Writing w before)
    (file : w.settings.mainFile = some w.sink) (library : w.settings.apiFile = none) (memory : w.options.fifo = false)
    (stops : w.options.noErrorStop = false) (run : (load false l data).run before = .ok () after) :
    let stores := (l.blocks w.device).flatMap (blockStores l w.device w.options.apbBase data)
    after.text w.sink = before.text w.sink ++
      singleText l w.device w.options.apbBase w.settings.verifyWrites data ∧
    (stores.map (·.address)).Nodup ∧
    ∀ c < l.shape.channels, ∃ p, (positions l.processors)[c]? = some p ∧
      ∀ row < l.shape.height, ∀ column < l.shape.width, ∀ registers,
      let word := execute stores registers (l.pixelAddress w.device p (row * l.shape.width + column) + w.options.apbBase)
      byte (down word (8 * (p % 4))) = byte (data.get3 c row column) ∧
      (∀ lane < 4, l.processors.testBit (p / 4 * 4 + lane) = false → byte (down word (8 * lane)) = 0) ∧
      (-128 ≤ data.get3 c row column → data.get3 c row column ≤ 127 →
        signed (byte (down word (8 * (p % 4)))) = data.get3 c row column) := by
  intro stores
  obtain ⟨text, taken, _⟩ := single_run writing file library one.packed memory run
  have once := stores_once _ w.device w.options.apbBase taken stops
  refine ⟨text, once, ?_⟩
  intro c channel
  have counted : c < (positions l.processors).length := by rwa [length_positions, one.processors]
  refine ⟨_, List.getElem?_eq_getElem counted, ?_⟩
  intro row inside column inside' registers word
  have listed := List.getElem?_eq_getElem counted
  obtain ⟨lane, others⟩ := execute_pixel one shares once listed inside inside' registers
  refine ⟨lane, others, ?_⟩
  intro low high
  rw [lane, byte_eq_emod, signed]
  split <;> omega

theorem fits_of_room (one : l.OnePass data) (low : 0 ≤ l.start d b) (high : l.packedEnd d b ≤ 4 * room) :
    ∀ x ∈ l.packedWords d data b, Fits room x := by
  intro x member
  rw [packedWords_eq] at member
  obtain ⟨j, listed, rfl⟩ := mem_map.mp member
  have bound := mem_range.mp listed
  rw [one.operands, Nat.mul_one, DataShape.pixels] at bound
  have row : j / l.shape.width < l.shape.height := Nat.div_lt_of_lt_mul (by rwa [Nat.mul_comm])
  have column : j % l.shape.width < l.shape.width :=
    Nat.mod_lt _ (Nat.pos_of_ne_zero fun none => by simp [none] at bound)
  simp only [packedEnd, one.passes, one.operands, DataShape.pixels] at high
  simp only [Fits, InputLayout.word, one.operands, one.passes, Nat.div_one, Nat.mod_one, one.packedValue_eq row column]
  refine ⟨⟨_, rfl, Unload.packLanes_nonneg rfl⟩, by omega, ?_⟩
  obtain ⟨i, place⟩ : ∃ i : Nat, Bits.down (l.start d b + 4 * ((j : Int) * (1 : Nat) * (1 : Nat) + (0 : Nat))) 2 = i :=
    Int.eq_ofNat_of_zero_le (by rw [Bits.down, Int.shiftRight_eq_div_pow]; omega)
  refine ⟨i, ?_⟩
  rw [place]
  apply position?_natCast
  rw [Bits.down, Int.shiftRight_eq_div_pow] at place
  omega

def sparseInput : InputLayout := { processors := 0x1021, offset := 0x100, shape := ⟨3, 1, 2⟩, inExpandThresh := 3 }

def sparseData : Tensor := .ofFn [3, 1, 2] fun k => 40 * k - 128

def longInput : InputLayout := { processors := 0x21, shape := ⟨2, 1, 8193⟩, inExpandThresh := 2 }

def longData : Tensor := .full [2, 1, 8193] 5

def inputSetup (continues : Bool) (sink : Sink) : Setup where
  device := .max78000
  options := { noErrorStop := continues }
  settings := { mainFile := some (.stream "program"), sampleDataHeader := some (.stream "samples") }
  room := 0x1000000
  sink

def inputSession (continues : Bool) : Session where
  options := { noErrorStop := continues }
  device := some .max78000
  bus := { kind := .program, image := { size := 0x1000000 },
           settings := { mainFile := some (.stream "program"), sampleDataHeader := some (.stream "samples") } }

theorem inputSession_writing (continues : Bool) (name : String) :
    Writing (inputSetup continues (.stream name)) (inputSession continues) :=
  ⟨rfl, rfl, rfl, rfl, rfl, rfl, rfl, trivial, by simp [inputSession]⟩

theorem inputSession_text (continues : Bool) (name : String) : (inputSession continues).text (.stream name) = "" :=
  Std.HashMap.getD_empty

theorem max78000_sharesMemory : Device.max78000.SharesMemory := ⟨rfl, rfl, rfl, rfl⟩

theorem sparse_onePass : sparseInput.OnePass sparseData := ⟨rfl, rfl, rfl, by decide, by decide, by decide, rfl⟩

theorem load_decodes_sparse :
    ∃ after, (load false sparseInput sparseData).run (inputSession false) = .ok () after ∧
      ∀ registers, signed (byte (down (execute ((sparseInput.blocks .max78000).flatMap
        (blockStores sparseInput .max78000 0 sparseData)) registers (sparseInput.pixelAddress .max78000 12 1 + 0)) 0)) = 72 := by
  have writing := inputSession_writing false "program"
  have accepts : Accepts (inputSetup false (.stream "program")) sparseInput sparseData := by
    have room : ∀ b ∈ sparseInput.blocks .max78000,
        0 ≤ sparseInput.start .max78000 b ∧ sparseInput.packedEnd .max78000 b ≤ 4 * 0x1000000 := by decide
    exact ⟨rfl, by decide, by decide, by decide,
      fun b here => fits_of_room sparse_onePass (room b here).1 (room b here).2, by decide⟩
  have loads : Loads False (inputSetup false (.stream "program")) _ _ _ (load false sparseInput sparseData) :=
    Loads.load_single rfl rfl (.inl rfl) rfl rfl fun refused => refused accepts
  obtain ⟨_, after, run⟩ := loads.returns writing fun _ => ⟨by decide, fun _ _ => by simp [inputSession]⟩
  refine ⟨after, run, ?_⟩
  intro registers
  obtain ⟨_, _, elements⟩ := load_decodes sparse_onePass max78000_sharesMemory writing rfl rfl rfl rfl run
  obtain ⟨p, listed, found⟩ := elements 2 (by decide)
  have here : (positions sparseInput.processors)[2]? = some 12 := by decide
  obtain rfl := Option.some.inj (here.symm.trans listed)
  exact (found 0 (by decide) 1 (by decide) registers).2.2 (by decide) (by decide)

/-- Where overwriting is allowed, the last pixel of the first channel and the first one of the second have the same word. -/
theorem load_overwrites :
    ∃ after, (load false longInput longData).run (inputSession true) = .ok () after ∧
      after.text (.stream "program") = singleText longInput .max78000 0 false longData ∧
      ¬(((longInput.blocks .max78000).flatMap (blockStores longInput .max78000 0 longData)).map
        (·.address)).Nodup := by
  have one : longInput.OnePass longData := ⟨rfl, rfl, rfl, by decide, by decide, by decide, rfl⟩
  have blocks : longInput.blocks .max78000 = [⟨0, 1, 0⟩, ⟨4, 2, 1⟩] := by decide
  have accepts : Accepts (inputSetup true (.stream "program")) longInput longData := by
    have room : ∀ b ∈ longInput.blocks .max78000,
        0 ≤ longInput.start .max78000 b ∧ longInput.packedEnd .max78000 b ≤ 4 * 0x1000000 := by decide
    exact ⟨rfl, by decide, by decide, by decide,
      fun b here => fits_of_room one (room b here).1 (room b here).2, by decide⟩
  have writing := inputSession_writing true "program"
  have loads : Loads False (inputSetup true (.stream "program")) _ _ _ (load false longInput longData) :=
    Loads.load_single rfl rfl (.inl rfl) rfl rfl fun refused => refused accepts
  obtain ⟨_, after, run⟩ := loads.returns writing fun never => by cases never
  obtain ⟨text, _⟩ := single_run writing rfl rfl rfl rfl run
  refine ⟨after, run, text.trans ?_, ?_⟩
  · rw [show (inputSetup true (.stream "program")).sink = .stream "program" from rfl, inputSession_text, String.empty_append]
    rfl
  rw [blocks, List.flatMap_cons, List.flatMap_singleton, List.map_append, List.nodup_append]
  rintro ⟨_, _, apart⟩
  exact apart _ (mem_addresses (j := 8192) (by decide)) _ (mem_addresses (j := 0) (by decide)) (by decide)

end DataMemory

end CnnForge
