import CnnForge.Proofs.FifoInput
import CnnForge.Proofs.Tensors
import CnnForge.SampleData
import Mathlib.Data.List.GetD

namespace CnnForge

open Bits

namespace SampleData

variable {values : List Int} {v : Int} {n i words : Nat} {pixels : Array (List Int)}

theorem unsigned_byte (byte : IsByte v) : unsigned v = Bits.byte v := by
  rw [byte_eq_emod, unsigned]
  obtain ⟨low, high⟩ := byte
  split <;> omega

theorem packChannels_natCast (bytes : ∀ v ∈ values, IsByte v) : ∃ p : Nat, packChannels values = p := by
  induction values with
  | nil => exact ⟨0, rfl⟩
  | cons v rest ih =>
    obtain ⟨p, packed⟩ := ih fun v member => bytes v (.tail _ member)
    obtain ⟨x, _, value⟩ := byte_natCast v
    refine ⟨2 ^ 8 * p ||| x, ?_⟩
    rw [← or_natCast, packChannels, List.foldr_cons, ← packChannels, packed, unsigned_byte (bytes v (.head _)), value, up,
      Int.mul_comm]
    rfl

theorem packChannels_cons (first : IsByte v) (bytes : ∀ v ∈ values, IsByte v) :
    packChannels (v :: values) = byte v + 256 * packChannels values := by
  obtain ⟨p, packed⟩ := packChannels_natCast bytes
  obtain ⟨x, below, value⟩ := byte_natCast v
  rw [packChannels, List.foldr_cons, ← packChannels, packed, unsigned_byte first, value]
  have moved : up (p : Int) 8 = ((2 ^ 8 * p : Nat) : Int) := by simp [up, Int.mul_comm]
  rw [moved, or_natCast, ← Nat.two_pow_add_eq_or_of_lt below]
  omega

theorem channelOf_byte (p : Int) (c : Nat) : IsByte (channelOf p c) ∧ byte (channelOf p c) = byte (down p (8 * c)) := by
  simp only [channelOf, byte_eq_emod, signed, IsByte]
  omega

theorem channelOf_succ (p : Int) (c : Nat) : channelOf p (c + 1) = channelOf (p / 256) c := by
  have moved : down p (8 * (c + 1)) = down (p / 256) (8 * c) := by
    rw [down, down, Nat.mul_succ, Nat.add_comm, Int.shiftRight_add, Int.shiftRight_eq_div_pow p 8]
    rfl
  rw [channelOf, moved, channelOf]

theorem low_succ (n : Nat) (p : Int) : low (8 * (n + 1)) p = byte p + 256 * low (8 * n) (p / 256) := by
  have split : (2 : Int) ^ (8 * (n + 1)) = 256 * 2 ^ (8 * n) := by
    rw [Nat.mul_succ, Int.pow_add, Int.mul_comm]
    rfl
  rw [low_eq_emod, low_eq_emod, byte_eq_emod, split, Int.emod_def, Int.emod_def p 256, Int.emod_def (p / 256),
    Int.ediv_ediv_of_nonneg (by decide)]
  ring

theorem packChannels_channels (p : Int) : packChannels ((List.range n).map (channelOf p)) = low (8 * n) p := by
  induction n generalizing p with
  | zero => simp [packChannels, low_eq_emod]
  | succ n ih =>
    have bytes : ∀ (q : Int), ∀ v ∈ (List.range n).map (channelOf q), IsByte v := by
      intro q v member
      obtain ⟨c, _, rfl⟩ := List.mem_map.mp member
      exact (channelOf_byte q c).1
    have later : (channelOf p ∘ Nat.succ) = channelOf (p / 256) := funext (channelOf_succ p)
    have first : byte (channelOf p 0) = byte p := by
      rw [(channelOf_byte p 0).2, Nat.mul_zero, down, Int.shiftRight_zero]
    rw [List.range_succ_eq_map, List.map_cons, List.map_map, later, packChannels_cons (channelOf_byte p 0).1 (bytes _), ih,
      first, low_succ]

structure Pixel (n : Nat) (values : List Int) : Prop where
  length : values.length = n
  bytes : ∀ v ∈ values, IsByte v

theorem nextPixel_pixel (step : Int) (length : values.length = n) : Pixel n (nextPixel step values) := by
  refine ⟨by simp [nextPixel, length], fun v member => ?_⟩
  obtain ⟨c, _, rfl⟩ := List.mem_map.mp member
  exact (channelOf_byte _ c).1

theorem packChannels_nextPixel (step : Int) (length : values.length = n) :
    packChannels (nextPixel step values) = low (8 * n) (packChannels values + step) := by
  rw [nextPixel, packChannels_channels, length, low_eq_emod, low_eq_emod, Int.emod_emod]

theorem packChannels_low (pixel : Pixel n values) : low (8 * n) (packChannels values) = packChannels values := by
  obtain ⟨rfl, bytes⟩ := pixel
  induction values with
  | nil => rfl
  | cons v rest ih =>
    have others : ∀ v ∈ rest, IsByte v := fun v member => bytes v (.tail _ member)
    rw [packChannels_cons (bytes v (.head _)) others, List.length_cons, low_succ]
    have byte : Bits.byte (Bits.byte v + 256 * packChannels rest) = Bits.byte v := by
      simp only [byte_eq_emod]
      omega
    have quotient : (Bits.byte v + 256 * packChannels rest) / 256 = packChannels rest := by
      simp only [byte_eq_emod]
      omega
    rw [byte, quotient, ih others]

def extended (step : Int) (words : Nat) (pixels : Array (List Int)) (k : Nat) : Array (List Int) :=
  (List.range k).foldl (fun ps i => ps.setIfInBounds (i + words) (nextPixel step (ps.getD i []))) pixels

theorem extended_succ (step : Int) (k : Nat) : extended step words pixels (k + 1) =
    (extended step words pixels k).setIfInBounds (k + words) (nextPixel step ((extended step words pixels k).getD k [])) := by
  rw [extended, List.range_succ, List.foldl_append]
  rfl

theorem size_extended (step : Int) (k : Nat) : (extended step words pixels k).size = pixels.size := by
  induction k with
  | zero => rfl
  | succ k ih => rw [extended_succ, Array.size_setIfInBounds, ih]

theorem getD_setIfInBounds (ps : Array (List Int)) (j : Nat) (p : List Int) (inside : j < ps.size) (i : Nat) :
    (ps.setIfInBounds j p).getD i [] = if i = j then p else ps.getD i [] := by
  simp only [Array.getD_eq_getD_getElem?, Array.getElem?_setIfInBounds]
  by_cases same : i = j
  · simp [same, inside]
  · simp [same, Ne.symm same]

theorem extended_follows (step : Int) (some : 0 < words) (k : Nat) (inside : k + words ≤ pixels.size) :
    (∀ i < words, (extended step words pixels k).getD i [] = pixels.getD i []) ∧
    ∀ i < k, (extended step words pixels k).getD (i + words) [] =
      nextPixel step ((extended step words pixels k).getD i []) := by
  induction k with
  | zero => exact ⟨fun _ _ => rfl, fun _ below => absurd below (Nat.not_lt_zero _)⟩
  | succ k ih =>
    obtain ⟨given, follows⟩ := ih (by omega)
    have put := getD_setIfInBounds (extended step words pixels k) (k + words)
      (nextPixel step ((extended step words pixels k).getD k [])) (by rw [size_extended]; omega)
    rw [extended_succ]
    simp only [put]
    refine ⟨fun i below => ?_, fun i below => ?_⟩
    · rw [if_neg (by omega), given i below]
    · rw [if_neg (c := i = k + words) (by omega)]
      split
      · rename_i last
        rw [show i = k by omega]
      · exact follows i (by omega)

variable {step : Int}

theorem size_synthesizePixels : (synthesizePixels step words pixels).size = pixels.size := size_extended step _

section

variable (some : 0 < words) (room : words ≤ pixels.size)
include some room

theorem synthesizePixels_given (below : i < words) :
    (synthesizePixels step words pixels).getD i [] = pixels.getD i [] :=
  (extended_follows step some (pixels.size - words) (by omega)).1 i below

theorem synthesizePixels_next (inside : i + words < pixels.size) :
    (synthesizePixels step words pixels).getD (i + words) [] =
      nextPixel step ((synthesizePixels step words pixels).getD i []) :=
  (extended_follows step some (pixels.size - words) (by omega)).2 i (by omega)

/-- A repetition adds the step once more to each word. -/
theorem packChannels_repeated (first : ∀ i < words, Pixel n (pixels.getD i [])) (inside : i < pixels.size) :
    Pixel n ((synthesizePixels step words pixels).getD i []) ∧
    packChannels ((synthesizePixels step words pixels).getD i []) =
      low (8 * n) (packChannels ((synthesizePixels step words pixels).getD (i % words) []) + step * (i / words : Nat)) := by
  induction i using Nat.strongRecOn with
  | ind i ih =>
    by_cases below : i < words
    · have pixel := first i below
      rw [Nat.mod_eq_of_lt below, Nat.div_eq_of_lt below, synthesizePixels_given some room below]
      refine ⟨pixel, ?_⟩
      simpa using (packChannels_low pixel).symm
    · obtain ⟨j, rfl⟩ : ∃ j, i = j + words := ⟨i - words, by omega⟩
      obtain ⟨pixel, packed⟩ := ih j (by omega) (by omega)
      rw [synthesizePixels_next some room inside, Nat.add_mod_right, Nat.add_div_right _ some]
      refine ⟨nextPixel_pixel step pixel.length, ?_⟩
      rw [packChannels_nextPixel step pixel.length, packed, low_eq_emod, low_eq_emod, low_eq_emod, Int.emod_add_emod,
        Int.add_assoc, Nat.cast_succ, Int.mul_add, Int.mul_one]

end

variable (t : Tensor) (s : DataShape) (step words : Int)

def pixelsOf : Array (List Int) :=
  Array.ofFn fun i : Fin s.pixels => (List.range s.channels).map fun c => t.flat (c * s.pixels + i)

def repeated : Array (List Int) := synthesizePixels step words.toNat (pixelsOf t s)

/-- The image that goes on from its first pixels. A negative count leaves it as it is. -/
def synthesized : Tensor :=
  if words < 0 then t else Tensor.ofFn t.shape fun k => ((repeated t s step words).getD (k % s.pixels) []).getD (k / s.pixels) 0

@[simp] theorem shape_synthesized : (synthesized t s step words).shape = t.shape := by
  rw [synthesized]
  split <;> rfl

@[simp] theorem size_pixelsOf : (pixelsOf t s).size = s.pixels := by simp [pixelsOf]

variable {t s step words}

theorem pixelsOf_length (inside : i < s.pixels) : ((pixelsOf t s).getD i []).length = s.channels := by
  simp [pixelsOf, inside]

theorem le_of_divides {n : Nat} (some : 0 < n) (divides : (n : Int).fmod words = 0) : words.toNat ≤ n := by
  have divisor : words ∣ n := Int.dvd_of_fmod_eq_zero divides
  have small := Int.le_of_dvd (by omega) divisor
  omega

theorem synthesized_bytes (bytes : t.All IsByte) (nonzero : words ≠ 0) (divides : (s.pixels : Int).fmod words = 0) :
    (synthesized t s step words).All IsByte := by
  rw [synthesized]
  split
  · exact bytes
  · refine Tensor.all_ofFn fun k => ?_
    have values : ∀ v ∈ (repeated t s step words).getD (k % s.pixels) [], IsByte v := by
      by_cases some : 0 < s.pixels
      · have room := le_of_divides some divides
        have given : ∀ i < words.toNat, Pixel s.channels ((pixelsOf t s).getD i []) := by
          intro i below
          have inside : i < s.pixels := by omega
          refine ⟨pixelsOf_length inside, fun v member => ?_⟩
          simp only [pixelsOf, Array.getD_eq_getD_getElem?, Array.getElem?_ofFn, inside, dite_true, Option.getD_some,
            List.mem_map] at member
          obtain ⟨c, _, rfl⟩ := member
          exact bytes.flat IsByte.zero _
        have inside : k % s.pixels < (pixelsOf t s).size := by simpa using Nat.mod_lt k some
        exact (packChannels_repeated (by omega) (by simpa using room) given inside).1.bytes
      · have empty : repeated t s step words = #[] :=
          Array.eq_empty_of_size_eq_zero (by simpa [repeated, size_synthesizePixels] using some)
        simp [empty]
    by_cases channel : k / s.pixels < ((repeated t s step words).getD (k % s.pixels) []).length
    · rw [List.getD_eq_getElem _ _ channel]
      exact values _ (List.getElem_mem channel)
    · rw [List.getD_eq_default _ _ (by omega)]
      exact IsByte.zero

section

variable (shape : t.shape = [s.channels, s.height, s.width])
include shape

theorem load_eq (few : 1 ≤ s.channels ∧ s.channels ≤ 4) (step : Int) (nonzero : words ≠ 0)
    (divides : (s.pixels : Int).fmod words = 0) {path : String} {rest : List Tensor} {before : Session}
    (found : before.files.read path = .ok (.tensors (t :: rest))) :
    (load path (some step) words).run before = .ok (synthesized t s step words) before := by
  have size : t.size / s.channels = s.pixels := by
    rw [Tensor.size, t.size_eq, shape]
    simp [shapeSize, DataShape.pixels, Nat.mul_div_cancel_left _ few.1]
  have allowed : (decide (s.channels < 1) || decide (s.channels > 4)) = false := by
    simp
    omega
  have synthesizes : synthesize t step words = pure (synthesized t s step words) := by
    simp only [synthesize, synthesized, repeated, pixelsOf, shape, List.head?_cons, allowed]
    generalize t.size / s.channels = n at size
    subst size
    by_cases negative : words < 0 <;> simp [negative, nonzero, divides]
  simp [load, stored, found, Run.lift, Run.orFail, synthesizes]

variable (positive : 0 < words)
include positive

theorem synthesized_flat (channel : n < s.channels) (inside : i < s.pixels) :
    (synthesized t s step words).flat (n * s.pixels + i) = ((repeated t s step words).getD i []).getD n 0 := by
  have place : n * s.pixels + i < shapeSize t.shape := by
    simpa [shape, shapeSize, DataShape.pixels] using Tensor.place_lt channel inside
  rw [synthesized, if_neg (by omega), Tensor.flat_ofFn place, Tensor.place_mod inside, Tensor.place_div inside]

theorem pixel_of_bytes (room : words.toNat ≤ s.pixels) (bytes : (synthesized t s step words).All IsByte)
    (below : i < words.toNat) : Pixel s.channels ((pixelsOf t s).getD i []) := by
  have length : ((pixelsOf t s).getD i []).length = s.channels := pixelsOf_length (by omega)
  refine ⟨length, fun v member => ?_⟩
  obtain ⟨c, channel, rfl⟩ := List.mem_iff_getElem.mp member
  have value : (synthesized t s step words).flat (c * s.pixels + i) = _ :=
    synthesized_flat shape positive (length ▸ channel) (Nat.lt_of_lt_of_le below room)
  rw [repeated, synthesizePixels_given (by omega) (by simpa using room) below, List.getD_eq_getElem _ _ channel] at value
  rw [← value]
  exact bytes.flat IsByte.zero _

end

end SampleData

namespace InputLayout

variable {l : InputLayout} {data : Tensor} {values : List Int} {n : Nat}

/-- Up to four channels, each for one of the first processors. -/
structure FirstLanes (l : InputLayout) : Prop where
  packed : l.planar = false
  few : 1 ≤ l.shape.channels ∧ l.shape.channels ≤ 4
  processors : l.processors = 1 <<< l.shape.channels - 1

namespace FirstLanes

variable (lanes : l.FirstLanes)
include lanes

theorem channels : l.shape.channels = 1 ∨ l.shape.channels = 2 ∨ l.shape.channels = 3 ∨ l.shape.channels = 4 := by
  have few := lanes.few
  omega

theorem takes : l.TakesFifo := by
  have processors := lanes.processors
  constructor <;> rcases lanes.channels with one | two | three | four <;> simp [*] <;> decide

theorem fifos_eq : l.fifos = [0] := by
  have processors := lanes.processors
  rcases lanes.channels with one | two | three | four <;> simp [fifos, usedFrom, List.range', fifoLanes, *]

theorem gapless : Gapless (l.fifos.map l.fifoLanes) := by
  have processors := lanes.processors
  rw [lanes.fifos_eq, List.map_singleton, Gapless, fifoLanes]
  rcases lanes.channels with one | two | three | four <;> simp [*]

theorem fifoCount_eq : l.fifoCount = 1 := by
  have few := lanes.few
  rw [fifoCount, lanes.packed, if_neg Bool.false_ne_true]
  omega

theorem laneSample_eq (length : values.length = l.shape.channels)
    (each : ∀ c < l.shape.channels, data.get3 c (n / l.shape.width) (n % l.shape.width) = values.getD c 0) {b : Nat}
    (below : b < 4) : l.laneSample data n 0 b = values.getD b 0 := by
  have rank : ∀ c < 5, ∀ b < 4, (1 <<< c - 1).testBit b = decide (b < c) ∧ (b < c → countBelow (1 <<< c - 1) b = b) := by
    decide
  obtain ⟨used, place⟩ := rank l.shape.channels (Nat.lt_succ_of_le lanes.few.2) b below
  rw [laneSample, Nat.mul_zero, Nat.zero_add, lanes.processors, used]
  by_cases channel : b < l.shape.channels
  · rw [decide_eq_true channel, if_pos rfl, place channel, each b channel]
  · rw [decide_eq_false channel, if_neg Bool.false_ne_true, List.getD_eq_default _ _ (by omega)]

end FirstLanes

end InputLayout

namespace SampleData

theorem packChannels_eq_lanesWord {values : List Int} (few : values.length ≤ 4) (bytes : ∀ v ∈ values, IsByte v) :
    packChannels values = InputLayout.lanesWord fun b => values.getD b 0 := by
  have zero : byte 0 = 0 := rfl
  have none : packChannels [] = 0 := rfl
  match values, few with
  | [], _ => rfl
  | [a], _ =>
    simp only [List.forall_mem_cons] at bytes
    simp [packChannels_cons, bytes, InputLayout.lanesWord, zero, none]
  | [a, b], _ | [a, b, c], _ | [a, b, c, d], _ =>
    simp only [List.forall_mem_cons] at bytes
    simp [packChannels_cons, bytes, InputLayout.lanesWord, zero, none]
    omega

end SampleData

namespace DataMemory

/-- A loop that sends stored words to a FIFO, over and over again. Each repetition adds the step once more. -/
structure RepeatLoop where
  fifo : Nat
  count : Nat
  period : Int
  step : Nat
  mask : Option Nat

namespace RepeatLoop

structure State where
  add : BitVec 32 := 0
  next : Nat := 0

variable (p : RepeatLoop)

def masked (v : BitVec 32) : BitVec 32 :=
  match p.mask with
  | none => v
  | some m => v &&& BitVec.ofNat 32 m

/-- The word that is written, `none` if the loop reads behind the stored words. -/
def written (stored : List Int) (s : State) : Option (BitVec 32) :=
  stored[s.next]?.map fun x => p.masked (BitVec.ofInt 32 x + s.add)

/-- The remainder has the sign of the dividend. -/
def advance (i : Nat) (s : State) : State :=
  if (i : Int).tmod p.period = p.period - 1 then { add := p.masked (s.add + BitVec.ofNat 32 p.step) }
  else { s with next := s.next + 1 }

def state : Nat → State
  | 0 => {}
  | i + 1 => p.advance i (state i)

def maskText : Option String := p.mask.map fun m => "0x" ++ Text.hex 0 (m : Int)

def value : String :=
  match p.maskText with
  | none => s!"*in{p.fifo}++ + add"
  | some m => s!"(*in{p.fifo}++ + add) & {m}"

def emit : Run Unit := do
  Bus.output "  uint32_t add = 0;\n"
  Bus.output s!"  const uint32_t *in{p.fifo} = input_{p.fifo};\n"
  Bus.output s!"\n  for (i = 0; i < {p.count}; i++) \x7b\n"
  Bus.write 0 (.expression p.value) { fifo := some p.fifo, comment := s!" // Write FIFO {p.fifo}", indent := "    " }
  Bus.output s!"    if (i % {p.period} == {p.period - 1}) \x7b\n"
  Bus.output s!"      add += 0x{Text.hex 0 p.step};\n    "
  if let some m := p.maskText then Bus.output s!"  add &= {m};\n    "
  Bus.output s!"  in{p.fifo} = input_{p.fifo};\n"
  Bus.output "    \x7d\n"
  Bus.output "  \x7d\n"

end RepeatLoop

variable {l : InputLayout} {step : Nat} {words : Int} {o : Options}

def repeatLoop (l : InputLayout) (step : Nat) (words : Int) : RepeatLoop where
  fifo := 0
  count := l.shape.pixels
  period := words
  step := step
  mask := if l.shape.channels < 4 then some (1 <<< (8 * l.shape.channels) - 1) else none

def sendRepeated (o : Options) (p : RepeatLoop) (stored : List Int) : Run Unit := do
  Bus.defineArray stored s!"SAMPLE_INPUT_{p.fifo}" "0x%08x" 8 false
  if o.riscvFlash then Bus.output CSource.flashAttribute
  Bus.output s!"static const uint32_t input_{p.fifo}[] = SAMPLE_INPUT_{p.fifo};\n"
  openLoadInput
  Bus.output "  int i;\n"
  p.emit
  Bus.functionFooter "void" false

theorem synthesizedMask_eq (lanes : l.FirstLanes) :
    synthesizedMask l.shape.channels = (repeatLoop l step words).maskText.getD "" ∧
      (repeatLoop l step words).maskText ≠ some "" := by
  rcases lanes.channels with few | few | few | few <;> simp only [repeatLoop, RepeatLoop.maskText, few] <;> decide +kernel

theorem sendArrays_eq (lanes : l.FirstLanes) (input : o.synthesizeInput = some (step : Int))
    (count : o.synthesizeWords = words) :
    sendArrays o l = (do
      openLoadInput
      Bus.output "  int i;\n"
      (repeatLoop l step words).emit
      Bus.functionFooter "void" false) := by
  have length : l.fifoLength = l.shape.pixels := by simp [InputLayout.fifoLength, lanes.packed]
  have one : List.range 1 = [0] := rfl
  obtain ⟨mask, shown⟩ := @synthesizedMask_eq l step words lanes
  cases text : (repeatLoop l step words).maskText with
  | none =>
    rw [text] at mask
    simp [sendArrays, lanes.fifoCount_eq, one, input, count, length, mask, RepeatLoop.emit, RepeatLoop.value, text]
    rfl
  | some m =>
    rw [text] at mask shown
    have filled : m ≠ "" := fun empty => shown (congrArg some empty)
    simp [sendArrays, lanes.fifoCount_eq, one, input, count, length, mask, RepeatLoop.emit, RepeatLoop.value, text, filled]
    rfl

theorem masked_toNat (lanes : l.FirstLanes) (v : BitVec 32) :
    ((repeatLoop l step words).masked v).toNat = v.toNat % 2 ^ (8 * l.shape.channels) := by
  have bound := v.isLt
  rcases lanes.channels with few | few | few | few
  · simpa [RepeatLoop.masked, repeatLoop, few] using Nat.and_two_pow_sub_one_eq_mod v.toNat 8
  · simpa [RepeatLoop.masked, repeatLoop, few] using Nat.and_two_pow_sub_one_eq_mod v.toNat 16
  · simpa [RepeatLoop.masked, repeatLoop, few] using Nat.and_two_pow_sub_one_eq_mod v.toNat 24
  · simpa [RepeatLoop.masked, repeatLoop, few] using (Nat.mod_eq_of_lt bound).symm

theorem word_mod_mod (lanes : l.FirstLanes) (x : Nat) :
    x % 2 ^ 32 % 2 ^ (8 * l.shape.channels) = x % 2 ^ (8 * l.shape.channels) := by
  have few := lanes.few
  exact Nat.mod_mod_of_dvd x (Nat.pow_dvd_pow 2 (by omega))

section

variable {k : Nat} (lanes : l.FirstLanes) (some : 0 < k)
include lanes some

/-- One turn keeps the place in the stored words and the sum of the steps so far. -/
theorem advance_repeats {n : Nat} {s : RepeatLoop.State} (next : s.next = n % k)
    (add : s.add.toNat = step * (n / k) % 2 ^ (8 * l.shape.channels)) :
    ((repeatLoop l step k).advance n s).next = (n + 1) % k ∧
    ((repeatLoop l step k).advance n s).add.toNat = step * ((n + 1) / k) % 2 ^ (8 * l.shape.channels) := by
  have turn : (n : Int).tmod (repeatLoop l step k).period = (repeatLoop l step k).period - 1 ↔ n % k = k - 1 := by
    rw [show (repeatLoop l step k).period = k from rfl, ← Int.ofNat_tmod]
    omega
  have below := Nat.mod_lt n some
  have parts := Nat.div_add_mod' n k
  rw [RepeatLoop.advance]
  split
  · rename_i last
    have complete : n + 1 = (n / k + 1) * k + 0 := by
      have := turn.mp last
      rw [Nat.succ_mul]
      omega
    rw [complete, Tensor.place_mod some, Tensor.place_div some]
    refine ⟨rfl, ?_⟩
    rw [masked_toNat lanes, BitVec.toNat_add, BitVec.toNat_ofNat, add, word_mod_mod lanes, Nat.mod_add_mod, Nat.add_mod,
      word_mod_mod lanes, ← Nat.add_mod, Nat.mul_succ]
    rfl
  · rename_i middle
    have inside : n % k + 1 < k := by
      have := mt turn.mpr middle
      omega
    rw [← parts, Nat.add_assoc, Tensor.place_mod inside, Tensor.place_div inside]
    exact ⟨congrArg (· + 1) next, add⟩

theorem state_repeats (n : Nat) : ((repeatLoop l step k).state n).next = n % k ∧
    ((repeatLoop l step k).state n).add.toNat = step * (n / k) % 2 ^ (8 * l.shape.channels) := by
  induction n with
  | zero => simp [RepeatLoop.state]
  | succ n ih => exact advance_repeats lanes some ih.1 ih.2

end

/-- The words of FIFO 0 that the program keeps. A negative count leaves out the last ones. -/
def repeatedWords (l : InputLayout) (words : Int) (data : Tensor) : List Int :=
  takeSigned words ((List.range l.shape.pixels).map (word l data 0))

theorem announceFifos_bind (embedded : Bool) {f g : Options → Run Unit} {before : Session}
    (same : f before.options = g before.options) :
    (announceFifos embedded l >>= f).run before = (announceFifos embedded l >>= g).run before := by
  by_cases single : l.operands = 1
  · simp only [announceFifos, Run.check, single, decide_true, if_true, pure_bind, bind_assoc]
    rw [Run.options_bind, Run.options_bind]
    cases embedded <;> by_cases several : l.shape.channels > 1 <;> simp [several, same]
  · simp [announceFifos, Run.check, single]

theorem loadFifos_repeats (lanes : l.FirstLanes) {data : Tensor}
    (shape : data.shape = [l.shape.channels, l.shape.height, l.shape.width]) (pixels : 0 < l.shape.pixels)
    {before : Session} (input : before.options.synthesizeInput = some (step : Int))
    (count : before.options.synthesizeWords = words) :
    (loadFifos true l data).run before = (announceFifos true l >>= fun o =>
      sendRepeated o (repeatLoop l step words) (repeatedWords l words data)).run before := by
  have packed : l.packedFifoWords data = some (l.delivered data) := by
    rw [lanes.takes.packedFifoWords_eq shape, lanes.takes.sent_eq_delivered lanes.gapless]
  have single : l.fifoCount = l.fifos.length := by rw [lanes.fifoCount_eq, lanes.fifos_eq]; rfl
  have first : l.fifos = List.range l.fifos.length := by rw [lanes.fifos_eq]; rfl
  rw [loadFifos_eq lanes.packed packed]
  refine announceFifos_bind true ?_
  rw [sendAll_stored _ lanes.packed pixels single, if_pos first, sendStored, lanes.fifos_eq, sendArrays_eq lanes input count]
  cases flash : before.options.riscvFlash <;>
    simp [defineFifoArray, storedWords, input, count, flash, sendRepeated, repeatedWords] <;> rfl

theorem word_natCast (l : InputLayout) (data : Tensor) (g n : Nat) : ∃ x : Nat, word l data g n = x := by
  refine ⟨(word l data g n).toNat, (Int.toNat_of_nonneg ?_).symm⟩
  simp only [word, InputLayout.lanesWord, byte_eq_emod]
  omega

section

open SampleData

variable {t : Tensor} {k i : Nat} (lanes : l.FirstLanes)
  (shape : t.shape = [l.shape.channels, l.shape.height, l.shape.width])

include lanes shape

theorem word_synthesized (positive : 0 < k) (room : k ≤ l.shape.pixels)
    (bytes : (synthesized t l.shape step k).All IsByte) (inside : i < l.shape.pixels) :
    word l (synthesized t l.shape step k) 0 i =
      low (8 * l.shape.channels)
        (word l (synthesized t l.shape step k) 0 (i % k) + step * (i / k : Nat)) := by
  have size := size_pixelsOf t l.shape
  have first : ∀ i < k, Pixel l.shape.channels ((pixelsOf t l.shape).getD i []) :=
    fun i below => pixel_of_bytes shape (Int.natCast_pos.mpr positive) room bytes below
  have repeats : ∀ i < l.shape.pixels, _ := fun i inside =>
    @packChannels_repeated _ i k _ step positive (room.trans_eq size.symm) first (inside.trans_eq size.symm)
  have packed : ∀ i < l.shape.pixels, word l (synthesized t l.shape step k) 0 i =
      packChannels ((synthesizePixels step k (pixelsOf t l.shape)).getD i []) := by
    intro i inside
    have pixel := (repeats i inside).1
    rw [word, packChannels_eq_lanesWord (pixel.length.trans_le lanes.few.2) pixel.bytes]
    refine InputLayout.lanesWord_inj.mpr fun b below => ?_
    rw [lanes.laneSample_eq pixel.length (fun c channel => ?_) below]
    have place : (c * l.shape.height + i / l.shape.width) * l.shape.width + i % l.shape.width =
        c * (l.shape.height * l.shape.width) + i := by
      rw [Nat.add_mul, Nat.add_assoc, Nat.div_add_mod', Nat.mul_assoc]
    rw [Tensor.get3, Tensor.dim, Tensor.dim, shape_synthesized, shape]
    exact (congrArg _ place).trans (synthesized_flat shape (Int.natCast_pos.mpr positive) channel inside)
  rw [packed i inside, packed (i % k) (Nat.lt_of_lt_of_le (Nat.mod_lt i positive) room), (repeats i inside).2]

theorem written_repeats (positive : 0 < k) (room : k ≤ l.shape.pixels)
    (bytes : (synthesized t l.shape step k).All IsByte) (inside : i < l.shape.pixels) :
    (repeatLoop l step k).written (repeatedWords l k (synthesized t l.shape step k))
      ((repeatLoop l step k).state i) =
        some (BitVec.ofInt 32 (word l (synthesized t l.shape step k) 0 i)) := by
  have recurs := @word_synthesized l step t k i lanes shape positive room bytes inside
  generalize synthesized t l.shape step k = full at recurs ⊢
  obtain ⟨next, add⟩ := @state_repeats l step k lanes positive i
  have below := Nat.mod_lt i positive
  have given := Nat.lt_of_lt_of_le below room
  have first : (repeatedWords l k full)[i % k]? = some (word l full 0 (i % k)) := by
    rw [repeatedWords, takeSigned, if_neg (by omega), Int.toNat_natCast, List.getElem?_take_of_lt below, List.getElem?_map,
      List.getElem?_range given, Option.map_some]
  obtain ⟨x, value⟩ := word_natCast l full 0 (i % k)
  have sum : word l full 0 i = ((x + step * (i / k)) % 2 ^ (8 * l.shape.channels) : Nat) := by
    rw [recurs, low_eq_emod, value]
    push_cast
    rfl
  rw [RepeatLoop.written, next, first, Option.map_some, value, sum, BitVec.ofInt_natCast, BitVec.ofInt_natCast]
  congr 1
  apply BitVec.eq_of_toNat_eq
  have fits : (x + step * (i / k)) % 2 ^ (8 * l.shape.channels) < 2 ^ 32 :=
    Nat.lt_of_lt_of_le (Nat.mod_lt _ (Nat.two_pow_pos _)) (Nat.pow_le_pow_right (by decide) (by have := lanes.few; omega))
  rw [masked_toNat lanes, BitVec.toNat_add, BitVec.toNat_ofNat, BitVec.toNat_ofNat, Nat.mod_eq_of_lt fits,
    word_mod_mod lanes, add, Nat.add_mod_mod, Nat.add_mod, word_mod_mod lanes, ← Nat.add_mod]

end

/-- A program sends each pixel of a synthesized image, as the simulation sees it, from the words of the image's first
part that it keeps. -/
theorem synthesized_words_sent (lanes : l.FirstLanes) {t : Tensor}
    (shape : t.shape = [l.shape.channels, l.shape.height, l.shape.width]) (step : Nat) (positive : 0 < words)
    (divides : (l.shape.pixels : Int).fmod words = 0) {path : String} {rest : List Tensor} {before : Session}
    (found : before.files.read path = .ok (.tensors (t :: rest))) :
    ∃ image : Tensor, (SampleData.load path (some (step : Int)) words).run before = .ok image before ∧
      image.shape = t.shape ∧ (t.All IsByte → image.All IsByte) ∧
      (∀ s : Session, s.options.synthesizeInput = some (step : Int) → s.options.synthesizeWords = words →
        0 < l.shape.pixels → (loadFifos true l image).run s = (announceFifos true l >>= fun o =>
          sendRepeated o (repeatLoop l step words) (repeatedWords l words image)).run s) ∧
      (image.All IsByte → ∀ n < l.shape.pixels, (repeatLoop l step words).written (repeatedWords l words image)
        ((repeatLoop l step words).state n) = some (BitVec.ofInt 32 (word l image 0 n))) := by
  have nonzero : words ≠ 0 := by omega
  refine ⟨SampleData.synthesized t l.shape step words, SampleData.load_eq shape lanes.few _ nonzero divides found,
    SampleData.shape_synthesized .., fun bytes => SampleData.synthesized_bytes bytes nonzero divides,
    fun s input count pixels => ?_, fun bytes n inside => ?_⟩
  · exact loadFifos_repeats lanes ((SampleData.shape_synthesized ..).trans shape) pixels input count
  · obtain ⟨k, rfl⟩ := Int.eq_ofNat_of_zero_le (show 0 ≤ words by omega)
    have some : 0 < k := by omega
    have room : k ≤ l.shape.pixels := SampleData.le_of_divides (by omega) divides
    exact written_repeats lanes shape some room bytes inside

def carryInput : InputLayout := { processors := 3, shape := ⟨2, 2, 2⟩ }

def carryImage : Tensor := .ofFn [2, 2, 2] fun k => #[127, -1, 5, 5, -1, 127, 9, 9].getD k 0

def withImage : Session :=
  { files.files := ({} : Std.HashMap String Content).insert (normalPath "s.npy") (.tensors [carryImage]) }

theorem carryInput_lanes : carryInput.FirstLanes := ⟨rfl, by decide, rfl⟩

theorem carryImage_bytes : carryImage.All IsByte :=
  Tensor.all_ofFn (Tensor.All.getD (by simp [IsByte]) IsByte.zero)

theorem withImage_read : withImage.files.read "s.npy" = .ok (.tensors [carryImage]) := by
  have file : "s.npy".endsWith "/" = false := by decide +kernel
  simp [withImage, FileTree.read, file]

theorem synthesized_words_sent_carry : ∃ image : Tensor,
    (SampleData.load "s.npy" (some 0x1ff) 2).run withImage = .ok image withImage ∧ image.All IsByte ∧
      ∀ n < 4, (repeatLoop carryInput 0x1ff 2).written (repeatedWords carryInput 2 image)
        ((repeatLoop carryInput 0x1ff 2).state n) = some (BitVec.ofInt 32 (word carryInput image 0 n)) := by
  obtain ⟨image, loaded, _, bytes, _, sent⟩ := synthesized_words_sent carryInput_lanes (t := carryImage) rfl 0x1ff
    (show (0 : Int) < 2 by decide) (by decide) withImage_read
  exact ⟨image, loaded, bytes carryImage_bytes, sent (bytes carryImage_bytes)⟩

end DataMemory

end CnnForge
