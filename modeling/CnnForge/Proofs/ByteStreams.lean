import CnnForge.Bus.ByteStream
import CnnForge.Proofs.BusSteps
import CnnForge.Proofs.ByteLanes

namespace CnnForge.Bus

open Outcome List Bits

variable {s t : Session} {u : Unit} {start : Int} {values : List Int} {bytes : List (Int × Int)}

inductive ByteCall where
  | byte (offset value : Int) (comment : String) (fifo : Option Int)
  | flush (offset : Int) (comment : String) (fifo : Option Int)

namespace ByteCall

def perform : ByteCall → Run Unit
  | byte offset value comment fifo => writeByte offset value comment fifo
  | flush offset comment fifo => flushBytes offset comment fifo

def byte? : ByteCall → Option (Int × Int)
  | byte offset value _ _ => some (offset, value)
  | flush .. => none

end ByteCall

/-- The bytes that calls write, with their offsets, in the order of the calls. -/
def written (calls : List ByteCall) : List (Int × Int) := calls.filterMap ByteCall.byte?

def placed (start : Int) : List Int → List (Int × Int)
  | [] => []
  | v :: values => (start, v) :: placed (start + 1) values

def littleEndian : List Int → Int
  | [] => 0
  | v :: values => v % 256 + 256 * littleEndian values

def byteAt (word : Int) (j : Nat) : Int := byte (down word (8 * j))

theorem placed_append (start : Int) (first second : List Int) :
    placed start (first ++ second) = placed start first ++ placed (start + first.length) second := by
  induction first generalizing start with
  | nil => simp [placed]
  | cons v first ih =>
    have next : start + 1 + (first.length : Int) = start + ((first.length + 1 : Nat) : Int) := by omega
    rw [cons_append, placed, placed, ih, length_cons, next, cons_append]

theorem mem_placed {x : Int × Int} : x ∈ placed start values ↔ ∃ j : Nat, values[j]? = some x.2 ∧ x.1 = start + j := by
  induction values generalizing start with
  | nil => simp [placed]
  | cons v values ih =>
    rw [placed, mem_cons, ih]
    constructor
    · rintro (rfl | ⟨j, found, place⟩)
      · exact ⟨0, rfl, by simp⟩
      · exact ⟨j + 1, found, by omega⟩
    · rintro ⟨j, found, place⟩
      cases j with
      | zero => exact .inl (Prod.ext (by simpa using place) (by simpa using found.symm))
      | succ j => exact .inr ⟨j, found, by omega⟩

theorem byteAt_littleEndian (values : List Int) (j : Nat) : byteAt (littleEndian values) j = values.getD j 0 % 256 := by
  unfold byteAt
  induction values generalizing j with
  | nil => simp [littleEndian, byte_eq_emod, down]
  | cons v values ih =>
    cases j with
    | zero =>
      simp only [Nat.mul_zero, down, Int.shiftRight_zero, byte_eq_emod, littleEndian, getD_cons_zero]
      omega
    | succ j =>
      have rest : (v % 256 + 256 * littleEndian values) >>> (8 : Nat) = littleEndian values := by
        rw [Int.shiftRight_eq_div_pow]
        omega
      rw [getD_cons_succ, ← ih, littleEndian, down, down, Nat.mul_succ, Nat.add_comm, Int.shiftRight_add, rest]

theorem littleEndian_append (values : List Int) (v : Int) :
    Bits.or (littleEndian values) (up (byte v) (8 * values.length)) = littleEndian (values ++ [v]) := by
  obtain ⟨x, less, byte⟩ := byte_natCast v
  have sum : ∀ values, ∃ n : Nat, littleEndian values = n ∧ n < 2 ^ (8 * values.length) ∧
      littleEndian (values ++ [v]) = ((n + 2 ^ (8 * values.length) * x : Nat) : Int) := by
    intro values
    induction values with
    | nil => exact ⟨0, rfl, by simp, by simp [littleEndian, ← byte, byte_eq_emod]⟩
    | cons first values ih =>
      obtain ⟨n, rest, below, longer⟩ := ih
      obtain ⟨y, less, byte⟩ := byte_natCast first
      rw [byte_eq_emod] at byte
      have power : 2 ^ (8 * (values.length + 1)) = 256 * 2 ^ (8 * values.length) := by
        rw [Nat.mul_succ, Nat.pow_add, Nat.mul_comm]
      refine ⟨y + 256 * n, ?_, ?_, ?_⟩
      · rw [littleEndian, byte, rest]
        rfl
      · rw [length_cons]
        omega
      · rw [cons_append, littleEndian, length_cons, power, Nat.mul_assoc]
        omega
  obtain ⟨n, word, below, longer⟩ := sum values
  rw [word, byte, or_up below, longer]

structure WordWrite where
  address : Int
  value : Int
  comment : String
  fifo : Option Int

def WordWrite.perform (w : WordWrite) : Run Unit := do
  checkOverwrite w.address
  writeData w.address w.value { comment := w.comment, fifo := w.fifo }
  markWord w.address .loaded

def rebuffer (s : Session) (b : ByteBuffer) : Session := { s with bus := { s.bus with buffer := b } }

/-- The words are passed on one after the other, and besides only the buffer changes. -/
inductive Passes : List WordWrite → Session → Session → Prop where
  | done (s : Session) (b : ByteBuffer) : Passes [] s (rebuffer s b)
  | word {w : WordWrite} {ws : List WordWrite} {s middle t : Session} (b : ByteBuffer)
      (run : w.perform.run (rebuffer s b) = .ok () middle) (rest : Passes ws middle t) : Passes (w :: ws) s t

theorem Passes.append {ws ws' : List WordWrite} {middle : Session} (first : Passes ws s middle)
    (second : Passes ws' middle t) : Passes (ws ++ ws') s t := by
  induction first with
  | done s b =>
    cases second with
    | done _ b' => exact .done s b'
    | word b' run rest => exact .word b' run rest
  | word b run _ ih => exact .word b run (ih second)

/-- The bytes are taken in groups of up to four successive ones, and each group makes a word. -/
inductive Assembles : List (Int × Int) → List WordWrite → Prop where
  | nil : Assembles [] []
  | word {bytes : List (Int × Int)} {ws : List WordWrite} (start : Int) {values : List Int} (comment : String)
      (fifo : Option Int) (some_bytes : values ≠ []) (few : values.length ≤ 4) (rest : Assembles bytes ws) :
      Assembles (placed start values ++ bytes) (⟨start, littleEndian values, comment, fifo⟩ :: ws)

theorem Assembles.append {bytes' : List (Int × Int)} {ws ws' : List WordWrite} (first : Assembles bytes ws)
    (second : Assembles bytes' ws') : Assembles (bytes ++ bytes') (ws ++ ws') := by
  induction first with
  | nil => exact second
  | word start comment fifo some_bytes few _ ih =>
    rw [append_assoc, cons_append]
    exact .word start comment fifo some_bytes few ih

/-- Fewer than four bytes are pending; `start` is the offset of the first of them. -/
structure Holds (b : ByteBuffer) (start : Int) (values : List Int) : Prop where
  next : b.next = start + values.length
  count : b.count = values.length
  word : b.word = littleEndian values
  few : values.length < 4

theorem Holds.restart (offset : Int) : Holds (.restart offset) offset [] := ⟨by simp [ByteBuffer.restart], rfl, rfl, by simp⟩

section

variable {b : ByteBuffer} {offset v : Int} {comment : String} {fifo : Option Int}

theorem append_holds (holds : Holds b start values) (v : Int) :
    (b.append v).next = start + (values ++ [v]).length ∧ (b.append v).count = (values ++ [v]).length ∧
      (b.append v).word = littleEndian (values ++ [v]) := by
  have next := holds.next
  simp only [ByteBuffer.append, holds.count, holds.word, littleEndian_append, length_append, length_singleton,
    and_true]
  omega

theorem flushBytes_ok (count : s.bus.buffer.count = values.length) (next : s.bus.buffer.next = start + values.length)
    (word : s.bus.buffer.word = littleEndian values) (few : values.length ≤ 4)
    (run : (flushBytes offset comment fifo).run s = .ok u t) :
    t.bus.buffer = .restart offset ∧ ∃ ws, Passes ws s t ∧ Assembles (placed start values) ws := by
  simp only [flushBytes, bind_ok, get_ok] at run
  obtain ⟨_, _, ⟨rfl, rfl⟩, run⟩ := run
  cases values with
  | nil =>
    rw [ByteBuffer.pending?, if_pos (by simpa using count)] at run
    obtain rfl := modify_ok.mp run
    exact ⟨rfl, [], .done s _, .nil⟩
  | cons v values =>
    have place : s.bus.buffer.next - s.bus.buffer.count = start := by omega
    rw [ByteBuffer.pending?, if_neg (by simp [count]), place, word] at run
    simp only [bind_ok] at run
    obtain ⟨_, a, checked, _, c, sent, _, middle, marked, run⟩ := run
    obtain rfl := modify_ok.mp run
    have passed : (WordWrite.mk start (littleEndian (v :: values)) comment fifo).perform.run s = .ok () middle :=
      bind_ok.mpr ⟨_, a, checked, bind_ok.mpr ⟨_, c, sent, marked⟩⟩
    have word := Assembles.word start comment fifo (cons_ne_nil v values) few .nil
    rw [append_nil] at word
    exact ⟨rfl, _, .word s.bus.buffer passed (.done middle _), word⟩

theorem writeByte_ok (holds : Holds s.bus.buffer start values) (run : (writeByte offset v comment fifo).run s = .ok u t) :
    ∃ ws first start' values', Passes ws s t ∧ Assembles first ws ∧ Holds t.bus.buffer start' values' ∧
      placed start values ++ [(offset, v)] = first ++ placed start' values' := by
  simp only [writeByte, bind_ok, get_ok] at run
  obtain ⟨_, _, ⟨rfl, rfl⟩, run⟩ := run
  -- After a jump the buffer is empty, and else it goes on at the offset.
  obtain ⟨ws, first, begin, kept, middle, passes, assembles, held, split, next, run⟩ :
      ∃ ws first begin kept middle, Passes ws s middle ∧ Assembles first ws ∧ Holds middle.bus.buffer begin kept ∧
        placed start values = first ++ placed begin kept ∧ offset = begin + kept.length ∧
        (do
          Run.modifyBus fun b => { b with buffer := b.buffer.append v }
          if (← get).bus.buffer.count = 4 then flushBytes (offset + 1) comment fifo : Run Unit).run middle = .ok u t := by
    split at run
    · obtain ⟨_, middle, flushed, run⟩ := bind_ok.mp run
      obtain ⟨cleared, ws, passes, assembles⟩ :=
        flushBytes_ok holds.count holds.next holds.word (Nat.le_of_lt holds.few) flushed
      exact ⟨ws, _, offset, [], middle, passes, assembles, cleared ▸ .restart offset, by simp [placed], by simp, run⟩
    · rename_i near
      exact ⟨[], [], start, values, s, .done s s.bus.buffer, .nil, holds, rfl, (Decidable.not_not.mp near).trans holds.next, run⟩
  simp only [bind_ok, get_ok] at run
  obtain ⟨_, _, pushed, _, _, ⟨rfl, rfl⟩, run⟩ := run
  obtain rfl := modify_ok.mp pushed
  obtain ⟨after, count, word⟩ := append_holds held v
  have all : placed start values ++ [(offset, v)] = first ++ placed begin (kept ++ [v]) := by
    rw [split, append_assoc, placed_append, next]
    rfl
  have few := held.few
  split at run
  · rename_i full
    obtain ⟨cleared, ws', passes', assembles'⟩ := flushBytes_ok count after word (by simp; omega)
      run
    refine ⟨ws ++ ws', first ++ placed begin (kept ++ [v]), offset + 1, [], ?_, assembles.append assembles',
      cleared ▸ .restart _, by simp [all, placed]⟩
    exact passes.append (.append (.done middle _) passes')
  · rename_i fewer
    obtain ⟨_, rfl⟩ := pure_ok.mp run
    have pushed := passes.append (.done middle (middle.bus.buffer.append v))
    rw [append_nil] at pushed
    refine ⟨ws, first, begin, kept ++ [v], pushed, assembles, ⟨after, count, word, ?_⟩, all⟩
    have less : (middle.bus.buffer.append v).count ≠ 4 := fewer
    simp only [length_append, length_singleton] at count ⊢
    omega

end

theorem perform_ok {c : ByteCall} (holds : Holds s.bus.buffer start values) (run : c.perform.run s = .ok u t) :
    ∃ ws first start' values', Passes ws s t ∧ Assembles first ws ∧ Holds t.bus.buffer start' values' ∧
      placed start values ++ written [c] = first ++ placed start' values' := by
  cases c with
  | byte offset v comment fifo => exact writeByte_ok holds run
  | flush offset comment fifo =>
    obtain ⟨cleared, ws, passes, assembles⟩ :=
      flushBytes_ok holds.count holds.next holds.word (Nat.le_of_lt holds.few) run
    exact ⟨ws, _, offset, [], passes, assembles, cleared ▸ .restart offset, rfl⟩

/-- What a sequence of calls has written is what was passed on, followed by what is pending. -/
theorem forM_perform_ok {calls : List ByteCall} (holds : Holds s.bus.buffer start values)
    (run : (calls.forM ByteCall.perform).run s = .ok u t) :
    ∃ ws first start' values', Passes ws s t ∧ Assembles first ws ∧ Holds t.bus.buffer start' values' ∧
      placed start values ++ written calls = first ++ placed start' values' := by
  induction calls generalizing s start values with
  | nil =>
    obtain ⟨_, rfl⟩ := pure_ok.mp run
    exact ⟨[], [], start, values, .done s s.bus.buffer, .nil, holds, by simp [written]⟩
  | cons c calls ih =>
    rw [forM_eq_forM, forM_cons] at run
    obtain ⟨_, middle, performed, run⟩ := bind_ok.mp run
    obtain ⟨ws, first, begin, kept, passes, assembles, held, here⟩ := perform_ok holds performed
    obtain ⟨ws', first', start', values', passes', assembles', held', rest⟩ := ih held run
    refine ⟨ws ++ ws', first ++ first', start', values', passes.append passes', assembles.append assembles', held', ?_⟩
    have all : written (c :: calls) = written [c] ++ written calls := by
      rw [written, written, written, ← filterMap_append, singleton_append]
    rw [all, ← append_assoc, here, append_assoc, rest, append_assoc]

section

variable {w : WordWrite} {ws : List WordWrite}

def Quietly (first s : Session) : Prop :=
  s.options = first.options ∧ s.bus.image = first.bus.image ∧ s.diagnostics = first.diagnostics

theorem Quietly.appended {first : Session} (k : Sink) (text : String) (quiet : Quietly first s) :
    Quietly first (s.append k text) := by
  cases k <;> exact quiet

theorem Quietly.busFree : BusFree Quietly := by
  refine ⟨fun _ _ k t quiet => quiet.appended k t, ?_⟩
  rintro first s f kept ⟨options, image, messages⟩
  exact ⟨options, (kept s.bus).2.2.trans image, messages⟩

theorem warn_longer {message : String} (run : (Run.warn message).run s = .ok u t) :
    t.options = s.options ∧ t.bus.image = s.bus.image ∧ s.diagnostics.length < t.diagnostics.length := by
  have grows (d : String) : d.length < (d ++ (s!"{Run.yellow}WARNING:{Run.resetColor} {message}\n")).length := by
    have title : 0 < (toString "WARNING:").length := by decide
    simp only [String.length_append]
    omega
  simp only [Run.warn, Run.diagnose, bind_ok, get_ok] at run
  obtain ⟨_, _, ⟨rfl, rfl⟩, run⟩ := run
  split at run
  · obtain ⟨_, middle, logged, run⟩ := bind_ok.mp run
    obtain rfl := modify_ok.mp run
    obtain ⟨options, image, messages⟩ : Quietly s middle := by
      obtain rfl := modify_ok.mp logged
      split
      · exact ⟨rfl, rfl, rfl⟩
      · exact Quietly.appended _ _ ⟨rfl, rfl, rfl⟩
    exact ⟨options, image, messages ▸ grows middle.diagnostics⟩
  · obtain rfl := modify_ok.mp run
    exact ⟨rfl, rfl, grows s.diagnostics⟩

/-- A word that is passed on marks its place in the memory image; a place that is taken already draws a message. -/
structure Marks (w : WordWrite) (s t : Session) (i : Nat) : Prop where
  here : position? s.bus.image.size (down w.address 2) = some i
  size : t.bus.image.size = s.bus.image.size
  words : t.bus.image.words = s.bus.image.words.insert i .loaded
  options : t.options = s.options
  free : s.bus.image.words[i]? = none ∧ t.diagnostics = s.diagnostics ∨
    s.options.noErrorStop = true ∧ s.diagnostics.length < t.diagnostics.length

theorem WordWrite.perform_marks (run : w.perform.run s = .ok u t) : ∃ i, Marks w s t i := by
  simp only [WordWrite.perform, bind_ok] at run
  obtain ⟨_, a, checked, _, b, sent, marked⟩ := run
  obtain ⟨options, image, messages⟩ : Quietly a b :=
    (Stays.writeData Quietly.busFree _ _ _).keeps (fun _ => ⟨rfl, rfl, rfl⟩) _ _ _ sent
  simp only [markWord, bind_ok, get_ok, Run.orFail_ok] at marked
  obtain ⟨_, _, ⟨rfl, rfl⟩, i, _, ⟨found, rfl⟩, marked⟩ := marked
  obtain rfl := modify_ok.mp marked
  simp only [checkOverwrite, bind_ok, get_ok, Run.lift_ok] at checked
  obtain ⟨_, _, ⟨rfl, rfl⟩, old, _, ⟨got, rfl⟩, checked⟩ := checked
  obtain ⟨options', image', free⟩ : a.options = s.options ∧ a.bus.image = s.bus.image ∧
      (old = none ∧ a.diagnostics = s.diagnostics ∨
        s.options.noErrorStop = true ∧ s.diagnostics.length < a.diagnostics.length) := by
    split at checked
    · simp only [bind_ok, Run.options_ok] at checked
      obtain ⟨_, _, ⟨rfl, rfl⟩, checked⟩ := checked
      unfold Run.stopIf at checked
      split at checked
      · obtain ⟨_, _, _, stopped⟩ := bind_ok.mp checked
        exact (throw_ok.mp stopped).elim
      · rename_i going
        obtain ⟨options, image, longer⟩ := warn_longer checked
        exact ⟨options, image, .inr ⟨by simpa using going, longer⟩⟩
    · rename_i fresh
      obtain ⟨_, rfl⟩ := pure_ok.mp checked
      exact ⟨rfl, rfl, .inl ⟨by simpa using fresh, rfl⟩⟩
  rw [image, image'] at found
  rw [MemoryImage.get, found] at got
  cases got
  have size : b.bus.image.size = s.bus.image.size := by rw [image, image']
  have words : b.bus.image.words.insert i .loaded = s.bus.image.words.insert i .loaded := by rw [image, image']
  exact ⟨i, found, size, words, options.trans options', messages ▸ free⟩

/-- Words that drew no message are at different places, which were free before. -/
theorem Passes.apart (passes : Passes ws s t)
    (clean : s.options.noErrorStop = true → t.diagnostics = s.diagnostics) :
    (ws.map fun w => down w.address 2).Nodup ∧ ∀ w ∈ ws, ∀ i,
      position? s.bus.image.size (down w.address 2) = some i → s.bus.image.words[i]? = none := by
  have grows {ws : List WordWrite} {s t : Session} (passes : Passes ws s t) :
      s.diagnostics.length ≤ t.diagnostics.length := by
    induction passes with
    | done s b => exact Nat.le_refl _
    | word b run _ ih =>
      obtain ⟨i, marks⟩ := WordWrite.perform_marks run
      rcases marks.free with ⟨_, same⟩ | ⟨_, longer⟩
      · exact Nat.le_trans (Nat.le_of_eq (congrArg String.length same.symm)) ih
      · exact Nat.le_trans (Nat.le_of_lt longer) ih
  induction passes with
  | done s b => simp
  | @word w ws s middle t b run rest ih =>
    obtain ⟨i, marks⟩ := WordWrite.perform_marks run
    have later := grows rest
    have free : s.bus.image.words[i]? = none ∧ middle.diagnostics = s.diagnostics := by
      rcases marks.free with free | ⟨going, longer⟩
      · exact free
      · have same := congrArg String.length (clean going)
        have longer : s.diagnostics.length < middle.diagnostics.length := longer
        omega
    obtain ⟨nodup, unmarked⟩ := ih fun going => (clean (marks.options ▸ going)).trans free.2.symm
    rw [marks.size, marks.words] at unmarked
    refine ⟨nodup_cons.mpr ⟨?_, nodup⟩, ?_⟩
    · intro member
      obtain ⟨w', member, same⟩ := mem_map.mp member
      have none := unmarked w' member i (same ▸ marks.here)
      simp at none
    · intro w' member k found
      rcases mem_cons.mp member with rfl | member
      · obtain rfl := Option.some.inj (marks.here.symm.trans found)
        exact free.1
      · have none := unmarked w' member k found
        rw [Std.HashMap.getElem?_insert] at none
        split at none
        · cases none
        · exact none

/-- Each run of successive offsets starts at a multiple of 4; `next` is where the run before goes on. -/
def Aligned (next : Int) : List (Int × Int) → Prop
  | [] => True
  | (offset, _) :: bytes => (offset = next ∨ offset % 4 = 0) ∧ Aligned (offset + 1) bytes

theorem aligned_placed {next v : Int} (aligned : Aligned next (placed start (v :: values) ++ bytes)) :
    (start = next ∨ start % 4 = 0) ∧ Aligned (start + (v :: values).length) bytes := by
  induction values generalizing start next v with
  | nil => exact aligned
  | cons v' values ih =>
    have step : start + 1 + ((v' :: values).length : Int) = start + (v :: v' :: values).length := by
      simp only [length_cons]
      omega
    exact ⟨aligned.1, step ▸ (ih aligned.2).2⟩

theorem down_two (x : Int) : down x 2 = x / 4 := Int.shiftRight_eq_div_pow x 2

theorem Assembles.aligned (assembles : Assembles bytes ws) {next : Int} (aligned : Aligned next bytes)
    (nodup : (ws.map fun w => down w.address 2).Nodup)
    (apart : next % 4 ≠ 0 → ∀ w ∈ ws, down w.address 2 ≠ down next 2) : ∀ w ∈ ws, w.address % 4 = 0 := by
  induction assembles generalizing next with
  | nil => simp
  | @word bytes ws start values comment fifo some_bytes few _ ih =>
    obtain ⟨v, values, rfl⟩ := exists_cons_of_ne_nil some_bytes
    obtain ⟨continues, aligned⟩ := aligned_placed aligned
    obtain ⟨new, nodup⟩ := nodup_cons.mp nodup
    have whole : start % 4 = 0 := by
      rcases continues with rfl | whole
      · exact Decidable.byContradiction fun inside => apart inside _ mem_cons_self rfl
      · exact whole
    -- A word that is not full leaves the rest of its place to no other word.
    have later := ih aligned nodup fun inside w member same => by
      refine new (mem_map.mpr ⟨w, member, same.trans ?_⟩)
      simp only [length_cons] at few inside ⊢
      simp only [down_two]
      omega
    intro w member
    rcases mem_cons.mp member with rfl | member
    · exact whole
    · exact later w member

/-- The words hold the bytes, each once and at its own offset, and zeros besides. -/
structure Faithful (bytes : List (Int × Int)) (ws : List WordWrite) : Prop where
  aligned : ∀ w ∈ ws, w.address % 4 = 0
  apart : (ws.map fun w => w.address).Nodup
  word : ∀ w ∈ ws, 0 ≤ w.value ∧ w.value < 0x100000000
  once : (bytes.map fun x => x.1).Nodup
  present : ∀ x ∈ bytes, ∃ w ∈ ws, ∃ j < 4, x.1 = w.address + (j : Nat) ∧ byteAt w.value j = x.2 % 256
  others : ∀ w ∈ ws, ∀ j < 4, (∀ x ∈ bytes, x.1 ≠ w.address + (j : Nat)) → byteAt w.value j = 0

theorem littleEndian_word (few : values.length ≤ 4) : 0 ≤ littleEndian values ∧ littleEndian values < 0x100000000 := by
  rcases values with _ | ⟨a, _ | ⟨b, _ | ⟨c, _ | ⟨d, _ | ⟨_, _⟩⟩⟩⟩⟩ <;>
    simp only [littleEndian, length_cons, length_nil] at few ⊢ <;> omega

theorem placed_nodup (start : Int) (values : List Int) : ((placed start values).map fun x => x.1).Nodup := by
  induction values generalizing start with
  | nil => simp [placed]
  | cons v values ih =>
    refine nodup_cons.mpr ⟨?_, ih (start + 1)⟩
    intro member
    obtain ⟨x, member, same⟩ := mem_map.mp member
    obtain ⟨j, _, place⟩ := mem_placed.mp member
    have same : x.1 = start := same
    omega

theorem Assembles.faithful (assembles : Assembles bytes ws) (aligned : ∀ w ∈ ws, w.address % 4 = 0)
    (nodup : (ws.map fun w => down w.address 2).Nodup) : Faithful bytes ws := by
  induction assembles with
  | nil => exact ⟨aligned, .nil, by simp, .nil, by simp, by simp⟩
  | @word bytes ws start values comment fifo _ few _ ih =>
    obtain ⟨new, nodup⟩ := nodup_cons.mp nodup
    have faithful := ih (fun w member => aligned w (mem_cons_of_mem _ member)) nodup
    have whole : start % 4 = 0 := aligned _ mem_cons_self
    -- The bytes of one word are nowhere in the others.
    have apart {w : WordWrite} (member : w ∈ ws) : w.address / 4 ≠ start / 4 := by
      intro same
      exact new (mem_map.mpr ⟨w, member, (down_two _).trans (same.trans (down_two start).symm)⟩)
    have here {x : Int × Int} (member : x ∈ placed start values) : x.1 / 4 = start / 4 := by
      obtain ⟨j, found, place⟩ := mem_placed.mp member
      have less := (List.getElem?_eq_some_iff.mp found).1
      omega
    have there {x : Int × Int} (member : x ∈ bytes) : x.1 / 4 ≠ start / 4 := by
      obtain ⟨w, among, j, less, place, _⟩ := faithful.present x member
      have other := apart among
      have multiple := faithful.aligned w among
      omega
    refine ⟨aligned, nodup_cons.mpr ⟨?_, faithful.apart⟩, ?_, ?_, ?_, ?_⟩
    · intro member
      obtain ⟨w, member, same⟩ := mem_map.mp member
      exact apart member (congrArg (· / 4) same)
    · intro w member
      rcases mem_cons.mp member with rfl | member
      · exact littleEndian_word few
      · exact faithful.word w member
    · rw [map_append, nodup_append]
      refine ⟨placed_nodup start values, faithful.once, ?_⟩
      intro a first b second same
      obtain ⟨x, among, rfl⟩ := mem_map.mp first
      obtain ⟨y, among', rfl⟩ := mem_map.mp second
      exact there among' (same ▸ here among)
    · intro x member
      rcases mem_append.mp member with member | member
      · obtain ⟨j, found, place⟩ := mem_placed.mp member
        have less := (List.getElem?_eq_some_iff.mp found).1
        refine ⟨_, mem_cons_self, j, Nat.lt_of_lt_of_le less few, place, ?_⟩
        rw [byteAt_littleEndian, getD_eq_getElem?_getD, found]
        rfl
      · obtain ⟨w, among, rest⟩ := faithful.present x member
        exact ⟨w, mem_cons_of_mem _ among, rest⟩
    · intro w member j less absent
      rcases mem_cons.mp member with rfl | member
      · rw [byteAt_littleEndian, getD_eq_getElem?_getD]
        cases found : values[j]? with
        | none => rfl
        | some v =>
          exact absurd rfl (absent (start + j, v) (mem_append_left _ (mem_placed.mpr ⟨j, found, rfl⟩)))
      · exact faithful.others w member j less fun x among => absent x (mem_append_right _ among)

end

/-- The pending bytes are the last ones that the calls wrote. -/
def Pending (calls : List ByteCall) (s : Session) : Prop :=
  ∃ values, Holds s.bus.buffer (s.bus.buffer.next - s.bus.buffer.count) values ∧
    placed (s.bus.buffer.next - s.bus.buffer.count) values <:+ written calls

theorem pending_of_run {calls : List ByteCall} (idle : s.bus.buffer = .restart start)
    (run : (calls.forM ByteCall.perform).run s = .ok u t) : Pending calls t := by
  have holds : Holds s.bus.buffer start [] := idle ▸ .restart start
  obtain ⟨_, first, start', values, _, _, holds, split⟩ := forM_perform_ok holds run
  have place : t.bus.buffer.next - t.bus.buffer.count = start' := by
    rw [holds.next, holds.count]
    omega
  exact ⟨values, place ▸ holds, place ▸ ⟨first, split.symm⟩⟩

/-- Bytes that are written in any order, with flushes between them, are passed on in words at multiples of 4: each byte
once and at its own offset, in the order of the calls. -/
theorem forM_perform_faithful {before after : Session} {calls : List ByteCall} {offset : Int} {comment : String}
    {fifo : Option Int} (idle : before.bus.buffer = .restart start) (aligned : Aligned 0 (written calls))
    (run : ((calls ++ [ByteCall.flush offset comment fifo]).forM ByteCall.perform).run before = .ok () after)
    (clean : before.options.noErrorStop = true → after.diagnostics = before.diagnostics) :
    (∃ ws, Passes ws before after ∧ Assembles (written calls) ws ∧ Faithful (written calls) ws) ∧
      ∀ done rest, calls ++ [.flush offset comment fifo] = done ++ rest → ∃ middle,
        (done.forM ByteCall.perform).run before = .ok () middle ∧
        (rest.forM ByteCall.perform).run middle = .ok () after ∧ Pending done middle := by
  constructor
  · rw [forM_eq_forM, forM_append] at run
    obtain ⟨_, middle, called, ending⟩ := bind_ok.mp run
    rw [forM_cons] at ending
    obtain ⟨_, last, flushed, finished⟩ := bind_ok.mp ending
    obtain ⟨_, rfl⟩ := pure_ok.mp finished
    have holds : Holds before.bus.buffer start [] := idle ▸ .restart start
    obtain ⟨ws, first, start', values, passes, assembles, holds, split⟩ := forM_perform_ok holds called
    obtain ⟨_, ws', passes', assembles'⟩ :=
      flushBytes_ok holds.count holds.next holds.word (Nat.le_of_lt holds.few) flushed
    have passes := passes.append passes'
    have assembles := assembles.append assembles'
    rw [← split] at assembles
    have nodup := (passes.apart clean).1
    have multiples := assembles.aligned aligned nodup fun inside => absurd rfl inside
    exact ⟨ws ++ ws', passes, assembles, assembles.faithful multiples nodup⟩
  · intro done rest all
    rw [all, forM_eq_forM, forM_append] at run
    obtain ⟨_, middle, called, rest⟩ := bind_ok.mp run
    exact ⟨middle, called, rest, pending_of_run idle called⟩

theorem flushBytes_free {middle : Session} {word offset : Int} {comment : String} {fifo : Option Int} {i : Nat}
    (pending : s.bus.buffer.pending? = some (start, word))
    (place : position? s.bus.image.size (down start 2) = some i) (free : s.bus.image.words[i]? = none)
    (sent : (writeData start word { comment, fifo }).run s = .ok () middle) (same : middle.bus.image = s.bus.image) :
    (flushBytes offset comment fifo).run s = .ok () { middle with
      bus := { middle.bus with
        buffer := .restart offset, image := { middle.bus.image with words := middle.bus.image.words.insert i .loaded } } } := by
  have unmarked : (checkOverwrite start).run s = .ok () s := by
    refine bind_ok.mpr ⟨s, s, rfl, bind_ok.mpr ⟨none, s, ?_, rfl⟩⟩
    rw [MemoryImage.get, place, Run.lift_ok]
    exact ⟨congrArg Except.ok free, rfl⟩
  have marked : (markWord start .loaded).run middle = .ok () { middle with
      bus := { middle.bus with
        image := { middle.bus.image with words := middle.bus.image.words.insert i .loaded } } } :=
    bind_ok.mpr ⟨middle, middle, rfl, bind_ok.mpr ⟨i, middle, Run.orFail_ok.mpr ⟨same ▸ place, rfl⟩, rfl⟩⟩
  refine bind_ok.mpr ⟨s, s, rfl, ?_⟩
  rw [pending]
  exact bind_ok.mpr ⟨(), s, unmarked, bind_ok.mpr ⟨(), middle, sent, bind_ok.mpr ⟨(), _, marked, rfl⟩⟩⟩

def scattered : List ByteCall :=
  [.byte 8 1 "" none, .byte 9 (-2) "" none, .flush 12 " // 2 bytes" none, .byte 4 0x103 "" none]

def bufferSession : Session :=
  { bus := { kind := .program, settings := { mainFile := some (.stream "main") }, image := { size := 16 } } }

theorem forM_perform_faithful_scattered : ∃ after,
    ((scattered ++ [ByteCall.flush 0 "" none]).forM ByteCall.perform).run bufferSession = .ok () after ∧
      (∃ ws, Passes ws bufferSession after ∧ Assembles (written scattered) ws ∧ Faithful (written scattered) ws) ∧
      ∀ done rest, scattered ++ [.flush 0 "" none] = done ++ rest → ∃ middle,
        (done.forM ByteCall.perform).run bufferSession = .ok () middle ∧
        (rest.forM ByteCall.perform).run middle = .ok () after ∧ Pending done middle := by
  obtain ⟨after, run⟩ : ∃ after,
      ((scattered ++ [ByteCall.flush 0 "" none]).forM ByteCall.perform).run bufferSession = .ok () after := by
    exact ⟨_, bind_ok.mpr ⟨(), _, rfl, bind_ok.mpr ⟨(), _, rfl,
      bind_ok.mpr ⟨(), _, flushBytes_free (i := 2) rfl rfl (by simp [bufferSession]) rfl rfl, bind_ok.mpr ⟨(), _, rfl,
        bind_ok.mpr ⟨(), _, flushBytes_free (i := 1) rfl rfl (by simp [bufferSession]) rfl rfl, rfl⟩⟩⟩⟩⟩⟩
  exact ⟨after, run, forM_perform_faithful rfl ⟨.inr rfl, .inl rfl, .inr rfl, trivial⟩ run nofun⟩

end CnnForge.Bus
