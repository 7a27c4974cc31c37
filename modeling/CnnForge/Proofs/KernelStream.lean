import CnnForge.KernelMemory.Arrays
import CnnForge.Proofs.KernelCursor
import CnnForge.Proofs.ProcessorMaps

namespace CnnForge

attribute [local instance (2000)] instPowNat

open Outcome List

variable {α : Type} {n k p i : Nat} {value : Int} {m : KernelMemory}

def StreamItem.value? : StreamItem → Option Int
  | .byte value => some value
  | .skip | .note _ | .missing => none

def streamBytes (items : List StreamItem) : List Int := items.filterMap StreamItem.value?

theorem streamBytes_append (items more : List StreamItem) :
    streamBytes (items ++ more) = streamBytes items ++ streamBytes more :=
  filterMap_append

theorem streamBytes_bytes (values : List Int) : streamBytes (values.map .byte) = values := by
  rw [streamBytes, filterMap_map]
  exact filterMap_some

theorem streamBytes_flatMap (f : α → List StreamItem) (xs : List α) :
    streamBytes (xs.flatMap f) = xs.flatMap fun x => streamBytes (f x) := by
  rw [streamBytes, filterMap_flatMap]
  rfl

namespace KernelMemory

/-- The words of processor `p` from column `offset` on hold `bytes`, nine to a word, and nothing
else. -/
def Holds (m : KernelMemory) (p offset : Nat) (bytes : List Int) : Prop :=
  ∀ w, (m.stored p (offset + w)).map StoredByte.value =
    (((bytes.drop (9 * w)).take 9).map Bits.byte).reverse

def Fits (m : KernelMemory) : Prop := ∀ p column, (m.stored p column).length ≤ 9

theorem Fits.store {result : KernelMemory} {layer column : Nat} (fits : m.Fits)
    (done : m.store layer p column value = .ok result) : result.Fits := by
  obtain ⟨room, bytes, _, elsewhere⟩ := store_spec done
  intro q c
  by_cases here : (q, c) = (p, column)
  · cases here
    rw [bytes, length_cons]
    omega
  · rw [stored, elsewhere q c here]
    exact fits q c

theorem bytesAt_eq (m : KernelMemory) (p column : Nat) :
    m.bytesAt p column =
      replicate (9 - (m.stored p column).length) 0 ++ (m.stored p column).map StoredByte.value := by
  unfold bytesAt stored
  cases m.word? p column <;> simp [KernelWord.bytes]

theorem Holds.bytesAt {grown : KernelMemory} {offset t : Nat} {bytes : List Int} (holds : m.Holds p offset bytes)
    (fits : grown.Fits) (more : ∃ added, grown.stored p (offset + t / 9) = added ++ m.stored p (offset + t / 9))
    (byte : bytes[t]? = some value) : (grown.bytesAt p (offset + t / 9))[8 - t % 9]? = some (Bits.byte value) := by
  obtain ⟨added, stored⟩ := more
  have room := fits p (offset + t / 9)
  have full : (grown.bytesAt p (offset + t / 9)).length = 9 := by
    rw [bytesAt_eq]
    simp only [length_append, length_replicate, length_map]
    omega
  -- From its end on, a word reads like the stream.
  have fromEnd : (grown.bytesAt p (offset + t / 9))[8 - t % 9]? =
      (grown.bytesAt p (offset + t / 9)).reverse[t % 9]? := by
    rw [getElem?_reverse (by rw [full]; omega), full]
  have here : ((bytes.drop (9 * (t / 9))).take 9)[t % 9]? = some value := by
    rw [getElem?_take_of_lt (by omega), getElem?_drop, Nat.div_add_mod]
    exact byte
  have inside : t % 9 < (((bytes.drop (9 * (t / 9))).take 9).map Bits.byte).length := by
    rw [length_map]
    exact (List.getElem?_eq_some_iff.mp here).1
  rw [fromEnd, bytesAt_eq, stored, map_append, holds (t / 9), reverse_append, reverse_append,
    reverse_reverse, append_assoc, getElem?_append_left inside, getElem?_map, here]
  rfl

end KernelMemory

namespace Placement

variable {pl : Placement} {d : Device} {p next : Nat} {before after : Packing} {bytes : List Int}

theorem storeByte_fits (pl : Placement) (d : Device) (p target : Nat) (value : Int) :
    Keeps (fun a b : Packing => a.memory.Fits → b.memory.Fits) (pl.storeByte d p target value) := by
  intro before next after run fits
  obtain ⟨m, stored, rfl, _, _⟩ := storeByte_ok run
  exact fits.store stored

theorem storeByte_holds (plain : pl.quad = false) (holds : before.memory.Holds p pl.offset bytes)
    (run : (pl.storeByte d p (bytes.length / 9) value).run before = .ok next after) :
    next = (bytes ++ [value]).length / 9 ∧ after.memory.Holds p pl.offset (bytes ++ [value]) := by
  obtain ⟨m, stored, rfl, _, target⟩ := storeByte_ok run
  rw [cell_plain plain] at stored target
  obtain ⟨_, top, _, elsewhere⟩ := KernelMemory.store_spec stored
  have last : (bytes.drop (9 * (bytes.length / 9))).length = bytes.length % 9 := by
    rw [length_drop]
    omega
  have word := holds (bytes.length / 9)
  rw [take_of_length_le (by omega)] at word
  constructor
  · have count := congrArg length word
    simp only [length_map, length_reverse] at count
    rw [target, top, length_cons, count, length_append, length_singleton]
    split <;> omega
  · intro w
    by_cases here : w = bytes.length / 9
    · subst here
      rw [top, map_cons, word, drop_append_of_le_length (by omega),
        take_of_length_le (by simp only [length_append, length_singleton]; omega),
        map_append, reverse_append]
      rfl
    · have same : m.word? p (pl.offset + w) = before.memory.word? p (pl.offset + w) :=
        elsewhere p _ (by simpa using here)
      have kept : ((bytes ++ [value]).drop (9 * w)).take 9 = (bytes.drop (9 * w)).take 9 := by
        rcases Nat.lt_or_gt_of_ne here with less | greater
        · rw [drop_append_of_le_length (by omega), take_append_of_le_length]
          rw [length_drop]
          omega
        · rw [drop_eq_nil_of_le (by rw [length_append, length_singleton]; omega),
            drop_eq_nil_of_le (by omega)]
      have earlier := holds w
      rw [KernelMemory.stored] at earlier
      rw [kept, KernelMemory.stored, same, earlier]

theorem place_holds (plain : pl.quad = false) {item : StreamItem} (passed : item ≠ .skip)
    (holds : before.memory.Holds p pl.offset bytes)
    (run : (pl.place d p (bytes.length / 9) item).run before = .ok next after) :
    next = (bytes ++ streamBytes [item]).length / 9 ∧
      after.memory.Holds p pl.offset (bytes ++ streamBytes [item]) := by
  cases item with
  | byte value => exact storeByte_holds plain holds run
  | skip => exact (passed rfl).elim
  | note text =>
    obtain ⟨_, middle, noted, same⟩ := bind_ok.mp run
    obtain ⟨rfl, rfl⟩ := pure_ok.mp same
    rw [Pack.note_memory _ _ _ _ noted]
    have silent : streamBytes [.note text] = [] := rfl
    rw [silent, append_nil]
    exact ⟨rfl, holds⟩
  | missing => exact (throw_ok.mp run).elim

theorem stream_holds (plain : pl.quad = false) (items : List StreamItem) (gapless : .skip ∉ items)
    (holds : before.memory.Holds p pl.offset bytes)
    (run : (items.foldlM (pl.place d p) (bytes.length / 9)).run before = .ok next after) :
    after.memory.Holds p pl.offset (bytes ++ streamBytes items) := by
  induction items generalizing bytes before with
  | nil =>
    obtain ⟨_, rfl⟩ := pure_ok.mp run
    simpa [streamBytes] using holds
  | cons item items ih =>
    rw [foldlM_cons] at run
    obtain ⟨target, middle, placed, rest⟩ := bind_ok.mp run
    rw [mem_cons, not_or] at gapless
    obtain ⟨rfl, held⟩ := place_holds plain (Ne.symm gapless.1) holds placed
    have final := ih gapless.2 held rest
    rw [append_assoc, ← streamBytes_append] at final
    exact final

theorem stream_complete (items : List StreamItem) {target : Nat}
    (run : (items.foldlM (pl.place d p) target).run before = .ok next after) : .missing ∉ items := by
  induction items generalizing target before with
  | nil => simp
  | cons item items ih =>
    rw [foldlM_cons] at run
    obtain ⟨_, _, placed, rest⟩ := bind_ok.mp run
    rw [mem_cons, not_or]
    refine ⟨?_, ih rest⟩
    rintro rfl
    exact throw_ok.mp placed

end Placement

theorem length_blocks {f : Nat → List α} (blocks : ∀ i < k, (f i).length = n) :
    ((range k).flatMap f).length = k * n := by
  have each : ∀ i ∈ range k, (f i).length = n := fun i member => blocks i (mem_range.mp member)
  rw [length_flatMap, map_congr_left each, map_const', sum_replicate_nat,
    length_range]

theorem getElem?_blocks {f : Nat → List α} {j : Nat} (blocks : ∀ b ≤ i, (f b).length = n) (block : i < k)
    (element : j < n) : ((range k).flatMap f)[i * n + j]? = (f i)[j]? := by
  obtain ⟨m, rfl⟩ : ∃ m, k = i + 1 + m := ⟨k - (i + 1), by omega⟩
  have earlier : ((range i).flatMap f).length = i * n := length_blocks fun b less => blocks b (Nat.le_of_lt less)
  have own : (f i).length = n := blocks i (Nat.le_refl i)
  rw [range_add, flatMap_append, range_succ, flatMap_append, flatMap_singleton,
    getElem?_append_left (by rw [length_append]; omega), getElem?_append_right (by omega), earlier,
    Nat.add_sub_cancel_left]

theorem take_drop_blocks {f : Nat → List α} (blocks : ∀ i < k, (f i).length = n) (block : i < k) :
    (((range k).flatMap f).drop (n * i)).take n = f i := by
  apply ext_getElem?
  intro j
  by_cases element : j < n
  · rw [getElem?_take_of_lt element, getElem?_drop, Nat.mul_comm, getElem?_blocks (fun b le => blocks b (by omega)) block element]
  · rw [getElem?_take_eq_none (by omega), getElem?_eq_none (by rw [blocks i block]; omega)]

namespace Bits

theorem signed_low {x : Int} (lower : -128 ≤ x) (upper : x ≤ 127) : signed (low 8 x) = x := by
  have value : low 8 x = x % 256 := rfl
  unfold signed
  rw [value]
  split <;> omega

theorem lowest_row (n s : Nat) : lowest (((2 ^ (n + 1) - 1) * 2 ^ s : Nat) : Int) = s := by
  have bits : ∀ j, ((2 ^ (n + 1) - 1) * 2 ^ s).testBit j = (decide (s ≤ j) && decide (j - s < n + 1)) := by
    intro j
    rw [Nat.testBit_mul_two_pow, Nat.testBit_two_pow_sub_one]
  have positive : (2 ^ (n + 1) - 1) * 2 ^ s ≠ 0 := by
    intro zero
    have bit := bits s
    simp [zero] at bit
  obtain ⟨p, found, bit, below⟩ := lowest_spec positive
  rw [bits, Bool.and_eq_true, decide_eq_true_eq] at bit
  rw [found]
  rcases Nat.lt_or_eq_of_le bit.1 with less | same
  · have counted := countBelow_mono ((2 ^ (n + 1) - 1) * 2 ^ s) (Nat.succ_le_of_lt less)
    rw [below, countBelow, bits] at counted
    simp at counted
  · rw [same]

end Bits

namespace ArrangedKernels

variable (a : ArrangedKernels) (l : KernelLayer) (debug : Bool) (layer p rank : Nat)

def channelItems (channel : Nat) : List StreamItem :=
  (range a.passes).flatMap (a.passItems l debug layer p rank channel)

theorem passItems_gapless (channel pass : Nat) :
    .skip ∉ a.passItems l debug layer p rank channel pass := by
  have notes : ∀ text, .skip ∉ if debug then [StreamItem.note text] else [] := by
    intro text member
    split at member <;> simp at member
  have bytes : ∀ values : List Int, .skip ∉ values.map StreamItem.byte := by simp
  intro member
  unfold passItems at member
  extract_lets size inputs source ks k count note at member
  by_cases there : pass * l.inExpandThresh + rank < inputs ∧ source < a.kernels.dim 0
  · rw [if_pos there] at member
    rcases mem_append.mp member with member | member
    · exact notes _ member
    · split at member
      · exact bytes _ member
      · split at member
        · simp at member
        · exact bytes _ member
  · rw [if_neg there] at member
    simp at member

variable {l} in
theorem columnItems_row (some_weights : 0 < l.perByte) (plain : l.flatten = false) (stop fuel column channel : Nat)
    (enough : stop - column ≤ fuel) :
    ((a.columnItems l debug layer p rank stop fuel column channel (2 ^ (stop - column) - 1)).1.flatten,
      (a.columnItems l debug layer p rank stop fuel column channel (2 ^ (stop - column) - 1)).2) =
    ((range ((stop - column + l.perByte - 1) / l.perByte)).flatMap fun i =>
        a.channelItems l debug layer p rank (channel + i * l.perByte),
      channel + (stop - column + l.perByte - 1) / l.perByte * l.perByte) := by
  induction fuel generalizing column channel with
  | zero =>
    have none : (stop - column + l.perByte - 1) / l.perByte = 0 := Nat.div_eq_of_lt (by omega)
    simp [columnItems, none]
  | succ fuel ih =>
    by_cases inside : column < stop
    · have odd : (2 ^ (stop - column) - 1) % 2 = 1 := by
        obtain ⟨n, more⟩ : ∃ n, stop - column = n + 1 := ⟨stop - column - 1, by omega⟩
        have positive := Nat.two_pow_pos n
        rw [more, Nat.pow_succ]
        omega
      have used : ¬((2 ^ (stop - column) - 1) ≠ 0 ∧ (2 ^ (stop - column) - 1) % 2 ^ l.perByte = 0) := by
        rintro ⟨_, whole⟩
        have even := Nat.mod_mod_of_dvd (2 ^ (stop - column) - 1) (Nat.pow_dvd_pow 2 some_weights)
        rw [whole, Nat.pow_one] at even
        omega
      have rest : (2 ^ (stop - column) - 1) >>> l.perByte = 2 ^ (stop - (column + l.perByte)) - 1 := by
        apply Nat.eq_of_testBit_eq
        intro j
        rw [Nat.testBit_shiftRight, Nat.testBit_two_pow_sub_one, Nat.testBit_two_pow_sub_one, decide_eq_decide]
        omega
      have groups : (stop - column + l.perByte - 1) / l.perByte =
          (stop - (column + l.perByte) + l.perByte - 1) / l.perByte + 1 := by
        rw [← Nat.add_div_right _ some_weights]
        rcases Nat.le_total l.perByte (stop - column) with more | last
        · congr 1
          omega
        · rw [show stop - (column + l.perByte) = 0 by omega, Nat.div_eq_of_lt_le (k := 1) (by omega) (by omega),
            Nat.div_eq_of_lt_le (k := 1) (by omega) (by omega)]
      have later := ih (column + l.perByte) (channel + l.perByte) (by omega)
      simp only [Prod.mk.injEq] at later
      have skips : skipUnused l.perByte ((2 ^ (stop - column) - 1).log2 + 1) (2 ^ (stop - column) - 1) =
          (2 ^ (stop - column) - 1, []) := by
        rw [skipUnused, if_neg used]
      simp only [columnItems, inside, if_true, skips, rest, plain, Bool.false_eq_true, if_false, cons_append,
        flatten_cons, nil_append, flatten_append, later.1, later.2, groups, range_succ_eq_map,
        flatMap_cons, flatMap_map, Nat.zero_mul, Nat.add_zero, Prod.mk.injEq]
      refine ⟨?_, by rw [Nat.succ_mul]; omega⟩
      have order : ∀ i, channel + l.perByte + i * l.perByte = channel + (i + 1) * l.perByte := by
        intro i
        rw [Nat.succ_mul]
        omega
      simp only [order]
      rfl
    · have none : (stop - column + l.perByte - 1) / l.perByte = 0 := Nat.div_eq_of_lt (by omega)
      simp [columnItems, inside, none]

variable {l} in
/-- The stream of a processor has the output channels one after the other, as many at once as share bytes, if
their processors are in a row. -/
theorem outputItems_row (some_weights : 0 < l.perByte) (plain : l.flatten = false) (groups : l.groups = 1) {s : Nat}
    (row : l.outputProcessors = (2 ^ (n + 1) - 1) * 2 ^ s) (thresh : l.outExpandThresh = n + 1) :
    a.outputItems l debug layer p rank =
      (range (l.outExpand * ((l.outExpandThresh + l.perByte - 1) / l.perByte))).flatMap fun i =>
        a.channelItems l debug layer p rank (i * l.perByte) := by
  have map : l.outputProcessors >>> (Bits.lowest l.outputProcessors).toNat = 2 ^ l.outExpandThresh - 1 := by
    rw [row, Bits.lowest_row, Int.toNat_natCast, Nat.shiftRight_eq_div_pow,
      Nat.mul_div_cancel _ (Nat.two_pow_pos s), thresh]
  generalize count : (l.outExpandThresh + l.perByte - 1) / l.perByte = each
  have passes : ∀ k, ∃ items, (range k).foldl
      (fun (done : List (List StreamItem) × Nat) pass =>
        let next := a.columnItems l debug layer p rank ((pass + 1) * l.outExpandThresh)
          (l.outExpandThresh + 1) (pass * l.outExpandThresh) done.2 (2 ^ l.outExpandThresh - 1)
        (done.1 ++ next.1, next.2)) ([], 0) = (items, k * each * l.perByte) ∧
      items.flatten =
        (range (k * each)).flatMap fun i => a.channelItems l debug layer p rank (i * l.perByte) := by
    intro k
    induction k with
    | zero => exact ⟨[], by simp⟩
    | succ k ih =>
      obtain ⟨items, reached, earlier⟩ := ih
      have span : (k + 1) * l.outExpandThresh - k * l.outExpandThresh = l.outExpandThresh := by
        rw [Nat.succ_mul]
        omega
      have columns := a.columnItems_row debug layer p rank some_weights plain ((k + 1) * l.outExpandThresh)
        (l.outExpandThresh + 1) (k * l.outExpandThresh) (k * each * l.perByte) (by omega)
      rw [span, count, Prod.mk.injEq] at columns
      refine ⟨items ++ (a.columnItems l debug layer p rank ((k + 1) * l.outExpandThresh)
        (l.outExpandThresh + 1) (k * l.outExpandThresh) (k * each * l.perByte)
        (2 ^ l.outExpandThresh - 1)).1, ?_, ?_⟩
      · rw [range_succ, foldl_append, reached]
        refine Prod.ext rfl (columns.2.trans ?_)
        rw [← Nat.add_mul, ← Nat.succ_mul]
      · rw [flatten_append, earlier, columns.1, Nat.succ_mul, range_add, flatMap_append,
          flatMap_map]
        simp only [Nat.add_mul]
  obtain ⟨items, reached, all⟩ := passes l.outExpand
  simp only [outputItems, map, groups, if_true]
  exact (congrArg (·.1.flatten) reached).trans all

end ArrangedKernels

end CnnForge
