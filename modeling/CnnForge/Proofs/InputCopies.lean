import CnnForge.Proofs.InputImage
import Mathlib.Data.List.Sort

namespace CnnForge

open Outcome Bits Accelerator InputLayout CSource
open List hiding count

namespace InputLayout

variable {l : InputLayout} {d : Device} {data : Tensor} {b : InputBlock}

/-- Pixel by pixel, and every pass has one channel for each processor. -/
structure Packed (l : InputLayout) : Prop where
  packed : l.planar = false
  map : l.processors < 1 <<< 64
  threshold : count l.processors = l.inExpandThresh

structure Folded (l : InputLayout) (d : Device) : Prop extends Packed l where
  shared : d.SharesMemory
  some_channels : l.shape.channels ≠ 0

def passes (l : InputLayout) (b : InputBlock) : List InputBlock :=
  (range l.inExpand).map fun e => l.blockAt (b.position % 64 + 64 * e)

def lastBlocks (l : InputLayout) (d : Device) : List InputBlock :=
  (l.blocks d).filter fun b => l.pass b + 1 = l.inExpand

/-- The words of all passes of a block, those of a pixel one after the other. -/
def arrayWords (l : InputLayout) (d : Device) (data : Tensor) (b : InputBlock) : List Int :=
  (range (l.inExpand * (l.shape.pixels * l.operands))).map fun x =>
    (l.word d data (l.blockAt (b.position % 64 + 64 * (x % l.inExpand))) (x / l.inExpand)).value.getD 0

/-- Every block has one of the same processors in the last pass, and none in a later one. -/
def Complete (l : InputLayout) (d : Device) : Prop :=
  ∀ b ∈ l.blocks d, l.pass b < l.inExpand ∧ l.blockAt (b.position % 64 + 64 * (l.inExpand - 1)) ∈ l.blocks d

namespace Folded

variable (folded : l.Folded d)

include folded

theorem mem_iff : b ∈ l.blocks d ↔ ∃ q, q % 4 = 0 ∧ q < 1024 ∧ b = l.blockAt q ∧ l.Used b :=
  mem_blocks folded.shared folded.map folded.packed folded.some_channels

theorem ordered : (l.blocks d).Pairwise fun b b' => b.position < b'.position :=
  blocks_ordered folded.shared folded.map folded.packed folded.some_channels

theorem blockAt_mem {q q' : Nat} (member : l.blockAt q' ∈ l.blocks d) (aligned : q % 4 = 0) (below : q ≤ q')
    (same : q % 64 = q' % 64) : l.blockAt q ∈ l.blocks d := by
  rw [folded.mem_iff] at member ⊢
  obtain ⟨n, _, bound, here, used⟩ := member
  have position : q' = n := congrArg InputBlock.position here
  refine ⟨q, aligned, by omega, rfl, ?_, Nat.lt_of_le_of_lt (l.firstAt_mono below) used.2⟩
  have lanes : (l.blockAt q).lanes = (l.blockAt q').lanes := by rw [blockAt, blockAt, same]
  rw [lanes]
  exact used.1

theorem of_mem_blocks (member : b ∈ l.blocks d) :
    b = l.blockAt b.position ∧ b.position % 4 = 0 ∧ l.pass b = b.position / 64 := by
  obtain ⟨q, aligned, _, rfl, used⟩ := folded.mem_iff.mp member
  exact ⟨rfl, aligned, pass_blockAt folded.threshold used⟩

theorem passes_mem (member : b ∈ l.lastBlocks d) {x : InputBlock} (listed : x ∈ l.passes b) : x ∈ l.blocks d := by
  obtain ⟨here, last⟩ := mem_filter.mp member
  obtain ⟨same, aligned, pass⟩ := folded.of_mem_blocks here
  obtain ⟨e, bound, rfl⟩ := mem_map.mp listed
  have bound := mem_range.mp bound
  have last := of_decide_eq_true last
  rw [same] at here
  exact folded.blockAt_mem here (by omega) (by omega) (by omega)

/-- Up to its last pass, a processor has had a block in every pass. -/
theorem filter_eq_passes {seen rest : List InputBlock} (whole : l.blocks d = seen ++ b :: rest)
    (last : l.pass b + 1 = l.inExpand) :
    (seen ++ [b]).filter (fun x => x.position % 64 = b.position % 64) = l.passes b := by
  have ordered := folded.ordered
  have here : b ∈ l.blocks d := by simp [whole]
  obtain ⟨same, aligned, pass⟩ := folded.of_mem_blocks here
  rw [whole, ← singleton_append, ← append_assoc, pairwise_append] at ordered
  obtain ⟨first, _, between⟩ := ordered
  let before : InputBlock → InputBlock → Prop := fun x y => x.position < y.position
  have antisymm : Std.Antisymm before := ⟨fun _ _ less more => absurd (Nat.lt_trans less more) (Nat.lt_irrefl _)⟩
  have irrefl : Std.Irrefl before := ⟨fun _ => Nat.lt_irrefl _⟩
  refine Pairwise.eq_of_mem_iff (r := before) (first.filter _) ?_ fun x => ?_
  · rw [passes, pairwise_map]
    refine pairwise_lt_range.imp fun less => ?_
    show _ + _ < _ + _
    omega
  rw [mem_filter, decide_eq_true_iff, passes, mem_map]
  constructor
  · rintro ⟨listed, processor⟩
    have member : x ∈ l.blocks d := by
      rw [whole, ← singleton_append, ← append_assoc]
      exact mem_append_left _ listed
    have le : x.position ≤ b.position := by
      rcases mem_append.mp listed with early | now
      · have less := (pairwise_append.mp first).2.2 x early b (by simp)
        omega
      · rw [mem_singleton.mp now]
    refine ⟨x.position / 64, mem_range.mpr (by omega), ?_⟩
    rw [← processor, Nat.mod_add_div]
    exact (folded.of_mem_blocks member).1.symm
  · rintro ⟨e, bound, rfl⟩
    have bound := mem_range.mp bound
    rw [same] at here
    have member := folded.blockAt_mem here (q := b.position % 64 + 64 * e) (by omega) (by omega) (by omega)
    refine ⟨?_, show (_ + 64 * e) % 64 = _ by omega⟩
    rw [whole, ← singleton_append, ← append_assoc] at member
    rcases mem_append.mp member with listed | late
    · exact listed
    · have more : b.position < b.position % 64 + 64 * e := between b (by simp) _ late
      omega

theorem lastBlocks_nodup : ((l.lastBlocks d).map (·.position % 64)).Nodup := by
  have ordered := folded.ordered.filter fun b =>
    decide (l.pass b + 1 = l.inExpand)
  rw [Nodup, pairwise_map]
  refine ordered.imp_of_mem fun here there less => ?_
  obtain ⟨member, last⟩ := mem_filter.mp here
  obtain ⟨member', last'⟩ := mem_filter.mp there
  have pass := (folded.of_mem_blocks member).2.2
  have pass' := (folded.of_mem_blocks member').2.2
  have last := of_decide_eq_true last
  have last' := of_decide_eq_true last'
  omega

end Folded

end InputLayout

namespace DataMemory

section Merging

variable {n m : Nat}

theorem putEvery_ok {i : Nat} (less : i < n) {words : List Int} (length : words.length = m) {a : Array Int}
    (size : a.size = n * m) :
    ∃ a', putEvery a words n i = .ok a' ∧ a'.size = n * m ∧
      ∀ x < n * m, a'[x]? = if x % n = i then words[x / n]? else a[x]? := by
  have places : words.length = (a.size - i + n - 1) / n := by
    rw [length, size]
    cases m with
    | zero => exact (Nat.div_eq_of_lt (by omega)).symm
    | succ m =>
      rw [show n * (m + 1) - i + n - 1 = n * (m + 1) + (n - 1 - i) from by rw [Nat.mul_succ]; omega,
        Nat.mul_add_div (by omega), Nat.div_eq_of_lt (by omega), Nat.add_zero]
  refine ⟨_, if_pos places, by rw [Array.size_mapIdx, size], fun x inside => ?_⟩
  have parts := Nat.mod_add_div x n
  have quotient : x / n < words.length := by rw [length]; exact Nat.div_lt_of_lt_mul inside
  rw [Array.getElem?_mapIdx, Array.getElem?_eq_getElem (by rwa [size]), Option.map_some]
  by_cases here : x % n = i
  · have rest : x - i = n * (x / n) := by omega
    rw [if_pos here, if_pos ⟨by omega, by rw [rest, Nat.mul_mod_right]⟩, rest, Nat.mul_div_cancel_left _ (by omega)]
    simp [quotient]
  · rw [if_neg here, if_neg]
    rintro ⟨le, divides⟩
    obtain ⟨k, multiple⟩ := Nat.dvd_of_mod_eq_zero divides
    rw [show x = i + n * k by omega, Nat.add_mul_mod_self_left, Nat.mod_eq_of_lt less] at here
    exact here rfl

theorem foldlM_putEvery (lists : List (List Int)) (lengths : ∀ words ∈ lists, words.length = m) (i : Nat)
    (bound : i + lists.length ≤ n) {a : Array Int} (size : a.size = n * m) :
    ∃ a', (lists.zipIdx i).foldlM (fun a p => putEvery a p.1 n p.2) a = .ok a' ∧ a'.size = n * m ∧
      ∀ x < n * m, a'[x]? = if i ≤ x % n ∧ x % n < i + lists.length then (lists.getD (x % n - i) [])[x / n]? else a[x]? := by
  induction lists generalizing i a with
  | nil =>
    refine ⟨a, rfl, size, fun x _ => (if_neg ?_).symm⟩
    rw [length_nil]
    omega
  | cons words lists ih =>
    rw [length_cons] at bound
    obtain ⟨a', put, size', value⟩ := putEvery_ok (i := i) (by omega) (lengths words (by simp)) size
    obtain ⟨last, rest, size'', value'⟩ := ih (fun words member => lengths words (by simp [member])) (i + 1) (by omega) size'
    refine ⟨last, ?_, size'', fun x inside => ?_⟩
    · rw [zipIdx_cons, foldlM_cons, put]
      exact rest
    · rw [value' x inside, value x inside, length_cons]
      by_cases here : x % n = i
      · rw [if_neg (by omega), if_pos here, if_pos (by omega), here, Nat.sub_self]
        rfl
      · by_cases later : i + 1 ≤ x % n ∧ x % n < i + 1 + lists.length
        · rw [if_pos later, if_pos (by omega), show x % n - i = x % n - (i + 1) + 1 from by omega, getD_cons_succ]
        · rw [if_neg later, if_neg here, if_neg (by omega)]

theorem mergePasses_ok {lists : List (List Int)} (number : lists.length = n) (lengths : ∀ words ∈ lists, words.length = m) :
    mergePasses lists n (n * m) = .ok ((range (n * m)).map fun x => (lists.getD (x % n) []).getD (x / n) 0) := by
  obtain ⟨a, merged, size, value⟩ := foldlM_putEvery lists lengths 0 (by omega : 0 + lists.length ≤ n)
    (a := Array.replicate (n * m) 0) Array.size_replicate
  have words : a.toList = (range (n * m)).map fun x => (lists.getD (x % n) []).getD (x / n) 0 := by
    apply ext_getElem?
    intro x
    by_cases inside : x < n * m
    · have positive : 0 < n := Nat.pos_of_ne_zero fun zero => by simp [zero] at inside
      have pass : x % n < n := Nat.mod_lt _ positive
      have here : x % n < lists.length := by omega
      have length := lengths _ (getElem_mem here)
      have place : x / n < lists[x % n].length := by rw [length]; exact Nat.div_lt_of_lt_mul inside
      rw [Array.getElem?_toList, value x inside, if_pos (by omega), getElem?_map, getElem?_range inside]
      simp [getD_eq_getElem?_getD, here, place]
    · rw [getElem?_eq_none (by simpa [size] using inside), getElem?_eq_none (by simpa using inside)]
  rw [← words]
  show (do
    let a ← (lists.zipIdx 0).foldlM (fun a (p : List Int × Nat) => putEvery a p.1 n p.2) (Array.replicate (n * m) 0)
    return a.toList) = _
  rw [merged]
  rfl

end Merging

def InputCopy.call (base : Int) (c : InputCopy) : String :=
  s!"  memcpy32((uint32_t *) 0x{Text.hex 8 (base + c.address)}, input_{c.array}, {c.words});\n"

def InputCopy.stores (base : Int) (array : List Int) (c : InputCopy) : List Store :=
  (range c.words).map fun (i : Nat) => ⟨c.address + 4 * i + base, array.getD i 0, ""⟩

section Arrays

variable {w : Setup} {main header : Sink} {E : Prop} {l : InputLayout} {data : Tensor} {b : InputBlock}

def copyOf (l : InputLayout) (d : Device) (b : InputBlock) : InputCopy where
  address := l.start d (l.blockAt (b.position % 64))
  array := b.position % 64
  words := l.shape.pixels * l.operands * l.inExpand

def arrayText (l : InputLayout) (d : Device) (data : Tensor) (b : InputBlock) : String :=
  arrayDefine s!"SAMPLE_INPUT_{b.position % 64}" .hexWord 8 (l.arrayWords d data b)

def arrayHead (o : Options) (l : InputLayout) (b : InputBlock) : String :=
  String.join ((l.passes b).map (describe l.shape)) ++ ((if o.riscvFlash then flashAttribute else "") ++
    s!"static const uint32_t input_{b.position % 64}[] = SAMPLE_INPUT_{b.position % 64};\n\n")

/-- The function that copies all arrays. Without arrays, only its end is written. -/
def copyText (o : Options) (copies : List InputCopy) : String :=
  (if copies = [] then "" else
    functionHeader o { lead := "", function := "load_input", returnType := "void" } ++
      ("  // This function loads the sample data input -- replace with actual data\n\n" ++
        String.join (copies.map (InputCopy.call o.apbBase)))) ++ functionFooter "void"

theorem share_swap (k : Sink) (other : main ≠ header) (t t' : String) :
    share k header t ++ share k main t' = share k main t' ++ share k header t := by
  unfold share
  by_cases here : main = k
  · rw [if_neg fun same => other (here.trans same.symm), String.empty_append, String.append_empty]
  · rw [if_neg here, String.empty_append, String.append_empty]

/-- Arrays go to `header` and all other text to `main`, and the data is given. -/
structure Embeds (w : Setup) (main header : Sink) : Prop where
  file : w.settings.mainFile = some main
  defined : w.settings.sampleDataHeader = some header
  apart : Separable w.sink main
  apart' : Separable w.sink header
  other : main ≠ header
  given : w.options.fixedInput = false
  all : w.options.synthesizeInput = none

namespace Loads

variable {α : Type} {t : String} (into : Embeds w main header)

theorem ifProgram {act : BusSettings → Run Unit} (acts : Loads E w t [] (fun _ => True) (act w.settings)) :
    Loads E w t [] (fun _ => True) (Bus.ifProgram act) := by
  unfold Bus.ifProgram
  refine get fun s writing => ?_
  rw [writing.kind]
  refine get fun s writing => ?_
  rw [writing.settings]
  exact acts

include into in
theorem output_main (t : String) : Loads E w (share w.sink main t) [] (fun _ => True) (Bus.output t) :=
  output into.file into.apart t

include into in
theorem defineArray (items : List Int) (name : String) :
    Loads E w (share w.sink header (arrayDefine name .hexWord 8 items)) [] (fun _ => True)
      (Bus.defineArray items name "0x%08x" 8 false) := by
  refine ifProgram ?_
  rw [into.defined]
  refine reads (a := .hexWord) (fun _ _ => rfl) (reads (a := header) (fun _ _ => rfl) ?_)
  rw [show (decide ((8 : Int) = 0) && decide (items.length > 1)) = false from rfl]
  exact emit into.apart' _

theorem forIn {t : α → String} {f : α → PUnit → Run (ForInStep PUnit)} {x : α → Run Unit} (items : List α)
    (same : ∀ a u, f a u = x a >>= fun _ => Pure.pure (ForInStep.yield ⟨⟩))
    (step : ∀ a ∈ items, Loads E w (t a) [] (fun _ => True) (x a)) :
    Loads E w (String.join (items.map t)) [] (fun _ => True) (forIn items PUnit.unit f) := by
  induction items with
  | nil => exact pure trivial
  | cons item items ih =>
    rw [forIn_cons, same, bind_assoc, map_cons, String.join_cons]
    refine adds (step item (by simp)) fun _ _ => ?_
    rw [pure_bind]
    exact ih fun a member => step a (by simp [member])

include into in
theorem defineInput (n : Nat) (words : List Int) :
    Loads E w (share w.sink header (arrayDefine s!"SAMPLE_INPUT_{n}" .hexWord 8 words) ++
        share w.sink main ((if w.options.riscvFlash then flashAttribute else "") ++
          s!"static const uint32_t input_{n}[] = SAMPLE_INPUT_{n};\n\n")) [] (fun _ => True)
      (defineInput w.options n words) := by
  have last : Loads E w _ [] (fun _ => True) (Bus.output s!"static const uint32_t input_{n}[] = SAMPLE_INPUT_{n};\n\n") :=
    output_main into _
  unfold DataMemory.defineInput
  rw [storedWords, into.all, into.given]
  refine adds (defineArray into words _) fun _ _ => ?_
  rw [← share_append]
  cases w.options.riscvFlash with
  | true => exact adds (output_main into _) fun _ _ => last
  | false =>
    rw [if_neg Bool.false_ne_true, share_empty, String.empty_append]
    exact last

include into in
theorem copyInputs (copies : List InputCopy) :
    Loads E w (share w.sink main (copyText w.options copies)) [] (fun _ => True)
      (copyInputs w.options copies.toArray) := by
  have closes : Loads E w (share w.sink main (functionFooter "void")) [] (fun _ => True)
      (Bus.functionFooter "void" false) := by
    refine ifProgram ?_
    rw [into.file]
    exact emit into.apart _
  have opens : Loads E w (share w.sink main (functionHeader w.options
      { lead := "", function := "load_input", returnType := "void" } ++
        "  // This function loads the sample data input -- replace with actual data\n\n")) [] (fun _ => True) openLoadInput := by
    rw [← share_append]
    refine adds (ifProgram ?_) fun _ _ => output_main into _
    rw [into.file]
    exact options (emit into.apart _)
  unfold DataMemory.copyInputs
  rw [copyText, into.given, ← share_append]
  cases copies with
  | nil =>
    rw [if_pos rfl, share_empty, String.empty_append]
    exact closes
  | cons c copies =>
    rw [if_neg (by simp), ← String.append_assoc, ← share_append, String.append_assoc]
    refine adds opens fun _ _ => ?_
    rw [← join_share, forIn_toArray]
    refine adds (forIn (c :: copies) (fun _ _ => rfl) fun c _ => ?_) fun _ _ => closes
    exact output_main into _

def bufferOf (l : InputLayout) (d : Device) (data : Tensor) (b : InputBlock) : PassBuffer where
  words := (l.packedWords d data b).map fun x => x.value.getD 0
  address := l.start d b
  first := b.first
  last := b.first + b.count - 1

def loading (l : InputLayout) (d : Device) (data : Tensor) (seen : List InputBlock) : Loading where
  last := seen.getLast?.map (l.packedEnd d)
  copies := ((seen.filter fun b => l.pass b + 1 = l.inExpand).map (copyOf l d)).toArray
  waiting := seen.map fun b => (b.position % 64, bufferOf l d data b)

theorem mergePasses_passes (l : InputLayout) (d : Device) (data : Tensor) (b : InputBlock) :
    mergePasses ((l.passes b).map fun b => (bufferOf l d data b).words) l.inExpand
      (l.inExpand * (l.shape.pixels * l.operands)) = .ok (l.arrayWords d data b) := by
  rw [mergePasses_ok (by simp [passes]) (by simp [bufferOf, packedWords_eq])]
  refine congrArg Except.ok (map_congr_left fun x member => ?_)
  have inside := mem_range.mp member
  have positive : 0 < l.inExpand := Nat.pos_of_ne_zero fun zero => by simp [zero] at inside
  have pass := Nat.mod_lt x positive
  have place : x / l.inExpand < l.shape.pixels * l.operands := Nat.div_lt_of_lt_mul inside
  simp [passes, bufferOf, packedWords_eq, getD_eq_getElem?_getD, pass, place]

include into in
theorem loadPacked_embedded (folded : l.Folded w.device) {seen rest : List InputBlock}
    (whole : l.blocks w.device = seen ++ b :: rest) (fails : ∀ x ∈ l.packedWords w.device data b, ¬Fits w.room x → E) :
    Loads E w (if l.pass b + 1 = l.inExpand then share w.sink main (arrayHead w.options l b) ++
        share w.sink header (arrayText l w.device data b) else "")
      (blockRecords l w.device w.room data b) (· = loading l w.device data (seen ++ [b]))
      (loadPacked true l data b (loading l w.device data seen)) := by
  have words := loadWords true (fun never => (by cases never)) into.apart fails
  unfold loadPacked
  refine options (device (claims words fun values same => ?_))
  subst same
  rw [folded.shared.processors]
  refine ite (fun never => (by cases never)) fun _ => ite (fun early => ?_) fun last => ?_
  · rw [if_neg early]
    refine pure ?_
    simp [loading, bufferOf, early]
  · have last := Decidable.not_not.mp last
    have first : (l.passes b).head? = some (l.blockAt (b.position % 64)) := by
      rw [passes, ← last, range_succ_eq_map]
      rfl
    have own : (((loading l w.device data seen).waiting ++ [(b.position % 64, bufferOf l w.device data b)]).filter
        fun x => decide (x.1 = b.position % 64)).map (fun x => x.2) = (l.passes b).map (bufferOf l w.device data) := by
      have both := folded.filter_eq_passes whole last
      rw [← both]
      simp [loading, filter_map, Function.comp_def]
    have size : (l.pass b + 1) * l.operands * l.shape.pixels = l.inExpand * (l.shape.pixels * l.operands) := by
      rw [last, Nat.mul_assoc, Nat.mul_comm l.operands]
    have ranges : (l.passes b).map (fun b => share w.sink main (describe l.shape b)) =
        ((l.passes b).map (bufferOf l w.device data)).map fun x => share w.sink main (channelRange l.shape x.first x.last) := by
      rw [map_map]
      rfl
    rw [if_pos last, arrayHead, ← share_append, String.append_assoc, ← share_swap w.sink into.other, ← join_share, ranges]
    dsimp only
    simp only [bufferOf] at own
    rw [own, size]
    refine adds (forIn _ (fun _ _ => rfl) fun x _ => output_main into _) fun _ _ => ?_
    refine reads (a := l.arrayWords w.device data b) (fun _ _ => ?_)
      (ending (defineInput into _ _) fun _ _ => pure ?_)
    · rw [map_map, Function.comp_def, mergePasses_passes]
      rfl
    · simp [loading, bufferOf, last, first, copyOf, packedWords_eq]

include into in
theorem load_embedded (shares : w.device.SharesMemory) (packed : l.Packed) (memory : w.options.fifo = false)
    (fails : ¬Accepts w l data → E) :
    Loads E w (share w.sink main (title l.shape) ++ (String.join ((l.lastBlocks w.device).map fun b =>
        share w.sink main (arrayHead w.options l b) ++ share w.sink header (arrayText l w.device data b)) ++
          share w.sink main (copyText w.options ((l.lastBlocks w.device).map (copyOf l w.device)))))
      ((l.blocks w.device).flatMap (blockRecords l w.device w.room data)) (fun _ => l.shape.channels ≠ 0)
      (DataMemory.load true l data) := by
  refine load true memory (fun fixed => (by rw [into.given] at fixed; cases fixed)) ?_
  have listed := loadMemory (loading l w.device data) into.file into.apart packed.packed fails rfl (fun _ => rfl)
    (fun some_channels seen b rest whole => loadPacked_embedded into ⟨packed, shares, some_channels⟩ whole
      fun x member wrong => fails fun accepts => wrong (accepts.words b (by simp [whole]) x member))
    (copyInputs into ((l.lastBlocks w.device).map (copyOf l w.device)))
  have filtered := join_filter (l.blocks w.device) (fun b => l.pass b + 1 = l.inExpand) fun b =>
    share w.sink main (arrayHead w.options l b) ++ share w.sink header (arrayText l w.device data b)
  simp only [decide_eq_true_iff] at filtered
  rwa [filtered] at listed

end Loads

end Arrays

section Images

variable {l : InputLayout} {d : Device} {base : Int} {data : Tensor} {b : InputBlock}

theorem mem_blockStores {s : Store} : s ∈ blockStores l d base data b ↔
    ∃ j < l.shape.pixels * l.operands, ⟨(l.word d data b j).address + base, (l.word d data b j).value.getD 0, ""⟩ = s := by
  rw [blockStores, packedWords_eq, map_map, mem_map]
  simp only [mem_range, Function.comp_apply]

/-- Stores at different addresses can be made in any order, and more than once. -/
theorem execute_of_same {stores stores' : List Store} (same : ∀ s, s ∈ stores' ↔ s ∈ stores)
    (once : (stores.map (·.address)).Nodup) (file : RegisterFile) : execute stores' file = execute stores file := by
  funext a
  by_cases found : ∃ s ∈ stores, s.address = a
  · obtain ⟨s, member, rfl⟩ := found
    have agree : ∀ s' ∈ stores, s'.address = s.address → s'.value = s.value := by
      intro s' member' here
      rw [inj_on_of_nodup_map once member' member here]
    rw [execute_common ⟨s, member, rfl⟩ agree,
      execute_common ⟨s, (same s).mpr member, rfl⟩ fun s' member' => agree s' ((same s').mp member')]
  · rw [execute_untouched fun s member here => found ⟨s, member, here⟩,
      execute_untouched fun s member here => found ⟨s, (same s).mp member, here⟩]

variable (folded : l.Folded d)

include folded

section

variable (regular : l.inExpand = 1 ∨ l.offset = 0 ∧ l.operands = 1) (member : b ∈ l.lastBlocks d)
include regular member

theorem pass_address {e : Nat}
    (bound : e < l.inExpand) (j : Nat) :
    (l.word d data (l.blockAt (b.position % 64 + 64 * e)) j).address =
      (copyOf l d b).address + 4 * (j * l.inExpand + e : Nat) := by
  have listed : ∀ n < l.inExpand, l.pass (l.blockAt (b.position % 64 + 64 * n)) = n := by
    intro n less
    have here := folded.passes_mem member (mem_map.mpr ⟨n, mem_range.mpr less, rfl⟩)
    rw [(folded.of_mem_blocks here).2.2]
    show (b.position % 64 + 64 * n) / 64 = n
    omega
  have pass := listed e bound
  have zero : l.pass (l.blockAt (b.position % 64)) = 0 := listed 0 (by omega)
  rcases regular with one | ⟨aligned, single⟩
  · obtain rfl : e = 0 := by omega
    have parts : ((j / l.operands : Nat) * l.operands + (j % l.operands : Nat) : Int) = j := by
      rw [← Int.natCast_mul, ← Int.natCast_add, Nat.div_add_mod']
    simp only [copyOf, InputLayout.word, one, Nat.mul_zero, Nat.add_zero, Nat.mul_one, Int.natCast_one, Int.mul_one, parts]
  · have places : (b.position % 64 + 64 * e) % 64 = b.position % 64 % 64 ∧
        (b.position % 64 + 64 * e) % 16 = b.position % 64 % 16 := by omega
    simp only [copyOf, InputLayout.word, start, folded.shared.processors, folded.shared.group, pass, zero, aligned, single]
    simp only [blockAt, places, ite_self, Nat.div_one, Nat.mod_one]
    push_cast
    rw [Int.mul_one, Int.mul_one]
    omega

theorem copyOf_stores :
    (copyOf l d b).stores base (l.arrayWords d data b) = (range (l.inExpand * (l.shape.pixels * l.operands))).map fun x =>
      let word := l.word d data (l.blockAt (b.position % 64 + 64 * (x % l.inExpand))) (x / l.inExpand)
      ⟨word.address + base, word.value.getD 0, ""⟩ := by
  rw [InputCopy.stores, show (copyOf l d b).words = l.inExpand * (l.shape.pixels * l.operands) from Nat.mul_comm _ _]
  refine map_congr_left fun x listed => ?_
  have inside := mem_range.mp listed
  have positive : 0 < l.inExpand := Nat.pos_of_ne_zero fun zero => by simp [zero] at inside
  have place : x / l.inExpand * l.inExpand + x % l.inExpand = x := Nat.div_add_mod' x l.inExpand
  have value : (l.arrayWords d data b).getD x 0 =
      (l.word d data (l.blockAt (b.position % 64 + 64 * (x % l.inExpand))) (x / l.inExpand)).value.getD 0 := by
    simp [arrayWords, getD_eq_getElem?_getD, inside]
  dsimp only
  rw [value, pass_address folded regular member (Nat.mod_lt x positive), place]

theorem mem_copy (s : Store) :
    s ∈ (copyOf l d b).stores base (l.arrayWords d data b) ↔ s ∈ (l.passes b).flatMap (blockStores l d base data) := by
  rw [copyOf_stores folded regular member, mem_map, mem_flatMap]
  constructor
  · rintro ⟨x, listed, rfl⟩
    have inside := mem_range.mp listed
    have positive : 0 < l.inExpand := Nat.pos_of_ne_zero fun zero => by simp [zero] at inside
    refine ⟨_, mem_map.mpr ⟨x % l.inExpand, mem_range.mpr (Nat.mod_lt x positive), rfl⟩, ?_⟩
    exact mem_blockStores.mpr ⟨x / l.inExpand, Nat.div_lt_of_lt_mul inside, rfl⟩
  · rintro ⟨y, here, written⟩
    obtain ⟨e, listed, rfl⟩ := mem_map.mp here
    obtain ⟨j, inside, rfl⟩ := mem_blockStores.mp written
    have bound := mem_range.mp listed
    have less : l.inExpand * (j + 1) ≤ l.inExpand * (l.shape.pixels * l.operands) := Nat.mul_le_mul_left _ inside
    rw [Nat.mul_succ] at less
    refine ⟨l.inExpand * j + e, mem_range.mpr (by omega), ?_⟩
    simp only [Nat.mul_add_mod, Nat.mod_eq_of_lt bound, Nat.mul_add_div (Nat.zero_lt_of_lt bound), Nat.div_eq_of_lt bound,
      Nat.add_zero]

end

theorem mem_copies (complete : l.Complete d) (regular : l.inExpand = 1 ∨ l.offset = 0 ∧ l.operands = 1) (s : Store) :
    s ∈ (l.lastBlocks d).flatMap (fun b => (copyOf l d b).stores base (l.arrayWords d data b)) ↔
      s ∈ (l.blocks d).flatMap (blockStores l d base data) := by
  rw [mem_flatMap, mem_flatMap]
  constructor
  · rintro ⟨b, last, copied⟩
    obtain ⟨y, here, written⟩ := mem_flatMap.mp ((mem_copy folded regular last s).mp copied)
    exact ⟨y, folded.passes_mem last here, written⟩
  · rintro ⟨y, here, written⟩
    obtain ⟨bound, final⟩ := complete y here
    obtain ⟨same, _, pass⟩ := folded.of_mem_blocks here
    have pass' := (folded.of_mem_blocks final).2.2
    have position : (y.position % 64 + 64 * (l.inExpand - 1)) / 64 = l.inExpand - 1 ∧
        (y.position % 64 + 64 * (l.inExpand - 1)) % 64 = y.position % 64 := by omega
    have last : l.blockAt (y.position % 64 + 64 * (l.inExpand - 1)) ∈ l.lastBlocks d := by
      refine mem_filter.mpr ⟨final, decide_eq_true ?_⟩
      rw [pass', show (l.blockAt _).position / 64 = _ from position.1]
      omega
    refine ⟨_, last, (mem_copy folded regular last s).mpr (mem_flatMap.mpr ⟨y, ?_, written⟩)⟩
    refine mem_map.mpr ⟨y.position / 64, mem_range.mpr (by omega), ?_⟩
    rw [show (l.blockAt _).position % 64 = _ from position.2, Nat.mod_add_div]
    exact same.symm

theorem copies_eq (complete : l.Complete d) (one : l.inExpand = 1) :
    (l.lastBlocks d).flatMap (fun b => (copyOf l d b).stores base (l.arrayWords d data b)) =
      (l.blocks d).flatMap (blockStores l d base data) := by
  have all : l.lastBlocks d = l.blocks d := by
    refine filter_eq_self.mpr fun b member => decide_eq_true ?_
    have bound := (complete b member).1
    omega
  rw [all]
  refine flatMap_congr fun b member => ?_
  obtain ⟨same, _, pass⟩ := folded.of_mem_blocks member
  have bound := (complete b member).1
  rw [copyOf_stores folded (.inl one) (by rwa [all]), blockStores, packedWords_eq, map_map]
  simp only [one, Nat.mod_one, Nat.div_one, Nat.one_mul, Nat.mul_zero, Nat.add_zero]
  rw [show b.position % 64 = b.position from by omega, ← same]
  rfl

end Images

section Modes

variable {l : InputLayout} {d : Device} {o : Options} {data : Tensor} {c c' : BusSettings} {room room' : Nat}
  {main main' header : Sink} {before after before' after' : Session}

theorem embedded_run (shares : d.SharesMemory) (packed : l.Packed) (memory : o.fifo = false)
    (given : o.fixedInput = false) (all : o.synthesizeInput = none)
    (writing : ∀ sink ∈ [main, header], Writing ⟨d, o, c, room, sink⟩ before) (file : c.mainFile = some main)
    (defined : c.sampleDataHeader = some header) (apart : main.place ≠ header.place)
    (run : (load true l data).run before = .ok () after) :
    after.text main = before.text main ++ (title l.shape ++ (String.join ((l.lastBlocks d).map (arrayHead o l)) ++
      copyText o ((l.lastBlocks d).map (copyOf l d)))) ∧
    after.text header = before.text header ++ String.join ((l.lastBlocks d).map (arrayText l d data)) := by
  have other : main ≠ header := fun same => apart (by rw [same])
  have program : Loads True ⟨d, o, c, room, main⟩ _ _ _ (load true l data) :=
    Loads.load_embedded ⟨file, defined, .inl rfl, .inr apart, other, given, all⟩ shares packed memory fun _ => trivial
  have samples : Loads True ⟨d, o, c, room, header⟩ _ _ _ (load true l data) :=
    Loads.load_embedded ⟨file, defined, .inr apart.symm, .inl rfl, other, given, all⟩ shares packed memory fun _ => trivial
  obtain ⟨_, program, _, _⟩ := (program before (writing main (by simp))).2 _ _ run
  obtain ⟨_, samples, _, _⟩ := (samples before (writing header (by simp))).2 _ _ run
  simp only [share, if_neg other, if_neg other.symm, String.append_empty, String.empty_append] at program samples
  exact ⟨program, samples⟩

/-- Arrays of input data and the calls that copy them leave the same words as single stores in one pass. In several
passes they do so for a single operand at offset zero, if all processors have channels in the last pass. -/
theorem copies_leave_stores (shares : d.SharesMemory) (packed : l.Packed) (memory : o.fifo = false)
    (given : o.fixedInput = false) (all : o.synthesizeInput = none)
    (single : Writing ⟨d, o, c, room, main⟩ before) (file : c.mainFile = some main) (library : c.apiFile = none)
    (embedded : ∀ sink ∈ [main', header], Writing ⟨d, o, c', room', sink⟩ before') (file' : c'.mainFile = some main')
    (defined : c'.sampleDataHeader = some header) (apart : main'.place ≠ header.place)
    (run : (load false l data).run before = .ok () after) (run' : (load true l data).run before' = .ok () after') :
    let stores := blockStores l d o.apbBase data
    let copied := fun b => (copyOf l d b).stores o.apbBase (l.arrayWords d data b)
    after.text main = before.text main ++ singleText l d o.apbBase c.verifyWrites data ∧
    after'.text main' = before'.text main' ++ (title l.shape ++ (String.join ((l.lastBlocks d).map (arrayHead o l)) ++
      copyText o ((l.lastBlocks d).map (copyOf l d)))) ∧
    after'.text header = before'.text header ++ String.join ((l.lastBlocks d).map (arrayText l d data)) ∧
    ((l.lastBlocks d).map (·.position % 64)).Nodup ∧
    (l.Complete d → l.inExpand = 1 ∨ l.offset = 0 ∧ l.operands = 1 ∧ o.noErrorStop = false →
      (∀ registers, execute ((l.lastBlocks d).flatMap copied) registers = execute ((l.blocks d).flatMap stores) registers) ∧
      ∀ b ∈ l.lastBlocks d, ∀ s, s ∈ copied b ↔ s ∈ (l.passes b).flatMap stores) := by
  intro stores copied
  obtain ⟨text, taken, some_channels⟩ := single_run single file library packed.packed memory run
  have folded : l.Folded d := ⟨packed, shares, some_channels⟩
  obtain ⟨program, samples⟩ := embedded_run shares packed memory given all embedded file' defined apart run'
  refine ⟨text, program, samples, folded.lastBlocks_nodup, fun complete regular => ?_⟩
  refine ⟨fun registers => ?_, fun b member s => mem_copy folded (regular.imp id fun r => ⟨r.1, r.2.1⟩) member s⟩
  rcases regular with one | ⟨aligned, operand, stops⟩
  · exact congrArg (execute · registers) (copies_eq folded complete one)
  · exact execute_of_same (mem_copies folded complete (.inr ⟨aligned, operand⟩))
      (stores_once _ d o.apbBase taken stops) registers

end Modes

def foldedInput : InputLayout := { processors := 0x21, shape := ⟨4, 1, 2⟩, inExpand := 2, inExpandThresh := 2 }

def foldedData : Tensor := .ofFn [4, 1, 2] fun k => 10 * k

def operandInput : InputLayout := { processors := 1, shape := ⟨2, 1, 1⟩, inExpand := 2, operands := 2, inExpandThresh := 1 }

def operandData : Tensor := .ofFn [4, 1, 1] fun k => k + 1

theorem inputSession_sinks : ∀ sink ∈ [Sink.stream "program", Sink.stream "samples"],
    Writing (inputSetup false sink) (inputSession false) := by
  simpa using ⟨inputSession_writing false "program", inputSession_writing false "samples"⟩

theorem loads_both {l : InputLayout} (data : Tensor) (packed : l.Packed)
    (accepts : Accepts (inputSetup false (.stream "program")) l data)
    (free : Free ((l.blocks .max78000).flatMap (blockRecords l .max78000 0x1000000 data)) ∅) :
    ∃ after after', (load false l data).run (inputSession false) = .ok () after ∧
      (load true l data).run (inputSession false) = .ok () after' := by
  have writing := inputSession_writing false "program"
  have single : Loads False (inputSetup false (.stream "program")) _ _ _ (load false l data) :=
    Loads.load_single rfl rfl (.inl rfl) packed.packed rfl fun refused => refused accepts
  have embedded : Loads False (inputSetup false (.stream "program")) _ _ _ (load true l data) :=
    Loads.load_embedded ⟨rfl, rfl, .inl rfl, .inr (by decide), by decide, rfl, rfl⟩ max78000_sharesMemory packed rfl
      fun refused => refused accepts
  obtain ⟨_, after, run⟩ := single.returns writing fun _ => free
  obtain ⟨_, after', run'⟩ := embedded.returns writing fun _ => free
  exact ⟨after, after', run, run'⟩

theorem folded_packed : foldedInput.Packed := ⟨rfl, by decide, by decide⟩

theorem copies_leave_stores_folded :
    ∃ after after', (load false foldedInput foldedData).run (inputSession false) = .ok () after ∧
      (load true foldedInput foldedData).run (inputSession false) = .ok () after' ∧
      ∀ registers, execute ((foldedInput.lastBlocks .max78000).flatMap fun b =>
          (copyOf foldedInput .max78000 b).stores 0 (foldedInput.arrayWords .max78000 foldedData b)) registers =
        execute ((foldedInput.blocks .max78000).flatMap (blockStores foldedInput .max78000 0 foldedData)) registers := by
  obtain ⟨after, after', run, run'⟩ := loads_both foldedData folded_packed
    ⟨rfl, by decide, by decide, by decide, by decide, by decide⟩ ⟨by decide, fun _ _ => by simp⟩
  refine ⟨after, after', run, run', ?_⟩
  have both := copies_leave_stores max78000_sharesMemory folded_packed rfl rfl rfl
    (inputSession_writing false "program") rfl rfl inputSession_sinks rfl rfl (by decide) run run'
  exact (both.2.2.2.2 (by unfold InputLayout.Complete; decide) (.inr ⟨rfl, rfl, rfl⟩)).1

/-- The array has the operands of both passes in turn, single stores put those of a pass side by side. -/
theorem copies_mix_operands :
    let stores := (operandInput.blocks .max78000).flatMap (blockStores operandInput .max78000 0 operandData)
    let copied := (operandInput.lastBlocks .max78000).flatMap fun b =>
      (copyOf operandInput .max78000 b).stores 0 (operandInput.arrayWords .max78000 operandData b)
    ∃ after after', (load false operandInput operandData).run (inputSession false) = .ok () after ∧
      (load true operandInput operandData).run (inputSession false) = .ok () after' ∧
      after.text (.stream "program") = singleText operandInput .max78000 0 false operandData ∧
      after'.text (.stream "samples") = arrayDefine "SAMPLE_INPUT_0" .hexWord 8 [1, 2, 3, 4] ∧
      ∀ registers, execute stores registers 0x400004 = 3 ∧ execute copied registers 0x400004 = 2 := by
  have packed : operandInput.Packed := ⟨rfl, by decide, by decide⟩
  obtain ⟨after, after', run, run'⟩ := loads_both operandData packed
    ⟨rfl, by decide, by decide, by decide, by decide, by decide⟩ ⟨by decide, fun _ _ => by simp⟩
  obtain ⟨text, _⟩ := single_run (inputSession_writing false "program") rfl rfl rfl rfl run
  obtain ⟨_, samples⟩ := embedded_run max78000_sharesMemory packed rfl rfl rfl inputSession_sinks rfl rfl (by decide) run'
  refine ⟨after, after', run, run', text.trans ?_, samples.trans ?_, fun registers => ⟨rfl, rfl⟩⟩
  · rw [show (inputSetup false (.stream "program")).sink = .stream "program" from rfl, inputSession_text, String.empty_append]
    rfl
  · rw [inputSession_text, String.empty_append]
    rfl

end DataMemory

end CnnForge
