import CnnForge.Proofs.KernelOwnership
import CnnForge.Proofs.KernelPort
import CnnForge.Proofs.SessionText

namespace CnnForge

open Outcome List Bus KernelRun KernelPort

variable {p column : Nat} {x : Nat × ColumnRange} {w : KernelWord}

/-- A statement of the function that loads kernels. Addresses count from the start of the bus, and
arrays have the number of their processor. -/
inductive LoadStatement where
  | store (address value : Int) (comment : String)
  | compare (address value : Int)
  /-- Kernels of three words are copied to memory in which they take four. -/
  | copy (address : Int) (array count : Nat)
  /-- A byte sets processor and column, and words are copied after it. -/
  | stream (byte address : Int) (array count : Nat)
deriving Repr

structure LoadProgram where
  arrays : List (Nat × List Int) := []
  statements : List LoadStatement

namespace LoadStatement

/-- The words that a copy of `count` kernels stores: three from the array, and one that executes the
write. -/
def copied (address : Int) (words : List Int) (count : Nat) : List (Int × Int) :=
  (range count).flatMap fun i : Nat =>
    [(address + 16 * i, words.getD (3 * i) 0), (address + 16 * i + 4, words.getD (3 * i + 1) 0),
      (address + 16 * i + 8, words.getD (3 * i + 2) 0), (address + 16 * i + 12, 0)]

/-- What a statement does to the hardware; it fails where an array ends too early, where an address is
not that of kernels and where a word differs. -/
def run (d : Device) (arrays : List (Nat × List Int)) (port : KernelPort) : LoadStatement → Option KernelPort
  | store address value _ => port.store d address value
  | compare address value => if port.load? d address = some value then some port else none
  | copy address array count => do
    let words ← arrays.lookup array
    if 3 * count ≤ words.length then port.storeAll d (copied address words count) else none
  | stream byte address array count => do
    let words ← arrays.lookup array
    let port ← port.seek d byte
    if count ≤ words.length then
      port.storeAll d ((words.take count).zipIdx.map fun x => (address + 4 * x.2, x.1))
    else none

def reads : LoadStatement → Option (Nat × Nat)
  | store .. | compare .. => none
  | copy _ array count => some (array, 3 * count)
  | stream _ _ array count => some (array, count)

def emit (base : Int) (api : Bool) : LoadStatement → Run Unit
  | store address value comment => write address value { noVerify := true, comment }
  | compare address value => verify address value { api := true }
  | copy address array count =>
    output (s!"  memcpy_96to128((uint32_t *) 0x{Text.hex 8 (base + address)}, "
      ++ s!"kernels_{array}, {count});\n") api
  | stream byte address array count =>
    output (s!"  *((volatile uint8_t *) 0x{Text.hex 8 (base + byte)}) = 0x01; " ++ "// Set address\n"
      ++ s!"  memcpy32((uint32_t *) 0x{Text.hex 8 (base + address)}, kernels_{array}, " ++ s!"{count});\n") api

end LoadStatement

namespace LoadProgram

def execute (d : Device) (program : LoadProgram) (port : KernelPort) : Option KernelPort :=
  program.statements.foldlM (LoadStatement.run d program.arrays) port

/-- How kernels are loaded: by single writes, from arrays of words, or from arrays of bytes. -/
inductive Style where
  | inline | plain | packed
deriving Repr, DecidableEq

def emitArrays (program : LoadProgram) (flash api : Bool) : Style → Run Unit
  | .inline => pure ()
  | .plain => do
    output "// Kernels:\n" api
    program.arrays.forM fun a => defineArray a.2 s!"KERNELS_{a.1}" "0x%08x" 8
    program.arrays.forM fun a => KernelMemory.declareArray a.1 flash api
    output "\n" api
    KernelMemory.copyFunction api
  | .packed => do
    output "// Kernels:\n" api
    program.arrays.forM fun a => do
      defineArray a.2 s!"KERNELS_{a.1}" "0x%08x" 8
      KernelMemory.declareArray a.1 flash api
    output "\n" api

def emit (program : LoadProgram) (o : Options) (api : Bool) (style : Style) : Run Unit := do
  program.emitArrays (o.riscvFlash && !o.riscvCache) api style
  functionHeader { function := "load_weights" }
  program.statements.forM (LoadStatement.emit o.apbBase api)
  functionFooter

end LoadProgram

namespace KernelMemory

def Sound (m : KernelMemory) : Prop := ∀ p column, IsKernel (m.bytesAt p column)

/-- The words of processor `p` that are written one by one. Words of zeros can be left out. -/
def writtenWords (m : KernelMemory) (d : Device) (skipZero : Bool) (p : Nat) : List (Nat × KernelWord) :=
  (m.row d p).filter fun x => !(skipZero && x.2.bytes.all (· = 0))

def kernelNote (layer p column : Int) (i : Nat) : String :=
  if i = 0 then s!" // Layer {layer}: processor {p} kernel #{column}" else ""

def kernelStatements (d : Device) (compare : Bool) (p column : Nat) (w : KernelWord) : List LoadStatement :=
  let address := kernelAddress d p column
  let words := (kernelWords w.bytes).zipIdx
  (words.map fun x => .store (address + 4 * x.2) x.1 (kernelNote w.layer p column x.2))
    ++ if compare then words.map fun x => .compare (address + 4 * x.2) x.1 else []

def inlineProgram (m : KernelMemory) (d : Device) (skipZero compare : Bool) : LoadProgram where
  statements := (range d.maxProcessors).flatMap fun p =>
    (m.writtenWords d skipZero p).flatMap fun x => kernelStatements d compare p x.1 x.2

def plainProgram (m : KernelMemory) (d : Device) (legacy : Bool) : LoadProgram where
  arrays := (m.runs d legacy).map fun r => (r.processor, m.plainWords r)
  statements := (m.runs d legacy).map fun r =>
    .copy (baseAddress d r.processor + r.columns.first * 16) r.processor r.size

def packedProgram (m : KernelMemory) (d : Device) (legacy : Bool) : LoadProgram where
  arrays := (range d.maxProcessors).filterMap fun p =>
    (m.columns? d legacy p).map fun c => (p, m.packedWords p c)
  statements := (m.runs d legacy).map fun r =>
    .stream (baseAddress d r.processor + r.columns.first * 4 + 1) (baseAddress d r.processor) r.processor
      ((r.size * 9 + 3) / 4)

def loadProgram (m : KernelMemory) (d : Device) (o : Options) (compare : Bool) : LoadProgram.Style → LoadProgram
  | .inline => m.inlineProgram d o.zeroSram compare
  | .plain => m.plainProgram d o.legacyKernels
  | .packed => m.packedProgram d o.legacyKernels

def LoaderSettings.style (s : LoaderSettings) (o : Options) : LoadProgram.Style :=
  if o.expressWeights then .packed else if s.embedded then .plain else .inline

def LoadedInto (m : KernelMemory) (d : Device) (ram : KernelRam) : Prop :=
  ∀ p < d.maxProcessors, ∀ column < d.maskWidth p, m.taken p column = true → ram p column = m.bytesAt p column

section

variable {m : KernelMemory} {d : Device} {legacy : Bool}

theorem columns?_spec {r : ColumnRange} (found : m.columns? d legacy p = some r) :
    r.last < d.maskWidth p ∧ m.taken p r.last = true ∧ r.first ≤ r.last ∧
      (legacy = true ∨ m.taken p r.first = true) ∧
      ∀ column < d.maskWidth p, m.taken p column = true → r.first ≤ column ∧ column ≤ r.last := by
  unfold columns? at found
  have sorted : ((range (d.maskWidth p)).filter (m.taken p)).Pairwise (· < ·) :=
    pairwise_lt_range.filter _
  have member : ∀ column, column ∈ (range (d.maskWidth p)).filter (m.taken p) ↔
      column < d.maskWidth p ∧ m.taken p column = true := by
    simp
  split at found
  · cases found
  · rename_i c cs listed
    rw [listed] at sorted member
    cases found
    have last := (member _).mp (getLast_mem (show c :: cs ≠ [] by simp))
    have upper : ∀ column ∈ c :: cs, column ≤ (c :: cs).getLast (by simp) := by
      intro column inside
      rw [← dropLast_concat_getLast (show c :: cs ≠ [] by simp)] at sorted inside
      rcases mem_append.mp inside with earlier | final
      · exact Nat.le_of_lt ((pairwise_append.mp sorted).2.2 column earlier _ (by simp))
      · simp at final
        omega
    have lower : ∀ column ∈ c :: cs, (if legacy then 0 else c) ≤ column := by
      intro column inside
      rw [pairwise_cons] at sorted
      split
      · omega
      · rcases mem_cons.mp inside with rfl | later
        · exact Nat.le_refl _
        · exact Nat.le_of_lt (sorted.1 column later)
    refine ⟨last.1, last.2, lower _ (getLast_mem _), ?_, ?_⟩
    · cases legacy with
      | true => exact .inl rfl
      | false => exact .inr ((member c).mp (by simp)).2
    · intro column inside taken
      have listed := (member column).mpr ⟨inside, taken⟩
      exact ⟨lower column listed, upper column listed⟩

theorem columns?_of_taken (legacy : Bool) (inside : column < d.maskWidth p) (taken : m.taken p column = true) :
    ∃ r, m.columns? d legacy p = some r := by
  unfold columns?
  split
  · rename_i empty
    have member : column ∈ (range (d.maskWidth p)).filter (m.taken p) := by simp [inside, taken]
    rw [empty] at member
    simp at member
  · exact ⟨_, rfl⟩

theorem joinRuns_apart (items : List (Nat × Option ColumnRange)) (acc : Option KernelRun)
    (single : ∀ r, acc = some r → r.more = [] ∧ r.columns.last < d.maskSpacing)
    (short : ∀ item ∈ items, ∀ c, item.2 = some c → c.last < d.maskSpacing) :
    joinRuns d acc items = acc.toList ++ items.filterMap fun item => item.2.map fun c => ⟨item.1, c, []⟩ := by
  induction items generalizing acc with
  | nil => cases acc <;> simp [joinRuns]
  | cons item items ih =>
    have rest := fun item member => short item (mem_cons_of_mem _ member)
    obtain ⟨p, columns⟩ := item
    cases columns with
    | none =>
      rw [joinRuns, ih none (by simp) rest]
      simp
    | some c =>
      have here := short (p, some c) (by simp) c rfl
      have next : ∀ r, some (⟨p, c, []⟩ : KernelRun) = some r → r.more = [] ∧ r.columns.last < d.maskSpacing := by
        rintro r ⟨⟩
        exact ⟨rfl, here⟩
      cases acc with
      | none =>
        rw [joinRuns, ih _ next rest]
        simp
      | some r =>
        obtain ⟨alone, ended⟩ := single r rfl
        have last : r.parts.getLast (by simp [parts]) = (r.processor, r.columns) := by
          simp [parts, alone]
        have apart : continues d r.processor r.processor r.columns c = false := by
          have other : r.columns.last ≠ d.maskSpacing := by omega
          simp [continues, other]
        rw [joinRuns]
        simp only [last, apart]
        rw [ih _ next rest]
        simp

def rangeCells (x : Nat × ColumnRange) : List (Nat × Nat) :=
  (range x.2.size).map fun i => (x.1, x.2.first + i)

theorem mem_rangeCells : (p, column) ∈ rangeCells x ↔ p = x.1 ∧ x.2.first ≤ column ∧ column < x.2.first + x.2.size := by
  simp only [rangeCells, mem_map, mem_range, Prod.mk.injEq]
  constructor
  · rintro ⟨i, less, rfl, rfl⟩
    omega
  · rintro ⟨rfl, lower, upper⟩
    exact ⟨column - x.2.first, by omega, rfl, by omega⟩

def loadedRanges (m : KernelMemory) (d : Device) (legacy : Bool) : List (Nat × ColumnRange) :=
  (range d.maxProcessors).filterMap fun p => (m.columns? d legacy p).map fun c => (p, c)

theorem mem_loadedRanges :
    x ∈ m.loadedRanges d legacy ↔ x.1 < d.maxProcessors ∧ m.columns? d legacy x.1 = some x.2 := by
  simp only [loadedRanges, mem_filterMap, mem_range, Option.map_eq_some_iff]
  constructor
  · rintro ⟨p, less, c, found, rfl⟩
    exact ⟨less, found⟩
  · rintro ⟨less, found⟩
    exact ⟨x.1, less, x.2, found, rfl⟩

theorem columns?_short (layout : d.KernelWindows) {r : ColumnRange} (found : m.columns? d legacy p = some r) :
    r.last < d.maskSpacing := by
  have bound := layout.width p
  have last := (columns?_spec found).1
  omega

theorem runs_eq_map (layout : d.KernelWindows) :
    m.runs d legacy = (m.loadedRanges d legacy).map fun x => ⟨x.1, x.2, []⟩ := by
  rw [runs, joinRuns_apart _ none (by simp)]
  · simp only [Option.toList_none, nil_append, filterMap_map, loadedRanges, map_filterMap, Option.map_map]
    rfl
  · intro item member c found
    obtain ⟨p, _, rfl⟩ := mem_map.mp member
    exact columns?_short layout found

theorem lookup_loadedRanges (g : Nat × ColumnRange → List Int) (listed : x ∈ m.loadedRanges d legacy) :
    ((m.loadedRanges d legacy).map fun x => (x.1, g x)).lookup x.1 = some (g x) := by
  have same : ∀ y ∈ m.loadedRanges d legacy, y.1 = x.1 → y = x := by
    intro y member equal
    have first := (mem_loadedRanges.mp listed).2
    have second := (mem_loadedRanges.mp member).2
    rw [equal, first] at second
    exact Prod.ext equal (Option.some.inj second).symm
  generalize m.loadedRanges d legacy = ranges at listed same ⊢
  induction ranges with
  | nil => simp at listed
  | cons y ys ih =>
    rw [map_cons, lookup_cons]
    by_cases here : y.1 = x.1
    · simp [same y (by simp) here]
    · have other : (x.1 == y.1) = false := by simpa using Ne.symm here
      rw [other]
      refine ih ?_ (fun y member => same y (mem_cons_of_mem _ member))
      rcases mem_cons.mp listed with rfl | later
      · exact absurd rfl here
      · exact later

end

theorem copied_eq (d : Device) (f : KernelRam) (x : Nat × ColumnRange) :
    LoadStatement.copied (baseAddress d x.1 + x.2.first * 16)
        ((range x.2.size).flatMap fun i => (kernelWords (f x.1 (x.2.first + i))).take 3) x.2.size =
      (rangeCells x).flatMap (kernelStores d f) := by
  have word : ∀ i < x.2.size, ∀ k < 3, ((range x.2.size).flatMap fun i =>
      (kernelWords (f x.1 (x.2.first + i))).take 3).getD (3 * i + k) 0 =
        ((kernelWords (f x.1 (x.2.first + i))).take 3).getD k 0 := by
    intro i less k bound
    rw [Nat.mul_comm, getD_eq_getElem?_getD, getElem?_blocks (n := 3) (fun _ _ => by rfl) less bound, getD_eq_getElem?_getD]
  generalize ((range x.2.size).flatMap fun i => (kernelWords (f x.1 (x.2.first + i))).take 3) = words
    at word ⊢
  rw [rangeCells, flatMap_map, LoadStatement.copied, flatMap_def, flatMap_def]
  congr 1
  apply map_congr_left
  intro i member
  have less := mem_range.mp member
  have address : baseAddress d x.1 + x.2.first * 16 + 16 * i =
      kernelAddress d x.1 ((x.2.first + i : Nat) : Int) := by
    simp only [baseAddress, kernelAddress]
    omega
  have first := word i less 0 (by omega)
  rw [Nat.add_zero] at first
  rw [first, word i less 1 (by omega), word i less 2 (by omega), address]
  simp [kernelStores, kernelWords]

theorem plainWords_single (m : KernelMemory) (x : Nat × ColumnRange) :
    m.plainWords ⟨x.1, x.2, []⟩ =
      (range x.2.size).flatMap fun i => (kernelWords (m.bytesAt x.1 (x.2.first + i))).take 3 := by
  simp [plainWords, parts, rangeBytes, flatMap_map]

theorem length_plainWords (m : KernelMemory) (x : Nat × ColumnRange) :
    (m.plainWords ⟨x.1, x.2, []⟩).length = 3 * x.2.size := by
  rw [plainWords_single, length_blocks (n := 3) (fun _ _ => by rfl), Nat.mul_comm]

theorem packedWords_bytes {m : KernelMemory} (sound : m.Sound) (x : Nat × ColumnRange) :
    ∃ zeros < 4, (m.packedWords x.1 x.2).flatMap wordBytes =
        ((range x.2.size).flatMap fun i => m.bytesAt x.1 (x.2.first + i)) ++ replicate zeros 0 ∧
      (m.packedWords x.1 x.2).length * 4 = x.2.size * 9 + zeros := by
  have range : ∀ b ∈ (m.rangeBytes x.1 x.2).flatten, 0 ≤ b ∧ b < 256 := by
    intro b member
    obtain ⟨bytes, listed, inside⟩ := mem_flatten.mp member
    obtain ⟨i, _, rfl⟩ := mem_map.mp listed
    exact (sound x.1 (x.2.first + i)).bytes b inside
  have all : (m.rangeBytes x.1 x.2).flatten =
      (List.range x.2.size).flatMap fun i => m.bytesAt x.1 (x.2.first + i) := by
    rw [rangeBytes, flatMap_def]
  obtain ⟨zeros, few, words, count⟩ := flatMap_wordBytes _ range
  rw [all] at words count
  rw [length_blocks (n := 9) (fun i _ => (sound x.1 (x.2.first + i)).nine)] at count
  refine ⟨zeros, few, ?_, ?_⟩
  · rw [packedWords, all, words]
  · rw [packedWords, all, count]

theorem length_packedWords {m : KernelMemory} (sound : m.Sound) (x : Nat × ColumnRange) :
    (m.packedWords x.1 x.2).length = (x.2.size * 9 + 3) / 4 := by
  obtain ⟨zeros, few, _, count⟩ := packedWords_bytes sound x
  omega

section

variable {d : Device} {arrays : List (Nat × List Int)}

theorem run_fills {α : Type} {I : KernelPort → Prop} {f : KernelRam} {statements : α → List LoadStatement}
    {cells : α → List (Nat × Nat)} (items : List α)
    (each : ∀ x ∈ items, ∀ port, I port → ∃ after, (statements x).foldlM (LoadStatement.run d arrays) port = some after ∧
      after.memory = port.memory.fill f (cells x) ∧ I after) (port : KernelPort) (start : I port) :
    ∃ after, (items.flatMap statements).foldlM (LoadStatement.run d arrays) port = some after ∧
      after.memory = port.memory.fill f (items.flatMap cells) := by
  induction items generalizing port with
  | nil => exact ⟨port, rfl, rfl⟩
  | cons x items ih =>
    obtain ⟨next, ran, memory, still⟩ := each x (by simp) port start
    obtain ⟨after, rest, final⟩ := ih (fun x member => each x (by simp [member])) next still
    refine ⟨after, ?_, ?_⟩
    · rw [flatMap_cons, foldlM_append, ran]
      exact rest
    · rw [final, memory, flatMap_cons]
      simp only [KernelRam.fill, foldl_append]

variable (layout : d.KernelWindows)
theorem load?_kernel {port : KernelPort} {i : Nat} (layout : d.KernelWindows) (inside : column < d.maskSpacing)
    (word : i < 4) :
    port.load? d (kernelAddress d p column + 4 * i) = (kernelWords (port.memory p column))[i]? := by
  have window := kernelWindow?_word (p := p) layout inside word
  have aligned : (column * 16 + 4 * i) % 4 = 0 := by omega
  have number : (column * 16 + 4 * i) % 16 / 4 = i := by omega
  have place : (column * 16 + 4 * i) / 16 = column := by omega
  simp only [load?, window, Option.bind_eq_bind, Option.bind_some, aligned, if_true, number, place]

include layout

theorem run_kernelStatements (compare : Bool) (kernel : IsKernel w.bytes) (inside : column < d.maskSpacing)
    (port : KernelPort) (idle : port.target = none) :
    ∃ after, (kernelStatements d compare p column w).foldlM (LoadStatement.run d arrays) port = some after ∧
      after.memory = port.memory.set p column w.bytes ∧ after.target = none := by
  obtain ⟨after, stored, memory, still⟩ :=
    store_kernel layout inside (fun _ _ => w.bytes) kernel port idle
  refine ⟨after, ?_, memory, still⟩
  have compared : ((kernelWords w.bytes).zipIdx.map fun x =>
      LoadStatement.compare (kernelAddress d p column + 4 * x.2) x.1).foldlM (LoadStatement.run d arrays) after =
        some after := by
    have each : ∀ x ∈ (kernelWords w.bytes).zipIdx,
        LoadStatement.run d arrays after (.compare (kernelAddress d p column + 4 * x.2) x.1) = some after := by
      intro x member
      have found := mem_zipIdx_iff_getElem?.mp member
      have word : x.2 < 4 := (List.getElem?_eq_some_iff.mp found).1
      have here : after.memory p column = w.bytes := by simp [memory, KernelRam.set]
      rw [LoadStatement.run, load?_kernel layout inside word, here, found, if_pos rfl]
    generalize (kernelWords w.bytes).zipIdx = words at each
    induction words with
    | nil => rfl
    | cons x words ih =>
      rw [map_cons, foldlM_cons, each x (by simp)]
      exact ih (fun y member => each y (mem_cons_of_mem _ member))
  have written : ((kernelWords w.bytes).zipIdx.map fun x =>
      LoadStatement.store (kernelAddress d p column + 4 * x.2) x.1 (kernelNote w.layer p column x.2)).foldlM
        (LoadStatement.run d arrays) port = some after := by
    rw [← stored, storeAll, kernelStores, foldlM_map, foldlM_map]
    rfl
  simp only [kernelStatements]
  rw [foldlM_append, written]
  cases compare with
  | true => exact compared
  | false => rfl

variable {m : KernelMemory} (sound : m.Sound)

include sound

theorem run_copy (short : x.2.last < d.maskSpacing) (found : arrays.lookup x.1 = some (m.plainWords ⟨x.1, x.2, []⟩))
    (port : KernelPort) (idle : port.target = none) :
    ∃ after, LoadStatement.run d arrays port (.copy (baseAddress d x.1 + x.2.first * 16) x.1 x.2.size) = some after ∧
      after.memory = port.memory.fill m.bytesAt (rangeCells x) ∧ after.target = none := by
  have kernels : ∀ cell ∈ rangeCells x, IsKernel (m.bytesAt cell.1 cell.2) ∧ cell.2 < d.maskSpacing := by
    rintro ⟨p, column⟩ member
    obtain ⟨_, lower, upper⟩ := mem_rangeCells.mp member
    refine ⟨sound p column, ?_⟩
    unfold ColumnRange.size at upper
    omega
  obtain ⟨after, stored, filled⟩ := store_kernels layout m.bytesAt (rangeCells x) kernels port idle
  refine ⟨after, ?_, filled⟩
  simp only [LoadStatement.run, found, Option.bind_eq_bind, Option.bind_some, length_plainWords, Nat.le_refl, if_true]
  rw [plainWords_single, copied_eq, stored]

theorem run_stream (short : x.2.last < d.maskSpacing) (some_columns : x.2.first ≤ x.2.last)
    (found : arrays.lookup x.1 = some (m.packedWords x.1 x.2)) (port : KernelPort) :
    ∃ after, LoadStatement.run d arrays port (.stream (baseAddress d x.1 + x.2.first * 4 + 1) (baseAddress d x.1) x.1
        ((x.2.size * 9 + 3) / 4)) = some after ∧
      after.memory = port.memory.fill m.bytesAt (rangeCells x) := by
  obtain ⟨zeros, few, bytes, count⟩ := packedWords_bytes sound x
  have size : x.2.size = x.2.last + 1 - x.2.first := rfl
  obtain ⟨ready, set, start⟩ := seek_streams layout port x.1 x.2.first (by omega)
  obtain ⟨after, stored, streamed⟩ := start.storeAll layout (m.packedWords x.1 x.2) (k := 0) (by omega)
  refine ⟨after, ?_, ?_⟩
  · simp only [LoadStatement.run, found, Option.bind_eq_bind, Option.bind_some, baseAddress, set,
      ← length_packedWords sound, Nat.le_refl, if_true, take_length]
    exact stored
  · funext q column
    have total : ([] ++ (m.packedWords x.1 x.2).flatMap wordBytes).length / 9 = x.2.size := by
      rw [nil_append, bytes, length_append, length_replicate,
        length_blocks (n := 9) (fun i _ => (sound x.1 (x.2.first + i)).nine)]
      omega
    rw [streamed.memory, KernelRam.fill_apply, total]
    simp only [mem_rangeCells]
    by_cases here : q = x.1 ∧ x.2.first ≤ column ∧ column < x.2.first + x.2.size
    · rw [if_pos here, if_pos here, nil_append, bytes]
      obtain ⟨rfl, lower, upper⟩ := here
      have blocks : ∀ i < x.2.size, (m.bytesAt x.1 (x.2.first + i)).length = 9 :=
        fun i _ => (sound x.1 (x.2.first + i)).nine
      have length := length_blocks blocks
      rw [drop_append_of_le_length (by omega),
        take_append_of_le_length (by rw [length_drop]; omega),
        take_drop_blocks blocks (show column - x.2.first < x.2.size by omega),
        Nat.add_sub_cancel' lower]
    · rw [if_neg here, if_neg here]

end

section

variable {m : KernelMemory} {d : Device}

def writtenCells (m : KernelMemory) (d : Device) (skipZero : Bool) : List (Nat × Nat × KernelWord) :=
  (range d.maxProcessors).flatMap fun p => (m.writtenWords d skipZero p).map fun x => (p, x)

theorem mem_writtenCells {skipZero : Bool} {x : Nat × Nat × KernelWord} :
    x ∈ m.writtenCells d skipZero ↔
      x.1 < d.maxProcessors ∧ x.2.1 < d.maskWidth x.1 ∧ m.word? x.1 x.2.1 = some x.2.2 ∧
        (skipZero = true → ¬ x.2.2.bytes.all (· = 0)) := by
  obtain ⟨p, column, w⟩ := x
  simp only [writtenCells, writtenWords, row, mem_flatMap, mem_map, mem_filter, mem_filterMap,
    mem_range, Option.map_eq_some_iff, Prod.mk.injEq]
  constructor
  · rintro ⟨q, used, y, ⟨⟨c, inside, v, found, rfl⟩, wanted⟩, rfl, same⟩
    cases same
    refine ⟨used, inside, found, ?_⟩
    intro skips
    simpa [skips] using wanted
  · rintro ⟨used, inside, found, wanted⟩
    refine ⟨p, used, (column, w), ⟨⟨column, inside, w, found, rfl⟩, ?_⟩, rfl, rfl⟩
    cases skipZero with
    | false => rfl
    | true => simpa using wanted rfl

theorem bytesAt_of_word? (found : m.word? p column = some w) : m.bytesAt p column = w.bytes := by
  simp only [bytesAt, found]

theorem inline_loads (layout : d.KernelWindows) (sound : m.Sound) (skipZero compare : Bool) (ram : KernelRam)
    (zeroed : skipZero = true → ∀ p column, ram p column = replicate 9 0) :
    ∃ port, (m.inlineProgram d skipZero compare).execute d { memory := ram } = some port ∧
      m.LoadedInto d port.memory := by
  have each : ∀ x ∈ m.writtenCells d skipZero, ∀ port : KernelPort, port.target = none → ∃ after,
      (kernelStatements d compare x.1 x.2.1 x.2.2).foldlM (LoadStatement.run d []) port = some after ∧
        after.memory = port.memory.fill m.bytesAt [(x.1, x.2.1)] ∧ after.target = none := by
    intro x member port idle
    obtain ⟨_, inside, found, _⟩ := mem_writtenCells.mp member
    have same := bytesAt_of_word? found
    have bound := layout.width x.1
    obtain ⟨after, ran, memory, still⟩ :=
      run_kernelStatements (w := x.2.2) layout compare (same ▸ sound x.1 x.2.1) (show x.2.1 < _ by omega) port idle
    refine ⟨after, ran, ?_, still⟩
    rw [memory, ← same]
    rfl
  obtain ⟨port, ran, memory⟩ := run_fills _ each { memory := ram } rfl
  refine ⟨port, ?_, ?_⟩
  · rw [← ran, LoadProgram.execute, writtenCells, flatMap_assoc]
    simp only [inlineProgram, flatMap_map]
  · intro p used column inside taken
    obtain ⟨w, found⟩ := Option.isSome_iff_exists.mp taken
    rw [memory, KernelRam.fill_apply]
    split
    · rfl
    · rename_i left
      -- Only a word of zeros is left out, and then memory has zeros already.
      have skipped : skipZero = true ∧ w.bytes.all (· = 0) = true := by
        apply Classical.byContradiction
        intro wanted
        apply left
        refine mem_flatMap.mpr ⟨(p, column, w), mem_writtenCells.mpr ⟨used, inside, found, ?_⟩, by simp⟩
        intro skips zeros
        exact wanted ⟨skips, zeros⟩
      have same := bytesAt_of_word? found
      have kernel : IsKernel w.bytes := same ▸ sound p column
      exact (zeroed skipped.1 p column).trans (same.trans (kernel.eq_zeros skipped.2)).symm

variable {legacy : Bool}

theorem fill_ranges (legacy : Bool) (ram : KernelRam) :
    m.LoadedInto d (ram.fill m.bytesAt ((m.loadedRanges d legacy).flatMap rangeCells)) ∧
      ∀ p column, ram.fill m.bytesAt ((m.loadedRanges d legacy).flatMap rangeCells) p column ≠ ram p column →
        p < d.maxProcessors ∧ (∃ last < d.maskWidth p, m.taken p last = true ∧ column ≤ last) ∧
          (legacy = true ∨ ∃ first ≤ column, m.taken p first = true) := by
  constructor
  · intro p used column inside taken
    obtain ⟨r, found⟩ := columns?_of_taken legacy inside taken
    obtain ⟨_, _, _, _, bounds⟩ := columns?_spec found
    obtain ⟨lower, upper⟩ := bounds column inside taken
    rw [KernelRam.fill_apply, if_pos]
    refine mem_flatMap.mpr ⟨(p, r), mem_loadedRanges.mpr ⟨used, found⟩, mem_rangeCells.mpr ⟨rfl, lower, ?_⟩⟩
    simp only [ColumnRange.size]
    omega
  · intro p column changed
    rw [KernelRam.fill_apply] at changed
    split at changed
    · rename_i listed
      obtain ⟨x, range, cell⟩ := mem_flatMap.mp listed
      obtain ⟨rfl, lower, upper⟩ := mem_rangeCells.mp cell
      obtain ⟨used, found⟩ := mem_loadedRanges.mp range
      obtain ⟨inside, last, order, first, _⟩ := columns?_spec found
      simp only [ColumnRange.size] at upper
      refine ⟨used, ⟨x.2.last, inside, last, by omega⟩, ?_⟩
      rcases first with all | first
      · exact .inl all
      · exact .inr ⟨x.2.first, lower, first⟩
    · exact (changed rfl).elim

theorem ranges_load {program : LoadProgram} (words : Nat × ColumnRange → List Int)
    (statement : Nat × ColumnRange → LoadStatement) (I : KernelPort → Prop) (layout : d.KernelWindows)
    (arrays : program.arrays = (m.loadedRanges d legacy).map fun x => (x.1, words x))
    (statements : program.statements = (m.loadedRanges d legacy).map statement)
    (reads : ∀ x, (statement x).reads = some (x.1, (words x).length))
    (each : ∀ x, x.2.last < d.maskSpacing → x.2.first ≤ x.2.last → program.arrays.lookup x.1 = some (words x) →
      ∀ port, I port → ∃ after, (statement x).run d program.arrays port = some after ∧
        after.memory = port.memory.fill m.bytesAt (rangeCells x) ∧ I after)
    (ram : KernelRam) (start : I { memory := ram }) :
    (∃ port, program.execute d { memory := ram } = some port ∧
      port.memory = ram.fill m.bytesAt ((m.loadedRanges d legacy).flatMap rangeCells)) ∧
    program.statements.map LoadStatement.reads = program.arrays.map fun a => some (a.1, a.2.length) := by
  constructor
  · rw [LoadProgram.execute, statements, map_eq_flatMap]
    refine run_fills _ ?_ _ start
    intro x member port idle
    have listed := (mem_loadedRanges.mp member).2
    have found := lookup_loadedRanges words member
    rw [← arrays] at found
    obtain ⟨after, ran, filled⟩ := each x (columns?_short layout listed) (columns?_spec listed).2.2.1 found port idle
    refine ⟨after, ?_, filled⟩
    rw [foldlM_cons, ran]
    rfl
  · rw [statements, arrays, map_map, map_map]
    exact map_congr_left fun x _ => reads x

variable (legacy : Bool) (layout : d.KernelWindows) (sound : m.Sound) (ram : KernelRam)
include layout sound

theorem plain_loads :
    (∃ port, (m.plainProgram d legacy).execute d { memory := ram } = some port ∧
      port.memory = ram.fill m.bytesAt ((m.loadedRanges d legacy).flatMap rangeCells)) ∧
    (m.plainProgram d legacy).statements.map LoadStatement.reads =
      (m.plainProgram d legacy).arrays.map fun a => some (a.1, a.2.length) := by
  refine ranges_load (fun x => m.plainWords ⟨x.1, x.2, []⟩)
    (fun x => .copy (baseAddress d x.1 + x.2.first * 16) x.1 x.2.size)
    (·.target = none) layout ?_ ?_ ?_ ?_ ram rfl
  · simp only [plainProgram, runs_eq_map layout, map_map]
    rfl
  · simp [plainProgram, runs_eq_map layout, size, parts]
  · intro x
    rw [length_plainWords, LoadStatement.reads]
  · intro x short _ found
    exact run_copy layout sound short found

theorem packed_loads :
    (∃ port, (m.packedProgram d legacy).execute d { memory := ram } = some port ∧
      port.memory = ram.fill m.bytesAt ((m.loadedRanges d legacy).flatMap rangeCells)) ∧
    (m.packedProgram d legacy).statements.map LoadStatement.reads =
      (m.packedProgram d legacy).arrays.map fun a => some (a.1, a.2.length) := by
  refine ranges_load (fun x => m.packedWords x.1 x.2)
    (fun x => .stream (baseAddress d x.1 + x.2.first * 4 + 1) (baseAddress d x.1) x.1 ((x.2.size * 9 + 3) / 4))
    (fun _ => True) layout ?_ ?_ ?_ ?_ ram trivial
  · simp only [packedProgram, loadedRanges, map_filterMap, Option.map_map]
    rfl
  · simp [packedProgram, runs_eq_map layout, size, parts]
  · intro x
    rw [length_packedWords sound, LoadStatement.reads]
  · intro x short some_columns found port _
    obtain ⟨after, ran, memory⟩ := run_stream layout sound short some_columns found port
    exact ⟨after, ran, memory, trivial⟩

end

end KernelMemory

end CnnForge
