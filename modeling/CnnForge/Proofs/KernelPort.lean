import CnnForge.Device.Catalog
import CnnForge.Proofs.KernelStream

namespace CnnForge

attribute [local instance (2000)] instPowNat

open List Bus

variable {d : Device} {bytes : List Int} {p i first : Nat} {port : KernelPort} {ram : KernelRam}

abbrev KernelRam := Nat → Nat → List Int

namespace KernelRam

def set (ram : KernelRam) (p c : Nat) (bytes : List Int) : KernelRam :=
  fun q k => if q = p ∧ k = c then bytes else ram q k

def fill (ram f : KernelRam) (cells : List (Nat × Nat)) : KernelRam :=
  cells.foldl (fun ram cell => ram.set cell.1 cell.2 (f cell.1 cell.2)) ram

theorem fill_apply (ram f : KernelRam) (cells : List (Nat × Nat)) (p c : Nat) :
    ram.fill f cells p c = if (p, c) ∈ cells then f p c else ram p c := by
  induction cells generalizing ram with
  | nil => rfl
  | cons cell cells ih =>
    obtain ⟨q, k⟩ := cell
    refine (ih _).trans ?_
    by_cases later : (p, c) ∈ cells
    · simp [later]
    · by_cases here : p = q ∧ c = k
      · obtain ⟨rfl, rfl⟩ := here
        simp [set]
      · simp [set, here]

end KernelRam

/-- Kernels of a processor lie in a window of their own, and a group has one window for each of its
processors. -/
structure Device.KernelWindows (d : Device) : Prop where
  some_processors : 0 < d.groupSize
  small : d.maskWidthSmall ≤ d.maskSpacing
  large : d.maskWidthLarge ≤ d.maskSpacing
  windows : d.groupSize * (d.maskSpacing * 16) ≤ d.groupSpacing

theorem Device.KernelWindows.width (layout : d.KernelWindows) (p : Int) : d.maskWidth p ≤ d.maskSpacing := by
  unfold Device.maskWidth
  split
  · exact layout.large
  · exact layout.small

/-- The processor into whose window an address falls, and the byte of the window. -/
def Device.kernelWindow? (d : Device) (address : Int) : Option (Nat × Nat) :=
  if address < d.maskBase then none
  else
    let i := (address - d.maskBase).toNat
    let processor := i % d.groupSpacing / (d.maskSpacing * 16)
    if processor < d.groupSize then
      some (i / d.groupSpacing * d.groupSize + processor, i % d.groupSpacing % (d.maskSpacing * 16))
    else none

theorem kernelAddress_eq (d : Device) (p c : Nat) :
    kernelAddress d p c =
      ((d.maskBase + (d.groupSpacing * (p / d.groupSize) + (p % d.groupSize * (d.maskSpacing * 16) + c * 16)) :
        Nat) : Int) := by
  have quotient : (p : Int).fdiv d.groupSize = (p / d.groupSize : Nat) := by
    rw [Int.fdiv_eq_ediv_of_nonneg _ (by omega)]
    rfl
  have rest : (p : Int).fmod d.groupSize = (p % d.groupSize : Nat) := by
    rw [Int.fmod_eq_emod_of_nonneg _ (by omega)]
    rfl
  rw [kernelAddress, quotient, rest]
  simp only [Int.natCast_add, Int.natCast_mul, ← Int.mul_assoc]
  omega

theorem Device.KernelWindows.locate (layout : d.KernelWindows) {r : Nat} (inside : r < d.maskSpacing * 16) :
    d.kernelWindow? (kernelAddress d p 0 + r) = some (p, r) := by
  have rest := Nat.mod_lt p layout.some_processors
  have window : p % d.groupSize * (d.maskSpacing * 16) + r < d.groupSpacing := by
    have step : (p % d.groupSize + 1) * (d.maskSpacing * 16) ≤ d.groupSize * (d.maskSpacing * 16) :=
      Nat.mul_le_mul_right _ rest
    have windows := layout.windows
    rw [Nat.succ_mul] at step
    omega
  have address : kernelAddress d p 0 + r =
      ((d.maskBase + (d.groupSpacing * (p / d.groupSize) +
        (p % d.groupSize * (d.maskSpacing * 16) + r)) : Nat) : Int) := by
    have base := kernelAddress_eq d p 0
    rw [show ((0 : Nat) : Int) = 0 from rfl] at base
    omega
  have above : ¬ kernelAddress d p 0 + r < d.maskBase := by omega
  have index : (kernelAddress d p 0 + r - d.maskBase).toNat =
      d.groupSpacing * (p / d.groupSize) + (p % d.groupSize * (d.maskSpacing * 16) + r) := by omega
  have spacing : 0 < d.groupSpacing := by omega
  simp only [Device.kernelWindow?, if_neg above, index, Nat.mul_add_mod, Nat.mod_eq_of_lt window,
    Nat.mul_add_div spacing, Nat.div_eq_of_lt window, Nat.add_zero]
  rw [Nat.add_comm (p % d.groupSize * (d.maskSpacing * 16)), Nat.mul_comm (p % d.groupSize),
    Nat.add_mul_div_left _ _ (by omega), Nat.div_eq_of_lt inside, Nat.zero_add, if_pos rest,
    Nat.add_mul_mod_self_left, Nat.mod_eq_of_lt inside, Nat.mul_comm (p / d.groupSize), Nat.div_add_mod]

def wordBytes (w : Int) : List Int := [w / 2 ^ 24 % 256, w / 2 ^ 16 % 256, w / 2 ^ 8 % 256, w % 256]

structure IsKernel (bytes : List Int) : Prop where
  nine : bytes.length = 9
  bytes : ∀ b ∈ bytes, 0 ≤ b ∧ b < 256

/-- The hardware that stores kernels. Words written to it wait until the fourth word of a kernel
executes the write. Once a processor and a column are set, the bytes of all words go there one after
the other, nine to a column. -/
structure KernelPort where
  memory : KernelRam
  words : Nat → Int := fun _ => 0
  target : Option (Nat × Nat) := none
  pending : List Int := []

namespace KernelPort

def waiting (port : KernelPort) : List Int :=
  port.words 0 % 256 :: (wordBytes (port.words 1) ++ wordBytes (port.words 2))

def push (port : KernelPort) (p c : Nat) (bytes : List Int) : KernelPort :=
  let all := port.pending ++ bytes
  if 9 ≤ all.length then
    { port with memory := port.memory.set p c (all.take 9), target := some (p, c + 1), pending := all.drop 9 }
  else { port with pending := all }

def store (port : KernelPort) (d : Device) (address value : Int) : Option KernelPort := do
  let (p, r) ← d.kernelWindow? address
  match port.target with
  | some (q, c) => if p = q then some (port.push q c (wordBytes value)) else none
  | none =>
    if r % 4 ≠ 0 then none
    else if r % 16 = 12 then some { port with memory := port.memory.set p (r / 16) port.waiting }
    else some { port with words := fun i => if i = r % 16 / 4 then value else port.words i }

/-- A processor and a column are set by a byte: four addresses of the window stand for a column. -/
def seek (port : KernelPort) (d : Device) (address : Int) : Option KernelPort := do
  let (p, r) ← d.kernelWindow? address
  if r % 4 = 1 then some { port with target := some (p, r / 4), pending := [] } else none

def load? (port : KernelPort) (d : Device) (address : Int) : Option Int := do
  let (p, r) ← d.kernelWindow? address
  if r % 4 = 0 then (kernelWords (port.memory p (r / 16)))[r % 16 / 4]? else none

def storeAll (port : KernelPort) (d : Device) (stores : List (Int × Int)) : Option KernelPort :=
  stores.foldlM (fun port x => port.store d x.1 x.2) port

theorem storeAll_cons (port : KernelPort) (d : Device) (a value : Int) (stores : List (Int × Int)) :
    port.storeAll d ((a, value) :: stores) = (port.store d a value).bind (·.storeAll d stores) :=
  foldlM_cons

theorem storeAll_append (port : KernelPort) (d : Device) (first second : List (Int × Int)) :
    port.storeAll d (first ++ second) = (port.storeAll d first).bind (·.storeAll d second) :=
  foldlM_append

end KernelPort

def kernelStores (d : Device) (f : KernelRam) (cell : Nat × Nat) : List (Int × Int) :=
  (kernelWords (f cell.1 cell.2)).zipIdx.map fun x => (kernelAddress d cell.1 cell.2 + 4 * x.2, x.1)

theorem IsKernel.exists_bytes (kernel : IsKernel bytes) :
    ∃ b0 b1 b2 b3 b4 b5 b6 b7 b8, bytes = [b0, b1, b2, b3, b4, b5, b6, b7, b8] := by
  match bytes, kernel.nine with
  | [b0, b1, b2, b3, b4, b5, b6, b7, b8], _ => exact ⟨b0, b1, b2, b3, b4, b5, b6, b7, b8, rfl⟩

theorem IsKernel.eq_zeros (kernel : IsKernel bytes) (zeros : bytes.all (· = 0) = true) :
    bytes = replicate 9 0 := by
  rw [eq_replicate_iff]
  refine ⟨kernel.nine, ?_⟩
  intro b member
  simpa using all_eq_true.mp zeros b member

theorem wordBytes_bigEndian {a b c d : Int} (bytes : ∀ x ∈ [a, b, c, d], 0 ≤ x ∧ x < 256) :
    wordBytes (bigEndian [a, b, c, d]) = [a, b, c, d] := by
  simp only [mem_cons, forall_eq_or_imp] at bytes
  simp only [wordBytes, bigEndian, foldl_cons, foldl_nil, cons.injEq, and_true]
  refine ⟨?_, ?_, ?_, ?_⟩ <;> omega

namespace KernelPort

theorem waiting_eq (kernel : IsKernel bytes) (words : ∀ i < 3, (kernelWords bytes)[i]? = some (port.words i)) :
    port.waiting = bytes := by
  have range := kernel.bytes
  obtain ⟨b0, b1, b2, b3, b4, b5, b6, b7, b8, rfl⟩ := kernel.exists_bytes
  have single : bigEndian [b0] = port.words 0 := Option.some.inj (words 0 (by omega))
  have first : bigEndian [b1, b2, b3, b4] = port.words 1 := Option.some.inj (words 1 (by omega))
  have second : bigEndian [b5, b6, b7, b8] = port.words 2 := Option.some.inj (words 2 (by omega))
  have low : bigEndian [b0] % 256 = b0 := by
    have byte := range b0 (by simp)
    simp only [bigEndian, foldl_cons, foldl_nil]
    omega
  have upper : ∀ x ∈ [b1, b2, b3, b4], 0 ≤ x ∧ x < 256 := fun x member =>
    range x (mem_cons_of_mem _ (mem_append_left [b5, b6, b7, b8] member))
  have lower : ∀ x ∈ [b5, b6, b7, b8], 0 ≤ x ∧ x < 256 := fun x member =>
    range x (mem_append_right [b0, b1, b2, b3, b4] member)
  rw [waiting, ← single, ← first, ← second, low, wordBytes_bigEndian lower, wordBytes_bigEndian upper]
  rfl

section

variable {d : Device} (layout : d.KernelWindows) {p c : Nat} (inside : c < d.maskSpacing)
include layout inside

theorem kernelWindow?_word (word : i < 4) :
    d.kernelWindow? (kernelAddress d p c + 4 * i) = some (p, c * 16 + 4 * i) := by
  have address : kernelAddress d p c + 4 * i = kernelAddress d p 0 + (c * 16 + 4 * i : Nat) := by
    simp only [kernelAddress]
    omega
  rw [address, layout.locate (by omega)]

theorem store_word (port : KernelPort) (idle : port.target = none) (word : i < 3) (value : Int) :
    port.store d (kernelAddress d p c + 4 * i) value =
      some { port with words := fun k => if k = i then value else port.words k } := by
  have aligned : (c * 16 + 4 * i) % 4 = 0 := by omega
  have number : (c * 16 + 4 * i) % 16 / 4 = i := by omega
  have early : (c * 16 + 4 * i) % 16 ≠ 12 := by omega
  simp only [store, kernelWindow?_word layout inside (show i < 4 by omega), idle, aligned, number, early,
    Option.bind_eq_bind, Option.bind_some, ne_eq, not_true_eq_false, if_false]

theorem store_last (port : KernelPort) (idle : port.target = none) (value : Int) :
    port.store d (kernelAddress d p c + 4 * (3 : Nat)) value =
      some { port with memory := port.memory.set p c port.waiting } := by
  have aligned : (c * 16 + 4 * 3) % 4 = 0 := by omega
  have last : (c * 16 + 4 * 3) % 16 = 12 := by omega
  have column : (c * 16 + 4 * 3) / 16 = c := by omega
  simp only [store, kernelWindow?_word layout inside (show 3 < 4 by omega), idle, aligned, last, column,
    Option.bind_eq_bind, Option.bind_some]
  rfl

theorem store_kernel (f : KernelRam) (kernel : IsKernel (f p c)) (port : KernelPort)
    (idle : port.target = none) :
    ∃ after, port.storeAll d (kernelStores d f (p, c)) = some after ∧
      after.memory = port.memory.set p c (f p c) ∧ after.target = none := by
  obtain ⟨w0, w1, w2, words⟩ : ∃ w0 w1 w2, kernelWords (f p c) = [w0, w1, w2, 0] := ⟨_, _, _, rfl⟩
  let loaded : KernelPort :=
    { port with words := fun k => if k = 2 then w2 else if k = 1 then w1 else if k = 0 then w0 else port.words k }
  refine ⟨{ loaded with memory := port.memory.set p c loaded.waiting }, ?_, ?_, idle⟩
  · simp only [kernelStores, words, zipIdx_cons, zipIdx_nil, map_cons, map_nil, storeAll,
      foldlM_cons, foldlM_nil, Nat.zero_add, Nat.reduceAdd]
    rw [store_word layout inside port idle (by omega), Option.bind_eq_bind, Option.bind_some]
    rw [store_word layout inside _ (by exact idle) (by omega), Option.bind_some]
    rw [store_word layout inside _ (by exact idle) (by omega), Option.bind_some]
    rw [store_last layout inside _ (by exact idle), Option.bind_some]
    rfl
  · have whole : loaded.waiting = f p c := by
      apply waiting_eq kernel
      intro i less
      rw [words]
      match i with
      | 0 | 1 | 2 => rfl
    rw [whole]

end

theorem store_kernels (layout : d.KernelWindows) (f : KernelRam) (cells : List (Nat × Nat))
    (kernels : ∀ cell ∈ cells, IsKernel (f cell.1 cell.2) ∧ cell.2 < d.maskSpacing) (port : KernelPort)
    (idle : port.target = none) : ∃ after, port.storeAll d (cells.flatMap (kernelStores d f)) = some after ∧
      after.memory = port.memory.fill f cells ∧ after.target = none := by
  induction cells generalizing port with
  | nil => exact ⟨port, rfl, rfl, idle⟩
  | cons cell cells ih =>
    obtain ⟨kernel, inside⟩ := kernels cell (by simp)
    obtain ⟨next, stored, memory, still⟩ := store_kernel layout inside f kernel port idle
    obtain ⟨after, rest, final, ended⟩ := ih (fun cell member => kernels cell (by simp [member])) next still
    refine ⟨after, ?_, ?_, ended⟩
    · rw [flatMap_cons, storeAll_append, stored]
      exact rest
    · rw [final, memory]
      rfl

/-- The words of processor `p` from column `first` on hold the bytes of a stream as far as nine of them
are there, and the others wait. -/
structure Streamed (ram : KernelRam) (p first : Nat) (bytes : List Int) (port : KernelPort) : Prop where
  target : port.target = some (p, first + bytes.length / 9)
  pending : port.pending = bytes.drop (9 * (bytes.length / 9))
  memory : ∀ q c, port.memory q c =
    if q = p ∧ first ≤ c ∧ c < first + bytes.length / 9 then (bytes.drop (9 * (c - first))).take 9 else ram q c

theorem Streamed.push (streamed : Streamed ram p first bytes port) (more : List Int) (few : more.length ≤ 9) :
    Streamed ram p first (bytes ++ more) (port.push p (first + bytes.length / 9) more) := by
  have waiting : port.pending ++ more = (bytes ++ more).drop (9 * (bytes.length / 9)) := by
    rw [streamed.pending, drop_append_of_le_length (by omega)]
  have count : (port.pending ++ more).length = bytes.length % 9 + more.length := by
    rw [waiting, length_drop, length_append]
    omega
  have total : (bytes ++ more).length = bytes.length + more.length := length_append
  -- Columns before the last one do not see the new bytes.
  have earlier : ∀ c, first ≤ c → c < first + bytes.length / 9 →
      ((bytes ++ more).drop (9 * (c - first))).take 9 = (bytes.drop (9 * (c - first))).take 9 := by
    intro c lower upper
    rw [drop_append_of_le_length (by omega), take_append_of_le_length]
    rw [length_drop]
    omega
  unfold KernelPort.push
  by_cases full : 9 ≤ (port.pending ++ more).length
  · rw [if_pos full]
    have next : (bytes ++ more).length / 9 = bytes.length / 9 + 1 := by omega
    refine ⟨by rw [next, Nat.add_assoc], ?_, ?_⟩
    · rw [waiting, drop_drop, next, Nat.mul_add]
    · intro q c
      simp only [KernelRam.set, streamed.memory, next]
      by_cases here : q = p ∧ c = first + bytes.length / 9
      · obtain ⟨rfl, rfl⟩ := here
        rw [if_pos ⟨rfl, rfl⟩, if_pos ⟨rfl, by omega, by omega⟩, waiting, Nat.add_sub_cancel_left]
      · rw [if_neg here]
        by_cases held : q = p ∧ first ≤ c ∧ c < first + bytes.length / 9
        · rw [if_pos held, if_pos ⟨held.1, held.2.1, by omega⟩, earlier c held.2.1 held.2.2]
        · rw [if_neg held, if_neg (by omega)]
  · rw [if_neg full]
    have same : (bytes ++ more).length / 9 = bytes.length / 9 := by omega
    refine ⟨by rw [same]; exact streamed.target, by rw [same]; exact waiting, ?_⟩
    intro q c
    rw [same, streamed.memory]
    by_cases held : q = p ∧ first ≤ c ∧ c < first + bytes.length / 9
    · rw [if_pos held, if_pos held, earlier c held.2.1 held.2.2]
    · rw [if_neg held, if_neg held]

theorem Streamed.storeAll (layout : d.KernelWindows) (words : List Int) {k : Nat}
    (window : 4 * (k + words.length) ≤ d.maskSpacing * 16) (streamed : Streamed ram p first bytes port) :
    ∃ after, port.storeAll d ((words.zipIdx k).map fun x => (kernelAddress d p 0 + 4 * x.2, x.1)) =
        some after ∧
      Streamed ram p first (bytes ++ words.flatMap wordBytes) after := by
  induction words generalizing k bytes port with
  | nil => exact ⟨port, rfl, by simpa using streamed⟩
  | cons word words ih =>
    rw [length_cons] at window
    have stored : port.store d (kernelAddress d p 0 + 4 * k) word =
        some (port.push p (first + bytes.length / 9) (wordBytes word)) := by
      have located := layout.locate (p := p) (r := 4 * k) (by omega)
      simp only [Int.natCast_mul, Int.cast_ofNat_Int] at located
      simp [store, located, streamed.target]
    obtain ⟨after, rest, final⟩ := ih (k := k + 1) (by omega) (streamed.push (wordBytes word) (by simp [wordBytes]))
    refine ⟨after, ?_, ?_⟩
    · rw [zipIdx_cons, map_cons, storeAll_cons, stored]
      exact rest
    · rw [flatMap_cons, ← append_assoc]
      exact final

theorem seek_streams (layout : d.KernelWindows) (port : KernelPort) (p first : Nat) (inside : first < d.maskSpacing) :
    ∃ after, port.seek d (kernelAddress d p 0 + first * 4 + 1) = some after ∧
      Streamed port.memory p first [] after := by
  have located := layout.locate (p := p) (r := first * 4 + 1) (by omega)
  have column : (first * 4 + 1) / 4 = first := by omega
  have bit : (first * 4 + 1) % 4 = 1 := by omega
  refine ⟨{ port with target := some (p, first), pending := [] }, ?_, rfl, rfl, ?_⟩
  · rw [show kernelAddress d p 0 + first * 4 + 1 = kernelAddress d p 0 + (first * 4 + 1 : Nat) by omega,
      seek, located]
    simp [column, bit]
  · intro q c
    rw [if_neg]
    simp only [length_nil]
    omega

end KernelPort

namespace KernelMemory

theorem flatMap_wordBytes (bytes : List Int) (range : ∀ b ∈ bytes, 0 ≤ b ∧ b < 256) :
    ∃ zeros < 4, (wordsOfBytes bytes).flatMap wordBytes = bytes ++ replicate zeros 0 ∧
      (wordsOfBytes bytes).length * 4 = bytes.length + zeros := by
  fun_induction wordsOfBytes bytes with
  | case1 a b c d rest ih =>
    obtain ⟨zeros, few, words, count⟩ := ih (fun x member => range x (by simp [member]))
    refine ⟨zeros, few, ?_, ?_⟩
    · rw [flatMap_cons, wordBytes_bigEndian (fun x member => range x (by simp at member ⊢; grind)), words]
      rfl
    · simp only [length_cons]
      omega
  | case2 => exact ⟨0, by omega, rfl, rfl⟩
  | case3 rest more_bytes some_bytes =>
    have short : rest.length < 4 := by
      match rest, more_bytes with
      | [], _ | [_], _ | [_, _], _ | [_, _, _], _ => simp
      | a :: b :: c :: d :: rest, more => exact (more a b c d rest rfl).elim
    have positive : 0 < rest.length := length_pos_iff.mpr some_bytes
    refine ⟨4 - rest.length, by omega, ?_, by simp only [length_singleton]; omega⟩
    have filled : ∃ a b c d, rest ++ replicate (4 - rest.length) 0 = [a, b, c, d] := by
      match rest, short with
      | [], _ | [_], _ | [_, _], _ | [_, _, _], _ => exact ⟨_, _, _, _, rfl⟩
    obtain ⟨a, b, c, d, same⟩ := filled
    have bytes : ∀ x ∈ [a, b, c, d], 0 ≤ x ∧ x < 256 := by
      rw [← same]
      intro x member
      rcases mem_append.mp member with member | member
      · exact range x member
      · rw [eq_of_mem_replicate member]
        omega
    rw [flatMap_singleton, same, wordBytes_bigEndian bytes]

end KernelMemory

end CnnForge
