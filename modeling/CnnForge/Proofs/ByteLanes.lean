import CnnForge.Bus.KnownAnswer
import CnnForge.Proofs.Outcome
import CnnForge.Proofs.OutputBlocks
import CnnForge.Unload.Verify

namespace CnnForge

attribute [local instance (2000)] instPowNat

open List

/-- Whether the word at the address of a check, masked, is the expected one. -/
def Check.passes (memory : Int → BitVec 32) (c : Check) : Bool :=
  memory c.address &&& BitVec.ofInt 32 c.mask == BitVec.ofInt 32 c.value

def Check.comparison {α : Type} (f : Int → α) (c : Check) : α × α × α := (f c.address, f c.mask, f c.value)

namespace Bus

section Loop

variable {α : Type}

def comparisons (f : Int → α) (address mask : Int) (values : List Int) : List (α × α × α) :=
  values.mapIdx fun k value => (f (address + 4 * k), f mask, f value)

def CheckBlock.comparisons (f : Int → α) (b : CheckBlock) : List (α × α × α) :=
  Bus.comparisons f b.address b.mask b.valuesRev.reverse

theorem blocksOf_comparisons (f : Int → α) (checks : List Check) (blocks : List CheckBlock) :
    (blocksOf checks blocks).reverse.flatMap (CheckBlock.comparisons f) =
      blocks.reverse.flatMap (CheckBlock.comparisons f) ++ checks.map (Check.comparison f) := by
  induction checks generalizing blocks with
  | nil => simp [blocksOf]
  | cons c checks ih =>
    have alone : CheckBlock.comparisons f ⟨c.address, c.mask, [c.value]⟩ = [c.comparison f] := by
      simp [CheckBlock.comparisons, comparisons, Check.comparison]
    cases blocks with
    | nil => simp [blocksOf, ih, alone]
    | cons b done =>
      rw [blocksOf]
      split
      · rename_i follows
        have longer : CheckBlock.comparisons f { b with valuesRev := c.value :: b.valuesRev } =
            b.comparisons f ++ [c.comparison f] := by
          simp only [CheckBlock.comparisons, comparisons, reverse_cons, mapIdx_concat, length_reverse]
          rw [Check.comparison, follows.1, follows.2, CheckBlock.next]
        simp [ih, longer]
      · simp [ih, alone]

/-- What holds of a block with one check, and still if a check follows, holds of all blocks. -/
theorem blocksOf_all {P : CheckBlock → Prop} {checks : List Check} {blocks : List CheckBlock}
    (starts : ∀ c ∈ checks, P ⟨c.address, c.mask, [c.value]⟩)
    (follows : ∀ c ∈ checks, ∀ b, P b → c.address = b.next → P { b with valuesRev := c.value :: b.valuesRev })
    (before : ∀ b ∈ blocks, P b) : ∀ b ∈ blocksOf checks blocks, P b := by
  induction checks generalizing blocks with
  | nil => exact before
  | cons c checks ih =>
    have later := fun blocks => @ih blocks (fun c member => starts c (mem_cons_of_mem _ member))
      (fun c member => follows c (mem_cons_of_mem _ member))
    have here := starts c (by simp)
    cases blocks with
    | nil => exact later _ (by simpa using here)
    | cons b done =>
      obtain ⟨first, others⟩ := forall_mem_cons.mp before
      rw [blocksOf]
      split
      · exact later _ (forall_mem_cons.mpr ⟨follows c (by simp) b first (And.right ‹_›), others⟩)
      · exact later _ (forall_mem_cons.mpr ⟨here, before⟩)

theorem blocksOf_ne_nil (checks : List Check) (b : CheckBlock) (done : List CheckBlock) :
    blocksOf checks (b :: done) ≠ [] := by
  induction checks generalizing b done with
  | nil => simp [blocksOf]
  | cons c checks ih =>
    rw [blocksOf]
    split <;> apply ih

/-- The variables of the loop that walks a table, the words from `ptr` on and the comparisons made so far. -/
structure LoopState (α : Type) where
  ptr : List α
  addr : α
  mask : α
  len : α
  made : List (α × α × α)

variable [Add α] [OfNat α 4]

/-- What a statement does with the word that it reads, as long as no comparison ends the loop. -/
def LoopStatement.exec? (s : LoopState α) (statement : LoopStatement) : Option (LoopState α) :=
  match s.ptr with
  | [] => none
  | word :: ptr =>
    match statement with
    | address => some { s with ptr, addr := word }
    | mask => some { s with ptr, mask := word }
    | length => some { s with ptr, len := word }
    | compare => some { s with ptr, addr := s.addr + 4, made := s.made ++ [(s.addr, s.mask, word)] }

theorem compares_words {f : Int → α} (next : ∀ a, f (a + 4) = f a + 4) (values : List Int) (rest : List α)
    (address mask : Int) (len : α) (made : List (α × α × α)) :
    ∃ addr, (replicate values.length LoopStatement.compare).foldlM LoopStatement.exec?
      ⟨values.map f ++ rest, f address, f mask, len, made⟩ =
        some ⟨rest, addr, f mask, len, made ++ comparisons f address mask values⟩ := by
  induction values generalizing address made with
  | nil => exact ⟨f address, by simp [comparisons]⟩
  | cons value values ih =>
    obtain ⟨addr, ran⟩ := ih (address + 4) (made ++ [(f address, f mask, f value)])
    refine ⟨addr, ?_⟩
    have shift : ∀ k : Nat, address + 4 * ((k + 1 : Nat) : Int) = address + 4 + 4 * k := by omega
    rw [length_cons, replicate_succ, foldlM_cons, comparisons, mapIdx_cons, append_cons]
    simp only [shift, Int.natCast_zero, Int.mul_zero, Int.add_zero]
    refine Eq.trans ?_ ran
    rw [next]
    rfl

variable [OfNat α 0] [DecidableEq α]

/-- At most `n` rounds of the loop, with the comparisons of all of them. -/
def rounds? (toNat : α → Nat) : Nat → LoopState α → Option (List (α × α × α))
  | 0, _ => none
  | n + 1, s => do
    let s ← LoopStatement.address.exec? s
    if s.addr = 0 then return s.made
    let s ← [LoopStatement.mask, .length].foldlM LoopStatement.exec? s
    rounds? toNat n (← (replicate (toNat s.len) LoopStatement.compare).foldlM LoopStatement.exec? s)

/-- The comparisons of the loop, or `none` if it reads past the end. Every round reads a word, so that there are not
more rounds than words. -/
def performed? (toNat : α → Nat) (table : List α) : Option (List (α × α × α)) :=
  rounds? toNat table.length ⟨table, 0, 0, 0, []⟩

variable {f : Int → α} {toNat : α → Nat} (next : ∀ a, f (a + 4) = f a + 4) (zero : f 0 = 0)
include next zero

theorem rounds_encode {blocks : List CheckBlock}
    (inside : ∀ b ∈ blocks, f b.address ≠ 0 ∧ toNat (f b.valuesRev.length) = b.valuesRev.length) {n : Nat}
    (enough : (blocks.flatMap CheckBlock.encode ++ [0]).length ≤ n) (addr mask len : α) (made : List (α × α × α)) :
    rounds? toNat n ⟨(blocks.flatMap CheckBlock.encode ++ [0]).map f, addr, mask, len, made⟩ =
      some (made ++ blocks.flatMap (CheckBlock.comparisons f)) := by
  induction blocks generalizing n addr mask len made with
  | nil =>
    obtain ⟨n, rfl⟩ := Nat.exists_eq_add_of_le' enough
    simp [rounds?, LoopStatement.exec?, zero]
  | cons b blocks ih =>
    obtain ⟨⟨address, length⟩, later⟩ := forall_mem_cons.mp inside
    rw [flatMap_cons, append_assoc, length_append] at enough
    rw [flatMap_cons, append_assoc, flatMap_cons]
    generalize blocks.flatMap CheckBlock.encode ++ [0] = rest at ih enough ⊢
    have some_words : 1 ≤ b.encode.length + rest.length := by
      simp only [CheckBlock.encode, length_append, length_cons]
      omega
    obtain ⟨n, rfl⟩ := Nat.exists_eq_add_of_le' (Nat.le_trans some_words enough)
    -- The first round reads the block, the others the words after it.
    obtain ⟨addr, ran⟩ := compares_words next b.valuesRev.reverse (rest.map f) b.address b.mask
      (f b.valuesRev.length) made
    rw [length_reverse] at ran
    simp only [CheckBlock.encode, length_append, length_cons] at enough
    simp only [CheckBlock.encode, map_append, map_cons, cons_append, nil_append, rounds?, LoopStatement.exec?,
      foldlM_cons, foldlM_nil, Option.bind_eq_bind, Option.bind_some, Option.pure_def, if_neg address, length, ran]
    rw [← append_assoc]
    exact ih later (by omega) _ _ _ _

theorem performed_checkTable {checks : List Check} (some_checks : checks ≠ [])
    (inside : ∀ b ∈ blocksOf checks [], f b.address ≠ 0 ∧ toNat (f b.valuesRev.length) = b.valuesRev.length) :
    performed? toNat ((checkTable checks).map f) = some (checks.map (Check.comparison f)) := by
  have all := blocksOf_comparisons f checks []
  unfold checkTable
  split
  · rename_i none
    cases checks with
    | nil => exact absurd rfl some_checks
    | cons c checks => exact absurd none (blocksOf_ne_nil checks _ _)
  · rw [performed?, rounds_encode next zero (fun b member => inside b (mem_reverse.mp member)) (by simp), all]
    rfl

end Loop

/-- Whether all comparisons of the loop that walks a table find the expected words. -/
def tablePasses (memory : Int → BitVec 32) (table : List Int) : Bool :=
  (performed? Int.toNat table).elim false (·.all fun c => memory c.1 &&& .ofInt 32 c.2.1 == .ofInt 32 c.2.2)

theorem checkTable_passes (memory : Int → BitVec 32) {checks : List Check} (some_checks : checks ≠ [])
    (nonzero : ∀ c ∈ checks, c.address ≠ 0) :
    tablePasses memory (checkTable checks) = checks.all (Check.passes memory) := by
  have made : performed? Int.toNat ((checkTable checks).map id) = _ :=
    performed_checkTable (fun _ => rfl) rfl some_checks fun b member =>
      ⟨blocksOf_all (P := fun b => b.address ≠ 0) nonzero (fun _ _ _ here _ => here) (by simp) b member,
        Int.toNat_natCast _⟩
  rw [map_id] at made
  rw [tablePasses, made, Option.elim_some, all_map]
  rfl

end Bus

variable {values : List Int} {bytes : Nat} {address value : Int} {style : VerifyStyle}

theorem flatMap_range_flatMap {α : Type} (k n : Nat) (f : Nat → Nat → List α) :
    (range k).flatMap (fun i => (range n).flatMap (f i)) =
      (range (k * n)).flatMap fun b => f (b / n) (b % n) := by
  induction k with
  | zero => simp
  | succ k ih =>
    rw [range_succ, flatMap_append, ih, flatMap_singleton, Nat.succ_mul, range_add,
      flatMap_append, flatMap_map]
    have last : ∀ j ∈ range n, f k j = f ((k * n + j) / n) ((k * n + j) % n) := by
      intro j member
      have inside := mem_range.mp member
      rw [Nat.mul_comm, Nat.mul_add_div (by omega), Nat.mul_add_mod, Nat.div_eq_of_lt inside, Nat.mod_eq_of_lt inside,
        Nat.add_zero]
    rw [flatMap_def (f := f k), map_congr_left last, ← flatMap_def]

namespace Bits

theorem or_natCast (x y : Nat) : Bits.or x y = ((x ||| y : Nat) : Int) := by
  have left : -(x : Int) - 1 = Int.negSucc x := by omega
  have right : -(y : Int) - 1 = Int.negSucc y := by omega
  rw [Bits.or, left, right]
  simp only [Bits.and]
  omega

theorem or_zero (v : Int) : Bits.or v 0 = v := by
  cases v with
  | ofNat n => simpa using or_natCast n 0
  | negSucc n =>
    have left : -Int.negSucc n - 1 = (n : Int) := by omega
    rw [Bits.or, left]
    show -((n - (n &&& 0) : Nat) : Int) - 1 = _
    rw [Nat.and_zero]
    omega

theorem or_up {acc v k : Nat} (below : acc < 2 ^ k) : Bits.or acc (up v k) = ((acc + 2 ^ k * v : Nat) : Int) := by
  have moved : up (v : Int) k = ((2 ^ k * v : Nat) : Int) := by simp [up, Int.mul_comm]
  rw [moved, or_natCast, Nat.or_comm, ← Nat.two_pow_add_eq_or_of_lt below, Nat.add_comm]

theorem low_eq_emod (k : Nat) (v : Int) : low k v = v % 2 ^ k := rfl

theorem byte_eq_emod (v : Int) : byte v = v % 256 := rfl

theorem byte_natCast (v : Int) : ∃ x : Nat, x < 256 ∧ byte v = x := by
  rw [byte_eq_emod]
  exact ⟨(v % 256).toNat, by omega, by omega⟩

end Bits

namespace Unload

open Bits List

theorem packLanes_four (a b c d : Int) :
    packLanes [a, b, c, d] = byte a + byte b * 2 ^ 8 + byte c * 2 ^ 16 + byte d * 2 ^ 24 := by
  obtain ⟨x, xlt, hx⟩ := byte_natCast a
  obtain ⟨y, ylt, hy⟩ := byte_natCast b
  obtain ⟨z, zlt, hz⟩ := byte_natCast c
  obtain ⟨w, wlt, hw⟩ := byte_natCast d
  have first : Bits.or 0 (Bits.up x 0) = ((0 + 2 ^ 0 * x : Nat) : Int) := @or_up 0 x 0 (by decide)
  simp only [packLanes, zipIdx_cons, zipIdx_nil, foldl_cons, foldl_nil, hx, hy, hz, hw, Nat.mul_zero, Nat.zero_add]
  rw [first, or_up (by omega), or_up (by omega), or_up (by omega)]
  omega

theorem lane_eq_iff (x : BitVec 32) (lane : Nat) {v : Int} {n : Nat} (value : byte v = n) :
    x.extractLsb' (8 * lane) 8 = BitVec.ofInt 8 v ↔ x.toNat / 2 ^ (8 * lane) % 256 = n := by
  rw [byte_eq_emod] at value
  rw [← BitVec.toNat_inj, BitVec.extractLsb'_toNat, BitVec.toNat_ofInt, Nat.shiftRight_eq_div_pow]
  rw [show ((2 ^ 8 : Nat) : Int) = 256 from rfl, value, Int.toNat_natCast]

theorem packLanes_bytes (four : values.length = 4) (word : bytes ≤ 4) (x : BitVec 32) :
    ∃ w : Nat, packLanes values = w ∧ w < 2 ^ 32 ∧
      (x.toNat % 2 ^ (8 * bytes) = w % 2 ^ (8 * bytes) ↔
        ∀ lane < bytes, x.extractLsb' (8 * lane) 8 = BitVec.ofInt 8 (values.getD lane 0)) := by
  obtain ⟨a, b, c, d, rfl⟩ : ∃ a b c d, values = [a, b, c, d] := by
    match values, four with
    | [a, b, c, d], _ => exact ⟨a, b, c, d, rfl⟩
  obtain ⟨i, ilt, first⟩ := byte_natCast a
  obtain ⟨j, jlt, second⟩ := byte_natCast b
  obtain ⟨k, klt, third⟩ := byte_natCast c
  obtain ⟨m, mlt, fourth⟩ := byte_natCast d
  have bound := x.isLt
  have lanes : ∀ lane < bytes, (x.extractLsb' (8 * lane) 8 = BitVec.ofInt 8 ([a, b, c, d].getD lane 0) ↔
      x.toNat / 2 ^ (8 * lane) % 256 = [i, j, k, m].getD lane 0) := by
    intro lane below
    have cases : lane = 0 ∨ lane = 1 ∨ lane = 2 ∨ lane = 3 := by omega
    rcases cases with rfl | rfl | rfl | rfl
    · exact lane_eq_iff x 0 first
    · exact lane_eq_iff x 1 second
    · exact lane_eq_iff x 2 third
    · exact lane_eq_iff x 3 fourth
  refine ⟨i + j * 2 ^ 8 + k * 2 ^ 16 + m * 2 ^ 24, ?_, by omega, ?_⟩
  · rw [packLanes_four, first, second, third, fourth]
    omega
  · rw [forall_congr' fun lane => forall_congr' (lanes lane)]
    have cases : bytes = 0 ∨ bytes = 1 ∨ bytes = 2 ∨ bytes = 3 ∨ bytes = 4 := by omega
    rcases cases with rfl | rfl | rfl | rfl | rfl
    all_goals
      simp only [Nat.forall_lt_succ_right, Nat.not_lt_zero, false_implies, implies_true, true_and, getD_cons_zero,
        getD_cons_succ, Nat.mul_zero, Nat.pow_zero, Nat.mod_one, Nat.div_one]
    all_goals omega

def laneValue (data : Tensor) (l : OutputLayout) (b : OutputBlock) (row column lane : Nat) : Option Int :=
  let c := b.first + countBelow b.lanes lane
  if b.lanes.testBit lane = true ∧ c < l.shape.channels then InputLayout.element? data c row column
  else some 0

theorem laneValues_eq (data : Tensor) (l : OutputLayout) (b : OutputBlock) (row column : Nat) :
    laneValues data l b row column = (range 4).map (laneValue data l b row column) := by
  -- After some lanes, the fold has their values and the channel of the next one.
  have lanes : ∀ n, (range n).foldl (fun ((vs, c) : List (Option Int) × Nat) lane =>
      if b.lanes.testBit lane then
        let v := if c < l.shape.channels then InputLayout.element? data c row column else some 0
        (vs ++ [v], c + 1)
      else (vs ++ [some 0], c)) ([], b.first) =
        ((range n).map (laneValue data l b row column), b.first + countBelow b.lanes n) := by
    intro n
    induction n with
    | zero => rfl
    | succ n ih =>
      rw [range_succ, foldl_append, ih, map_append, countBelow]
      simp only [foldl_cons, foldl_nil, map_cons, map_nil, laneValue]
      by_cases used : b.lanes.testBit n = true
      · simp [used, Nat.add_assoc]
      · simp [used]
  rw [laneValues, lanes]

theorem lanes_some {f : Nat → Option Int} (found : ((range 4).map f).mapM id = some values) :
    values.length = 4 ∧ ∀ lane < 4, f lane = some (values.getD lane 0) := by
  have range : range 4 = [0, 1, 2, 3] := rfl
  rw [range] at found
  simp only [map_cons, map_nil, mapM_cons, mapM_nil, id, Option.pure_def, Option.bind_eq_bind,
    Option.bind_eq_some_iff, Option.some.injEq] at found
  obtain ⟨a, first, _, ⟨b', second, _, ⟨c, third, _, ⟨d, fourth, _, rfl, rfl⟩, rfl⟩, rfl⟩, rfl⟩ := found
  refine ⟨rfl, ?_⟩
  intro lane bound
  have cases : lane = 0 ∨ lane = 1 ∨ lane = 2 ∨ lane = 3 := by omega
  rcases cases with rfl | rfl | rfl | rfl
  · exact first
  · exact second
  · exact third
  · exact fourth

theorem laneValues_some {data : Tensor} {l : OutputLayout} {b : OutputBlock} {row column : Nat}
    (found : (laneValues data l b row column).mapM id = some values) :
    values.length = 4 ∧ ∀ lane < 4, laneValue data l b row column lane = some (values.getD lane 0) := by
  rw [laneValues_eq] at found
  exact lanes_some found

end Unload

namespace Bus

open Outcome

def byteCheck (address value : Int) (bytes : Nat) (continues : Bool) (comment : String) : Check :=
  if bytes = 4 then
    { mask := 0xffffffff, address, maskText := "", value, bytes := 4, continues, comment }
  else
    let mask : Int := 2 ^ (8 * bytes) - 1
    { mask, address, maskText := s!" & 0x{Text.hex (2 * bytes) mask}", value := Bits.and value mask,
      bytes, continues, comment }

theorem checkOf_eq (plain : style.mask = none) (lowest : style.lane = 0) (size : style.bytes = bytes) (some_bytes : 1 ≤ bytes)
    (word : bytes ≤ 4) :
    checkOf address value style = pure (byteCheck address value bytes style.continues style.comment) := by
  have cases : bytes = 1 ∨ bytes = 2 ∨ bytes = 3 ∨ bytes = 4 := by omega
  rcases cases with rfl | rfl | rfl | rfl
  all_goals
    simp only [checkOf, laneMask, byteMask, plain, lowest, size, Run.check, toLane, Bits.up]
    rfl

theorem checkOf_ok {c : Check} {before after : Session} (plain : style.mask = none) (lowest : style.lane = 0) :
    (checkOf address value style).run before = .ok c after ↔ 1 ≤ style.bytes ∧ style.bytes ≤ 4 ∧
      byteCheck address value style.bytes.toNat style.continues style.comment = c ∧ before = after := by
  by_cases inside : 1 ≤ style.bytes ∧ style.bytes ≤ 4
  · rw [checkOf_eq plain lowest (show style.bytes = style.bytes.toNat by omega) (by omega) (by omega), pure_ok, ← and_assoc]
    exact (and_iff_right inside).symm
  · have other : style.bytes ≠ 4 ∧ style.bytes ≠ 3 ∧ style.bytes ≠ 2 ∧ style.bytes ≠ 1 := by omega
    simp only [checkOf, laneMask, byteMask, plain, other, if_false, bind_ok, throw_ok, false_and, exists_false, false_iff]
    omega

theorem byteCheck_passes (memory : Int → BitVec 32) (address : Int) {value : Nat} (fits : value < 2 ^ 32)
    (some_bytes : 1 ≤ bytes) (word : bytes ≤ 4) (continues : Bool) (comment : String) :
    (byteCheck address value bytes continues comment).passes memory = true ↔
      (memory address).toNat % 2 ^ (8 * bytes) = value % 2 ^ (8 * bytes) := by
  have bound := (memory address).isLt
  by_cases whole : bytes = 4
  · subst whole
    have all : BitVec.ofInt 32 0xffffffff = BitVec.allOnes 32 := by decide
    rw [byteCheck, if_pos rfl, Check.passes, beq_iff_eq, all, BitVec.and_allOnes, BitVec.ofInt_natCast,
      ← BitVec.toNat_inj, BitVec.toNat_ofNat]
    dsimp only
    omega
  · have power : 2 ^ (8 * bytes) ≤ 2 ^ 24 := Nat.pow_le_pow_right (by decide) (by omega)
    have positive := Nat.two_pow_pos (8 * bytes)
    have mask : ((2 : Int) ^ (8 * bytes) - 1) = ((2 ^ (8 * bytes) - 1 : Nat) : Int) := by
      rw [Int.natCast_sub positive]
      simp
    have less : value % 2 ^ (8 * bytes) < 2 ^ 32 := Nat.lt_of_le_of_lt (Nat.mod_le _ _) fits
    rw [byteCheck, if_neg whole, Check.passes, beq_iff_eq]
    simp only [mask]
    rw [show Bits.and (value : Int) ((2 ^ (8 * bytes) - 1 : Nat) : Int) =
        ((value &&& (2 ^ (8 * bytes) - 1) : Nat) : Int) from rfl, BitVec.ofInt_natCast, BitVec.ofInt_natCast,
      ← BitVec.toNat_inj, BitVec.toNat_and, BitVec.toNat_ofNat, BitVec.toNat_ofNat,
      Nat.mod_eq_of_lt (show 2 ^ (8 * bytes) - 1 < 2 ^ 32 by omega), Nat.and_two_pow_sub_one_eq_mod,
      Nat.and_two_pow_sub_one_eq_mod, Nat.mod_eq_of_lt less]

end Bus

end CnnForge
