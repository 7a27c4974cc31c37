import CnnForge.Unload.Program

namespace CnnForge

open List

/-- State of a copying program. It keeps the addresses that were read and the stores that were made. -/
structure CopyState where
  source : Int := 0
  word : BitVec 32 := 0
  target : Nat := 0
  offset : Nat := 0
  reads : List Int := []
  stores : List (Nat × BitVec 32) := []

def laneByte (word : BitVec 32) (lane : Nat) : BitVec 32 := word >>> (8 * lane) &&& 0xff

namespace UnloadOp

def run (memory : Int → BitVec 32) (s : CopyState) : UnloadOp → CopyState
  | copyWord stride =>
    { s with source := s.source + stride, target := s.target + 1, reads := s.reads ++ [s.source],
             stores := s.stores ++ [(s.target, memory s.source)] }
  | readWord stride =>
    { s with source := s.source + stride, word := memory s.source, reads := s.reads ++ [s.source] }
  | storeByte lane distance =>
    { s with stores := s.stores ++ [(s.target + s.offset + if lane > 0 then distance else 0, laneByte s.word lane)] }
  | storeNext lane => { s with target := s.target + 1, stores := s.stores ++ [(s.target, laneByte s.word lane)] }
  | advance => { s with offset := s.offset + 1 }

/-- The distances that an operation names. Its text has no sign for them. -/
def strides : UnloadOp → List Int
  | copyWord stride | readWord stride => [stride]
  | _ => []

def runAll (memory : Int → BitVec 32) (body : List UnloadOp) (s : CopyState) : CopyState := body.foldl (run memory) s

def runTimes (memory : Int → BitVec 32) (body : List UnloadOp) : Nat → CopyState → CopyState
  | 0, s => s
  | n + 1, s => runTimes memory body n (runAll memory body s)

variable (memory : Int → BitVec 32) (body : List UnloadOp)

theorem runTimes_add (m n : Nat) (s : CopyState) :
    runTimes memory body (m + n) s = runTimes memory body n (runTimes memory body m s) := by
  induction m generalizing s with
  | zero => rw [Nat.zero_add, runTimes]
  | succ m ih => rw [Nat.succ_add, runTimes, runTimes, ih]

theorem runAll_replicate (n : Nat) (s : CopyState) :
    runAll memory (replicate n body).flatten s = runTimes memory body n s := by
  induction n generalizing s with
  | zero => rfl
  | succ n ih =>
    rw [replicate_succ, flatten_cons, runAll, foldl_append]
    exact ih _

theorem runTimes_replicate (times n : Nat) (s : CopyState) :
    runTimes memory (replicate n body).flatten times s = runTimes memory body (times * n) s := by
  induction times generalizing s with
  | zero => rw [Nat.zero_mul, runTimes, runTimes]
  | succ times ih => rw [runTimes, runAll_replicate, ih, Nat.succ_mul, Nat.add_comm, runTimes_add]

end UnloadOp

namespace UnloadStatement

def run (memory : Int → BitVec 32) (s : CopyState) : UnloadStatement → CopyState
  | source address => { s with source := address }
  | rewind => { s with offset := 0 }
  | skip distance => { s with offset := s.offset + distance }
  | repeated times body => UnloadOp.runTimes memory body times s

def strides : UnloadStatement → List Int
  | repeated _ body => body.flatMap UnloadOp.strides
  | _ => []

end UnloadStatement

namespace Unload

def execute (memory : Int → BitVec 32) (program : List UnloadStatement) (s : CopyState) : CopyState :=
  program.foldl (UnloadStatement.run memory) s

def Printable (program : List UnloadStatement) : Prop := ∀ t ∈ program, ∀ stride ∈ t.strides, 0 ≤ stride

section

variable (memory : Int → BitVec 32)

@[simp] theorem execute_nil (s : CopyState) : execute memory [] s = s := rfl

@[simp] theorem execute_cons (t : UnloadStatement) (program : List UnloadStatement)
    (s : CopyState) : execute memory (t :: program) s = execute memory program (t.run memory s) := rfl

@[simp] theorem execute_append (first second : List UnloadStatement) (s : CopyState) :
    execute memory (first ++ second) s = execute memory second (execute memory first s) :=
  foldl_append

@[simp] theorem printable_nil : Printable [] := by simp [Printable]

@[simp] theorem printable_cons {t : UnloadStatement} {program : List UnloadStatement} :
    Printable (t :: program) ↔ (∀ stride ∈ t.strides, 0 ≤ stride) ∧ Printable program := by
  simp [Printable]

@[simp] theorem printable_append {first second : List UnloadStatement} :
    Printable (first ++ second) ↔ Printable first ∧ Printable second := by
  simp only [Printable, mem_append, or_imp, forall_and]

theorem loop_and_rest (chunk : Int) {n : Nat} (some_left : n ≠ 0) :
    max 1 (if chunk > 0 then n / max 1 chunk.toNat else 1) * min n (max 1 chunk.toNat) +
      (n - max 1 (if chunk > 0 then n / max 1 chunk.toNat else 1) * max 1 chunk.toNat) = n := by
  generalize sized : max 1 chunk.toNat = size
  by_cases less : n < size
  · have loops : chunk > 0 := by omega
    rw [if_pos loops, Nat.div_eq_of_lt less, Nat.max_eq_left (by omega)]
    omega
  · rw [Nat.min_eq_right (by omega)]
    have le : max 1 (if chunk > 0 then n / size else 1) * size ≤ n := by
      split
      · have one : 1 ≤ n / size := (Nat.le_div_iff_mul_le (by omega)).mpr (by omega)
        rw [Nat.max_eq_right one]
        exact Nat.div_mul_le_self n size
      · have one : size = 1 := by omega
        rw [one]
        omega
    omega

theorem execute_unrolled (chunk : Int) (body : List UnloadOp) (n : Nat) (s : CopyState) :
    execute memory (unrolled chunk body n) s = UnloadOp.runTimes memory body n s := by
  fun_induction unrolled chunk body n generalizing s with
  | case1 => rfl
  | case2 n some_left size times ih =>
    rw [execute_cons, ih, UnloadStatement.run, UnloadOp.runTimes_replicate, ← UnloadOp.runTimes_add]
    exact congrArg (fun m => UnloadOp.runTimes memory body m s) (loop_and_rest chunk some_left)

end

theorem printable_unrolled (chunk : Int) (body : List UnloadOp) {n : Nat} (some_words : n ≠ 0) :
    Printable (unrolled chunk body n) ↔ ∀ op ∈ body, ∀ stride ∈ op.strides, 0 ≤ stride := by
  fun_induction unrolled chunk body n with
  | case1 => exact absurd rfl some_words
  | case2 n some_left size times ih =>
    have copies : ∀ op, op ∈ (replicate (min n size) body).flatten ↔ op ∈ body := by
      intro op
      simp only [mem_flatten, mem_replicate]
      constructor
      · rintro ⟨_, ⟨_, rfl⟩, member⟩
        exact member
      · intro member
        exact ⟨body, ⟨by omega, rfl⟩, member⟩
    have here : (∀ stride ∈ (UnloadStatement.repeated times (replicate (min n size) body).flatten).strides,
        0 ≤ stride) ↔ ∀ op ∈ body, ∀ stride ∈ op.strides, 0 ≤ stride := by
      simp only [UnloadStatement.strides, mem_flatMap, copies]
      constructor
      · intro all op member stride named
        exact all stride ⟨op, member, named⟩
      · rintro all stride ⟨op, member, named⟩
        exact all op member stride named
    rw [printable_cons, here]
    by_cases left : n - times * size = 0
    · rw [left, unrolled]
      simp
    · rw [ih left, and_self]

end Unload

end CnnForge
