import CnnForge.KernelMemory.Basic

namespace CnnForge

inductive SearchEnd where
  | exhausted (offset : Nat)
  | outside
deriving Repr, DecidableEq, Inhabited

structure SearchSpace where
  taken : Nat → Nat → Bool
  width : Nat → Nat
  columns : Nat
  step : Nat
  step_pos : 0 < step
  length : Int

namespace SearchSpace

def fits (s : SearchSpace) (p column : Nat) : Bool := (column : Int) + s.length ≤ s.width p

def firstTaken (s : SearchSpace) (p : Nat) : Nat → Nat → Except SearchEnd (Option Nat)
  | 0, _ => .ok none
  | n + 1, column =>
    if column < s.columns then
      if s.taken p column then .ok (some column) else s.firstTaken p n (column + 1)
    else .error .outside

theorem firstTaken_ge {s : SearchSpace} {p n column i : Nat}
    (h : s.firstTaken p n column = .ok (some i)) : column ≤ i := by
  induction n generalizing column with
  | zero => simp [firstTaken] at h
  | succ n ih =>
    unfold firstTaken at h
    split at h
    · split at h
      · simp only [Except.ok.injEq, Option.some.injEq] at h
        omega
      · have := ih h
        omega
    · cases h

def roundUp (step n : Nat) : Nat := (n + step - 1) / step * step

theorem le_roundUp {step n : Nat} (h : 0 < step) : n ≤ roundUp step n := by
  have h1 := Nat.div_add_mod (n + step - 1) step
  have h2 := Nat.mod_lt (n + step - 1) h
  rw [Nat.mul_comm] at h1
  unfold roundUp
  omega

/-- The column at which all of `processors` have room, from candidate `column` on. `left` are the
processors that still have to be examined. A candidate that is taken itself moves on for the same
processor; a taken column above it restarts with all processors. -/
def search (s : SearchSpace) (processors : List Nat) : List Nat → Nat → Except SearchEnd Nat
  | [], column => .ok column
  | p :: left, column =>
    if column < s.columns then
      if s.taken p column then
        if s.fits p (column + s.step) then s.search processors (p :: left) (column + s.step)
        else .error (.exhausted (column + s.step))
      else
        match h : s.firstTaken p (s.length - 1).toNat (column + 1) with
        | .error e => .error e
        | .ok none => s.search processors left column
        | .ok (some i) =>
          if s.fits p (roundUp s.step (i + 1)) then
            s.search processors processors (roundUp s.step (i + 1))
          else .error (.exhausted (roundUp s.step (i + 1)))
    else .error .outside
termination_by left column => (s.columns - column, left.length)
decreasing_by
  · have := s.step_pos
    apply Prod.Lex.left
    omega
  · apply Prod.Lex.right
    simp
  · have h1 := firstTaken_ge h
    have h2 : i + 1 ≤ roundUp s.step (i + 1) := le_roundUp s.step_pos
    apply Prod.Lex.left
    omega

end SearchSpace

end CnnForge
