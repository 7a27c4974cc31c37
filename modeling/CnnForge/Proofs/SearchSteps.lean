import CnnForge.Proofs.ColumnSearch
import CnnForge.Proofs.ProcessorMaps

namespace CnnForge

attribute [local instance (2000)] instPowNat

open List

namespace SearchSpace

/-- Where a search stands: at a processor, used or not, with a candidate column. -/
structure Place where
  processor : Nat
  column : Nat

section

variable (s : SearchSpace) (used : Nat → Bool) (first last : Nat)

/-- One step of the search: its end, or the place where it goes on. A processor that is not used is passed over. -/
def advance (a : Place) : Except SearchEnd Nat ⊕ Place :=
  if last < a.processor then .inl (.ok a.column)
  else if used a.processor then
    if a.column < s.columns then
      if s.taken a.processor a.column then
        if s.fits a.processor (a.column + s.step) then .inr ⟨a.processor, a.column + s.step⟩
        else .inl (.error (.exhausted (a.column + s.step)))
      else
        match s.firstTaken a.processor (s.length - 1).toNat (a.column + 1) with
        | .error e => .inl (.error e)
        | .ok none => .inr ⟨a.processor + 1, a.column⟩
        | .ok (some i) =>
          if s.fits a.processor (roundUp s.step (i + 1)) then .inr ⟨first, roundUp s.step (i + 1)⟩
          else .inl (.error (.exhausted (roundUp s.step (i + 1))))
    else .inl (.error .outside)
  else .inr ⟨a.processor + 1, a.column⟩

def endWithin : Nat → Place → Option (Except SearchEnd Nat)
  | 0, _ => none
  | n + 1, a => (s.advance used first last a).elim some (endWithin n)

/-- The columns left above the candidate, and the processors left. -/
def remaining (a : Place) : Nat × Nat := (s.columns - a.column, last + 1 - a.processor)

/-- A bound of the steps that are left: for each column that is left, all processors and the move itself. -/
def stepsLeft (a : Place) : Nat := (s.columns - a.column) * (last + 2) + (last + 1 - a.processor)

end

def usedFrom (used : Nat → Bool) (last p : Nat) : List Nat := (range' p (last + 1 - p)).filter used

variable {s : SearchSpace} {used : Nat → Bool} {first last : Nat} {a b : Place}

theorem usedFrom_past {p : Nat} (past : last < p) : usedFrom used last p = [] := by
  rw [usedFrom, Nat.sub_eq_zero_of_le past]
  rfl

theorem usedFrom_eq {p : Nat} (inside : ¬last < p) :
    usedFrom used last p = if used p then p :: usedFrom used last (p + 1) else usedFrom used last (p + 1) := by
  have count : last + 1 - p = last + 1 - (p + 1) + 1 := by omega
  rw [usedFrom, usedFrom, count, range'_succ, filter_cons]

/-- A step either passes a processor at the same candidate or goes on to a higher candidate, at the same processor or
at the first. -/
theorem advance_cases (next : s.advance used first last a = .inr b) :
    a.processor ≤ last ∧ b = ⟨a.processor + 1, a.column⟩ ∨
      a.column < s.columns ∧ a.column < b.column ∧ (b.processor = a.processor ∨ b.processor = first) := by
  unfold advance at next
  split at next
  · cases next
  rename_i inside
  have passes := Nat.le_of_not_lt inside
  split at next
  · split at next
    · rename_i left
      split at next
      · split at next
        · cases next
          have moves := s.step_pos
          exact .inr ⟨left, by dsimp only; omega, .inl rfl⟩
        · cases next
      · split at next
        · cases next
        · cases next
          exact .inl ⟨passes, rfl⟩
        · rename_i i blocked
          split at next
          · cases next
            have above := firstTaken_ge blocked
            have rounded : i + 1 ≤ roundUp s.step (i + 1) := le_roundUp s.step_pos
            exact .inr ⟨left, by dsimp only; omega, .inr rfl⟩
          · cases next
    · cases next
  · cases next
    exact .inl ⟨passes, rfl⟩

theorem remaining_decreases (next : s.advance used first last a = .inr b) :
    Prod.Lex (· < ·) (· < ·) (s.remaining last b) (s.remaining last a) := by
  rcases advance_cases next with ⟨inside, rfl⟩ | ⟨left, above, _⟩
  · exact .right _ (by dsimp only; omega)
  · exact .left _ _ (by omega)

theorem stepsLeft_decreases (next : s.advance used first last a = .inr b) :
    s.stepsLeft last b < s.stepsLeft last a := by
  unfold stepsLeft
  rcases advance_cases next with ⟨inside, rfl⟩ | ⟨left, above, place⟩
  · dsimp only
    omega
  · have fewer : (s.columns - b.column + 1) * (last + 2) ≤ (s.columns - a.column) * (last + 2) :=
      Nat.mul_le_mul_right _ (by omega)
    rw [Nat.succ_mul] at fewer
    rcases place with same | back <;> omega

/-- The search is at the end of its steps, or where the step goes on. -/
theorem search_advance :
    s.search (usedFrom used last first) (usedFrom used last a.processor) a.column =
      (s.advance used first last a).elim id fun b =>
        s.search (usedFrom used last first) (usedFrom used last b.processor) b.column := by
  unfold advance
  split
  · rename_i past
    rw [usedFrom_past past, search]
    rfl
  rename_i inside
  rw [usedFrom_eq inside]
  split
  · split
    · rename_i left
      split
      · rename_i taken
        rw [search, if_pos left, if_pos taken]
        split
        · rw [Sum.elim_inr, usedFrom_eq inside, if_pos ‹_›]
        · rfl
      · rename_i untaken
        rw [search_untaken left untaken]
        cases s.firstTaken a.processor (s.length - 1).toNat (a.column + 1) with
        | error e => rfl
        | ok blocked =>
          cases blocked with
          | none => rfl
          | some i =>
            dsimp only
            split <;> rfl
    · rename_i outside
      rw [search, if_neg outside]
      rfl
  · rfl

theorem endWithin_eq_search {n : Nat} (enough : s.stepsLeft last a < n) :
    s.endWithin used first last n a =
      some (s.search (usedFrom used last first) (usedFrom used last a.processor) a.column) := by
  induction n generalizing a with
  | zero => omega
  | succ n ih =>
    rw [endWithin, search_advance]
    cases step : s.advance used first last a with
    | inl ended => rfl
    | inr b =>
      have fewer := stepsLeft_decreases step
      exact ih (by omega)

end SearchSpace

theorem Bits.usedFrom_lowest {map p : Nat} (set : map.testBit p = true) (below : Bits.countBelow map p = 0) :
    SearchSpace.usedFrom map.testBit map.log2 p = Bits.positions map := by
  have inside := Bits.le_log2_of_testBit set
  have unset := Bits.countBelow_eq_zero.mp below
  have none : (range p).filter map.testBit = [] := by
    rw [filter_eq_nil_iff]
    intro j member
    simp [unset j (mem_range.mp member)]
  have split : range (map.log2 + 1) = range p ++ range' p (map.log2 + 1 - p) := by
    have joined := range'_append_1 (s := 0) (m := p) (n := map.log2 + 1 - p)
    rw [Nat.zero_add, Nat.add_sub_cancel' (by omega)] at joined
    rw [range_eq_range', range_eq_range', joined]
  rw [Bits.positions, split, filter_append, none, nil_append, SearchSpace.usedFrom]

namespace KernelLayer

def searchResult (layer : Nat) (length : Int) (st : Packing) :
    Except SearchEnd Nat → EStateM.Result PackFailure Packing Int
  | .ok column => .ok column st
  | .error (.exhausted offset) => .error (.exhausted layer offset length) st
  | .error .outside => .error (.failure .index) st

/-- The greedy search takes finitely many steps: each leaves fewer columns above the candidate, or as many and fewer
processors, also where it goes back to the first processor. -/
theorem findColumn_ends {s : PackSettings} (greedy : s.greedy = true) (shared : 0 < s.device.shared) (layer : Nat)
    (length : Int) {map : Nat} (some_processors : map ≠ 0) (present : map < 2 ^ s.device.maxProcessors) (st : Packing) :
    let space := st.space s.device shared length
    let first := (Bits.lowest map).toNat
    let last := (Bits.highest map).toNat
    (∀ a b, space.advance map.testBit first last a = .inr b →
      Prod.Lex (· < ·) (· < ·) (space.remaining last b) (space.remaining last a)) ∧
    ∃ ended, space.endWithin map.testBit first last ((s.device.maskWidthLarge + 1) * (last + 2)) ⟨first, 0⟩ =
        some ended ∧
      (findColumn s layer length (Bits.positions map)).run st = searchResult layer length st ended := by
  intro space first last
  refine ⟨fun a b => SearchSpace.remaining_decreases, ?_⟩
  obtain ⟨p, lowest, set, below⟩ := Bits.lowest_spec some_processors
  have start : first = p := by simp [first, lowest]
  have top : last = map.log2 := by simp [last, Bits.highest, some_processors]
  have all := Bits.usedFrom_lowest set below
  have steps : space.stepsLeft last ⟨first, 0⟩ < (s.device.maskWidthLarge + 1) * (last + 2) := by
    simp only [SearchSpace.stepsLeft, space, Packing.space, Nat.succ_mul, Nat.sub_zero]
    omega
  refine ⟨_, SearchSpace.endWithin_eq_search steps, ?_⟩
  have known : ¬∃ q ∈ Bits.positions map, s.device.maxProcessors ≤ q := by
    rintro ⟨q, member, high⟩
    have small := Nat.lt_of_lt_of_le present (Nat.pow_le_pow_right (by decide) high)
    have used := (mem_filter.mp member).2
    rw [Nat.testBit_lt_two_pow small] at used
    cases used
  rw [findColumn_run greedy shared layer length known, start, top, all]
  cases space.search (Bits.positions map) (Bits.positions map) 0 with
  | ok column => rfl
  | error e => cases e <;> rfl

def scatteredPacking : Packing where
  memory.words := (({} : Std.HashMap (Nat × Nat) KernelWord).insert (1, 1) ⟨0, []⟩).insert (0, 4) ⟨0, []⟩

set_option maxRecDepth 20000 in
/-- The search for two columns on processors 0 and 1 is sent back to processor 0 with column 4, and ends with 8. -/
theorem findColumn_ends_scattered :
    let space := scatteredPacking.space greedyPacking.device (by decide) 2
    (∀ a b, space.advance (Nat.testBit 3) 0 1 a = .inr b →
      Prod.Lex (· < ·) (· < ·) (space.remaining 1 b) (space.remaining 1 a)) ∧
    space.endWithin (Nat.testBit 3) 0 1 2307 ⟨0, 0⟩ = some (.ok 8) ∧
    (findColumn greedyPacking 0 2 (Bits.positions 3)).run scatteredPacking = .ok 8 scatteredPacking := by
  intro space
  have processors : 3 ≠ 0 := by decide
  obtain ⟨decreases, ended, reached, found⟩ :=
    findColumn_ends (s := greedyPacking) rfl (by decide) 0 2 processors (by decide) scatteredPacking
  have eight : space.endWithin (Nat.testBit 3) 0 1 2307 ⟨0, 0⟩ = some (.ok 8) := by cbv
  obtain rfl := Option.some.inj (reached.symm.trans eight)
  exact ⟨decreases, eight, found⟩

end KernelLayer

end CnnForge
