import CnnForge.Bits

namespace CnnForge.Bits

attribute [local instance (2000)] instPowNat

open List

variable {x p n : Nat}

theorem countBelow_eq_length (x n : Nat) : countBelow x n = ((range n).filter x.testBit).length := by
  induction n with
  | zero => rfl
  | succ n ih =>
    rw [countBelow, ih, range_succ]
    cases bit : x.testBit n <;> simp [bit]

theorem countBelow_eq_zero : countBelow x n = 0 ↔ ∀ j < n, x.testBit j = false := by
  rw [countBelow_eq_length]
  simp

theorem countBelow_add (x s n : Nat) : countBelow x (s + n) = countBelow x s + countBelow (x >>> s) n := by
  induction n with
  | zero => rfl
  | succ n ih =>
    rw [← Nat.add_assoc, countBelow, ih, countBelow, Nat.testBit_shiftRight, Nat.add_assoc]

theorem countBelow_mod (x n k : Nat) (le : n ≤ k) : countBelow (x % 2 ^ k) n = countBelow x n := by
  induction n with
  | zero => rfl
  | succ n ih =>
    have inside : n < k := by omega
    rw [countBelow, countBelow, ih (by omega)]
    simp [inside]

theorem countBelow_mono (x : Nat) {m : Nat} (le : m ≤ n) : countBelow x m ≤ countBelow x n := by
  obtain ⟨k, rfl⟩ := Nat.exists_eq_add_of_le le
  rw [countBelow_add]
  omega

theorem countBelow_le (x n : Nat) : countBelow x n ≤ n := by
  induction n with
  | zero => exact Nat.le_refl 0
  | succ n ih =>
    rw [countBelow]
    split <;> omega

theorem count_eq_countBelow (bound : x < 2 ^ n) : count x = countBelow x n := by
  have all : ∀ k, countBelow x (x.log2 + 1 + k) = countBelow x (x.log2 + 1) := by
    intro k
    induction k with
    | zero => rfl
    | succ k ih =>
      have high : x.testBit (x.log2 + 1 + k) = false := by
        apply Nat.testBit_lt_two_pow
        exact Nat.lt_of_lt_of_le Nat.lt_log2_self (Nat.pow_le_pow_right (by omega) (by omega))
      rw [← Nat.add_assoc, countBelow, ih, high]
      rfl
  have low : x = 0 ∨ x.log2 + 1 ≤ n := by
    by_cases zero : x = 0
    · exact .inl zero
    · exact .inr ((Nat.log2_lt zero).mpr bound)
  simp only [count, Int.natAbs_natCast]
  rcases low with rfl | le
  · have none : ∀ k, countBelow 0 k = 0 := by
      intro k
      induction k with
      | zero => rfl
      | succ k ih => simp [countBelow, ih]
    rw [none, none]
  · obtain ⟨k, rfl⟩ := Nat.exists_eq_add_of_le le
    exact (all k).symm

theorem ne_zero_of_testBit (used : x.testBit p = true) : x ≠ 0 := by
  rintro rfl
  rw [Nat.zero_testBit] at used
  cases used

theorem le_log2_of_testBit (used : x.testBit p = true) : p ≤ x.log2 := by
  rw [Nat.le_log2 (ne_zero_of_testBit used)]
  exact Nat.ge_two_pow_of_testBit used

theorem count_eq_of_forall_lt (bound : ∀ j, x.testBit j = true → j < n) : count x = countBelow x n := by
  apply count_eq_countBelow
  apply Nat.lt_pow_two_of_testBit
  intro j above
  apply Bool.eq_false_iff.mpr
  intro set
  have less := bound j set
  omega

theorem countBelow_le_count (x n : Nat) : countBelow x n ≤ count x := by
  have bound : x < 2 ^ (x.log2 + 1 + n) :=
    Nat.lt_of_lt_of_le Nat.lt_log2_self (Nat.pow_le_pow_right (by omega) (by omega))
  rw [count_eq_countBelow bound]
  exact countBelow_mono x (by omega)

theorem countBelow_lt_count (used : x.testBit p = true) : countBelow x p < count x := by
  have le := countBelow_le_count x (p + 1)
  rw [countBelow, used, if_pos rfl] at le
  omega

theorem shiftRight_ne_zero (left : countBelow x p < count x) : x >>> p ≠ 0 := by
  intro zero
  rw [Nat.shiftRight_eq_div_pow, Nat.div_eq_zero_iff] at zero
  have bound : x < 2 ^ p := by
    rcases zero with zero | bound
    · exact absurd zero (Nat.pos_iff_ne_zero.mp (Nat.two_pow_pos p))
    · exact bound
  rw [count_eq_countBelow bound] at left
  omega

theorem count_mod_sixteen (x : Nat) : count (x % 16 : Nat) = countBelow x 4 := by
  have bound : x % 16 < 2 ^ 4 := Nat.mod_lt _ (by decide)
  rw [count_eq_countBelow bound]
  exact countBelow_mod x 4 4 (Nat.le_refl 4)

theorem getElem?_filter_testBit (used : x.testBit p = true) (less : p < n) :
    ((range n).filter x.testBit)[countBelow x p]? = some p := by
  obtain ⟨k, rfl⟩ := Nat.exists_eq_add_of_lt less
  have parts : range (p + k + 1) = range p ++ p :: range' (p + 1) k := by
    rw [range_eq_range', range_eq_range', show p + k + 1 = p + (k + 1) from by omega,
      range'_append_1.symm, range'_succ, Nat.zero_add]
  rw [parts, filter_append, countBelow_eq_length, getElem?_append_right (Nat.le_refl _)]
  simp [used]

theorem of_getElem?_filter_testBit {rank : Nat} (listed : ((List.range n).filter x.testBit)[rank]? = some p) :
    p < n ∧ x.testBit p = true ∧ countBelow x p = rank := by
  obtain ⟨less, used⟩ := List.mem_filter.mp (List.mem_of_getElem? listed)
  rw [List.mem_range] at less
  have bound := (List.getElem?_eq_some_iff.mp listed).1
  have nodup : ((List.range n).filter x.testBit).Nodup := List.nodup_range.filter _
  refine ⟨less, used, ?_⟩
  apply Eq.symm
  rw [← List.getElem?_inj bound nodup, listed, getElem?_filter_testBit used less]

theorem getElem?_positions (used : x.testBit p = true) : (positions x)[countBelow x p]? = some p :=
  getElem?_filter_testBit used (Nat.lt_succ_of_le (le_log2_of_testBit used))

theorem length_positions (x : Nat) : (positions x).length = count x := by
  rw [positions, ← countBelow_eq_length]
  rfl

theorem lowestFrom_spec (x fuel k : Nat) (bound : x < 2 ^ (k + fuel)) (positive : x ≠ 0)
    (below : ∀ j < k, x.testBit j = false) :
    x.testBit (lowestFrom x fuel k) = true ∧ ∀ j < lowestFrom x fuel k, x.testBit j = false := by
  induction fuel generalizing k with
  | zero =>
    exfalso
    apply positive
    apply Nat.eq_of_testBit_eq
    intro j
    by_cases small : j < k
    · simp [below j small]
    · rw [Nat.zero_testBit]
      exact Nat.testBit_lt_two_pow (Nat.lt_of_lt_of_le bound (Nat.pow_le_pow_right (by omega) (by omega)))
  | succ fuel ih =>
    rw [lowestFrom]
    cases bit : x.testBit k with
    | true => exact ⟨by simpa using bit, by simpa using below⟩
    | false =>
      apply ih (k + 1) (by rwa [show k + 1 + fuel = k + (fuel + 1) from by omega])
      intro j small
      by_cases here : j = k
      · rw [here, bit]
      · exact below j (by omega)

theorem lowest_spec (positive : x ≠ 0) : ∃ p : Nat, lowest x = p ∧ x.testBit p = true ∧ countBelow x p = 0 := by
  refine ⟨lowestFrom x (x.log2 + 1) 0, by simp [lowest, positive], ?_⟩
  obtain ⟨bit, below⟩ := lowestFrom_spec x (x.log2 + 1) 0 (by simpa using Nat.lt_log2_self) positive (by simp)
  exact ⟨bit, countBelow_eq_zero.mpr below⟩

theorem countBelow_packed (m n : Nat) : countBelow (2 ^ m - 1) n = min n m := by
  induction n with
  | zero => simp [countBelow]
  | succ n ih =>
    rw [countBelow, ih, Nat.testBit_two_pow_sub_one]
    by_cases below : n < m <;> simp [below] <;> omega

theorem count_packed (m : Nat) : count (2 ^ m - 1 : Nat) = m := by
  rw [count_eq_countBelow (n := m) (Nat.sub_lt (Nat.two_pow_pos m) (by omega)), countBelow_packed, Nat.min_self]

theorem lowest_eq_zero (odd : x.testBit 0 = true) : lowest x = 0 := by
  obtain ⟨p, found, _, below⟩ := lowest_spec (ne_zero_of_testBit odd)
  cases p with
  | zero => simpa using found
  | succ p =>
    have le := countBelow_mono x (m := 1) (n := p + 1) (by omega)
    simp [countBelow, odd] at le
    simp only [countBelow] at below
    omega

end CnnForge.Bits
