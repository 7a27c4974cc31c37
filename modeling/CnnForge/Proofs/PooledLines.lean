import CnnForge.Proofs.PooledTensors

namespace CnnForge.Compute

open Finset Tensor Outcome

variable {k step c length : Nat} {average : Bool} {kind : PoolKind} {f : Nat → Nat → Int} {t : Tensor}

def column (t : Tensor) : Tensor :=
  ⟨t.shape ++ [1], t.data, by rw [t.size_eq, shapeSize_append]; simp [shapeSize]⟩

theorem get3_column (shape : t.shape = [c, length]) (o y : Nat) : (column t).get3 o y 0 = t.flat (o * length + y) := by
  simp [get3, column, dim, shape, flat]

/-- Averages are taken of the elements `d` apart, and maxima of adjacent ones. -/
theorem pool1d_eq {s d n : Nat} (shape : t.shape = [c, length]) (some_elements : 0 < k) (some_stride : 0 < s)
    (taken : step = if average then d else 1) (inside : ∀ y < n, ∀ i < k, y * s + i * step < length) :
    ∃ out, pool1d t t.sizes [c, n] k s d average = .ok out ∧
      column out = pooledBy (poolWindowDirect (if average then .average false else .maximum)) (k, 1) (s, 1) (step, 1)
        (column t) n 1 := by
  have dims : t.dim 0 = c ∧ t.dim 1 = length := by simp [dim, shape]
  refine ⟨ofFn [c, n] fun j => (poolWindowDirect (if average then .average false else .maximum)
    (window (k, 1) (windowOf (column t) (s, 1) (step, 1) (j / n) (j % n) 0))).getD 0, eq_ok_of_yields ?_, ?_⟩
  · unfold pool1d
    refine .guard (fun other => by simp [hasSize, Tensor.sizes] at other) fun _ _ => ?_
    refine .guard (fun negative => by simp at negative; omega) fun _ _ => ?_
    refine .guard (fun zero => by omega) fun _ _ => ?_
    refine .guard (fun outside => by simp [dims] at outside) fun _ _ => ?_
    refine .bind_eq (mapM_eq_ok (g := fun j => (poolWindowDirect (if average then .average false else .maximum)
      (window (k, 1) (windowOf (column t) (s, 1) (step, 1) (j / n) (j % n) 0))).getD 0) fun j place => ?_) ?_
    · simp only [List.getD_cons_zero, List.getD_cons_succ, Int.toNat_natCast, dims] at place ⊢
      have some_places : 0 < n := Nat.pos_of_ne_zero fun none => by simp [none] at place
      have elements : (axisPositions length (((j % n : Nat) : Int) * s) (if average then (d : Int) else 1) k).map
          (fun x => t.flat (j / n * length + x)) =
            window (k, 1) (windowOf (column t) (s, 1) (step, 1) (j / n) (j % n) 0) := by
        have distance : (if average then (d : Int) else 1) = step := by
          rw [taken]
          split <;> rfl
        rw [distance, axisPositions_eq (inside _ (Nat.mod_lt j some_places))]
        simp only [window, windowOf, List.map_map, List.range_one, List.map_cons, List.map_nil, Nat.zero_mul,
          Nat.add_zero, get3_column shape]
        exact List.map_eq_flatMap
      obtain ⟨x, found⟩ := poolWindowDirect_isSome (if average then .average false else .maximum)
        (window_ne_nil (p := (k, 1)) ⟨some_elements, Nat.one_pos⟩
          (windowOf (column t) (s, 1) (step, 1) (j / n) (j % n) 0))
      rw [elements, found]
      rfl
    · exact .pure (ofFn_values _ (by simp [shapeSize, dims]))
  · have channels : (column t).dim 0 = c := by simp [column, dim, shape]
    rw [pooledBy, channels]
    refine (show column (ofFn [c, n] _) = ofFn [c, n, 1] _ from rfl).trans (ofFn_eq_iff.mpr fun j _ => ?_)
    rw [Nat.one_mul, Nat.div_one, Nat.mod_one]

/-- The result is what pooling gives for the tensor with a single column. -/
def PoolsColumn (kind : PoolKind) (k s d : Nat) (t : Tensor) (n : Nat) (out : Tensor) : Prop :=
  HasPooled kind (k, 1) (s, 1) (d, 1) (column t) n 1 (column out)

theorem isPooled_single {v : Int} : IsPooled kind (1, 1) f v ↔ v = f 0 0 := by
  cases kind with
  | maximum =>
    simp only [IsPooled, Nat.lt_one_iff, exists_eq_left, forall_eq]
    omega
  | average rounded =>
    cases rounded with
    | false => simp [IsPooled]
    | true =>
      simp only [IsPooled, IsNearest, sum_range_one]
      omega

/-- Windows of `k` elements of lines with `length` elements, `d` apart, that start at every `s`-th one. -/
structure LineWindows (k s d c length n : Nat) : Prop where
  some_elements : 0 < k
  strides : 0 < s
  dilations : 0 < d
  some_channels : 0 < c
  some_windows : 0 < n
  inside : ∀ y < n, ∀ i < k, y * s + i * d < length

variable {s d n : Nat} (windows : LineWindows k s d c length n)
include windows

theorem LineWindows.pools (shape : t.shape = [c, length]) (bytes : t.All IsByte) (average : Bool) :
    ∃ out, pool1d t t.sizes [c, n] k s d average = .ok out ∧
      PoolsColumn (if average then .average false else .maximum) k s (if average then d else 1) t n out := by
  have filled : 0 < (k, 1).1 ∧ 0 < (k, 1).2 := ⟨windows.some_elements, Nat.one_pos⟩
  have inside : ∀ y < n, ∀ i < k, y * s + i * (if average then d else 1) < length := by
    intro y place i element
    have here := windows.inside y place i element
    have le : i * (if average then d else 1) ≤ i * d :=
      Nat.mul_le_mul_left i (by have := windows.dilations; split <;> omega)
    omega
  obtain ⟨out, result, pooled⟩ := pool1d_eq shape windows.some_elements windows.strides rfl inside
  refine ⟨out, result, ?_⟩
  rw [PoolsColumn, pooled, (pooledBy_direct_eq_iff (t := column t) filled bytes _ (s, 1) (_, 1) n 1).mpr]
  · exact pooledBy_hasPooled filled _ (s, 1) (_, 1) (column t) n 1
  · cases average <;> simp

omit windows in
theorem windowOf_first {g : Nat → Int} (some_channels : 0 < c) {i : Nat} (inside : i * step < length) :
    windowOf (column (ofFn [c, length] g)) (s, 1) (step, 1) 0 0 0 i 0 = g (i * step) := by
  have place : i * step < shapeSize [c, length] := by
    have le : 1 * length ≤ c * length := Nat.mul_le_mul_right length some_channels
    simp only [shapeSize, Nat.mul_one]
    omega
  simp only [windowOf, Nat.zero_mul, Nat.zero_add]
  rw [get3_column rfl, Nat.zero_mul, Nat.zero_add, flat_ofFn place]

/-- Two elements and more, the last of which is the greatest one, are more than the adjacent elements. -/
theorem LineWindows.adjacent_differ (several : k ≠ 1) (dilated : d ≠ 1) :
    ∃ t : Tensor, t.shape = [c, length] ∧ t.All IsByte ∧
      ∀ out, pool1d t t.sizes [c, n] k s d false = .ok out → ¬ PoolsColumn .maximum k s d t n out := by
  have some_elements := windows.some_elements
  have bytes : (ofFn [c, length] fun j => if j = (k - 1) * d then 1 else 0).All IsByte := all_ofFn fun j => by
    simp only [IsByte]
    split <;> omega
  refine ⟨ofFn [c, length] fun j => if j = (k - 1) * d then 1 else 0, rfl, bytes, fun out result claimed => ?_⟩
  obtain ⟨out', result', pooled⟩ := windows.pools rfl bytes false
  cases result.symm.trans result'
  have beyond : k - 1 < (k - 1) * d := by
    have twice := Nat.mul_le_mul_left (k - 1) (show 2 ≤ d by have := windows.dilations; omega)
    omega
  have inside := windows.inside 0 windows.some_windows (k - 1) (by omega)
  have last := (claimed.values 0 windows.some_channels 0 windows.some_windows 0 Nat.one_pos).2 (k - 1)
    (Nat.sub_lt some_elements Nat.one_pos) 0 Nat.one_pos
  obtain ⟨i, element, j, single, value⟩ := (pooled.values 0 windows.some_channels 0 windows.some_windows 0 Nat.one_pos).1
  obtain rfl : j = 0 := Nat.lt_one_iff.mp single
  replace element : i < k := element
  rw [windowOf_first windows.some_channels (by omega), if_pos rfl] at last
  rw [← value] at last
  have first : windowOf (column (ofFn [c, length] fun j => if j = (k - 1) * d then 1 else 0)) (s, 1) (1, 1) 0 0 0 i 0 =
      0 := by
    rw [windowOf_first windows.some_channels (by omega), if_neg (by omega)]
  exact absurd (last.trans first.le) (by decide)

theorem LineWindows.cut_differs (several : k ≠ 1) :
    ∃ t : Tensor, t.shape = [c, length] ∧ t.All IsByte ∧
      ∀ out, pool1d t t.sizes [c, n] k s d true = .ok out → ¬ PoolsColumn (.average true) k s d t n out := by
  have bytes : (ofFn [c, length] fun j => if j = 0 then 1 else 2).All IsByte := all_ofFn fun j => by
    simp only [IsByte]
    split <;> omega
  refine ⟨ofFn [c, length] fun j => if j = 0 then 1 else 2, rfl, bytes, fun out result claimed => ?_⟩
  obtain ⟨out', result', pooled⟩ := windows.pools rfl bytes true
  cases result.symm.trans result'
  obtain ⟨m, rfl⟩ : ∃ m, k = m + 1 := ⟨k - 1, by have := windows.some_elements; omega⟩
  have total : ∑ i ∈ range (m + 1), ∑ j ∈ range 1,
      windowOf (column (ofFn [c, length] fun j => if j = 0 then 1 else 2)) (s, 1) (d, 1) 0 0 0 i j = 2 * m + 1 := by
    have each : ∀ i ∈ range (m + 1), ∑ j ∈ range 1,
        windowOf (column (ofFn [c, length] fun j => if j = 0 then 1 else 2)) (s, 1) (d, 1) 0 0 0 i j =
          if i = 0 then 1 else 2 := by
      intro i element
      have inside := windows.inside 0 windows.some_windows i (mem_range.mp element)
      rw [sum_range_one, windowOf_first windows.some_channels (by omega)]
      simp [windows.dilations.ne']
    rw [sum_congr rfl each, sum_range_succ']
    simp
    ring
  have rounded := claimed.values 0 windows.some_channels 0 windows.some_windows 0 Nat.one_pos
  have cut := pooled.values 0 windows.some_channels 0 windows.some_windows 0 Nat.one_pos
  simp only [IsPooled, IsNearest, if_true, total, Nat.mul_one] at rounded cut
  have one : (2 * m + 1 : Int).tdiv (m + 1 : Nat) = 1 := by
    rw [Int.tdiv_eq_ediv_of_nonneg (by omega), Int.ediv_eq_iff_of_pos (by omega)]
    omega
  rw [cut, one] at rounded
  omega

/-- Pooling of lines gives the cut averages of elements that are `d` apart, but the maxima of adjacent elements. This
is the pooling of the tensor with a single column for all bytes exactly if a window has one element, averages are not
rounded or maxima are not dilated. -/
theorem line_pooling_iff (average rounded : Bool) :
    (∀ t : Tensor, t.shape = [c, length] → t.All IsByte → ∃ out, pool1d t t.sizes [c, n] k s d average = .ok out ∧
        PoolsColumn (if average then .average false else .maximum) k s (if average then d else 1) t n out) ∧
      ((∀ t : Tensor, t.shape = [c, length] → t.All IsByte → ∃ out, pool1d t t.sizes [c, n] k s d average = .ok out ∧
        PoolsColumn (if average then .average rounded else .maximum) k s d t n out) ↔
          k = 1 ∨ if average then rounded = false else d = 1) := by
  refine ⟨fun t shape bytes => windows.pools shape bytes average, ?_, ?_⟩
  · intro all
    by_contra other
    obtain ⟨several, other⟩ := not_or.mp other
    obtain ⟨t, shape, bytes, never⟩ : ∃ t : Tensor, t.shape = [c, length] ∧ t.All IsByte ∧
        ∀ out, pool1d t t.sizes [c, n] k s d average = .ok out →
          ¬ PoolsColumn (if average then .average rounded else .maximum) k s d t n out := by
      cases average with
      | false => exact windows.adjacent_differ several other
      | true =>
        obtain rfl : rounded = true := by simpa using other
        exact windows.cut_differs several
    obtain ⟨out, result, claimed⟩ := all t shape bytes
    exact never out result claimed
  · intro plain t shape bytes
    obtain ⟨out, result, pooled⟩ := windows.pools shape bytes average
    refine ⟨out, result, ?_⟩
    rcases plain with rfl | plain
    · refine ⟨pooled.shape, fun c channel y row x column => isPooled_single.mpr ?_⟩
      simpa [windowOf] using isPooled_single.mp (pooled.values c channel y row x column)
    · cases average with
      | false => simpa [show d = 1 from plain] using pooled
      | true => simpa [show rounded = false from plain] using pooled

omit windows

theorem line_pooling_of_averages :
    LineWindows 3 2 2 2 9 3 ∧ ∃ out, pool1d (counting [2, 9]) [2, 9] [2, 3] 3 2 2 true = .ok out ∧
      PoolsColumn (.average false) 3 2 2 (counting [2, 9]) 3 out := by
  have windows : LineWindows 3 2 2 2 9 3 := by
    constructor <;> decide
  exact ⟨windows, (line_pooling_iff windows true false).2.mpr (.inr rfl) _ rfl (counting_bytes (by decide))⟩

/-- The maximum of the numbers from `0` to `2` that are two apart, and the average of `1` and `2`. -/
theorem line_pooling_differs :
    (LineWindows 2 1 2 1 3 1 ∧
      pool1d (counting [1, 3]) [1, 3] [1, 1] 2 1 2 false = .ok (ofFn [1, 1] fun _ => 1) ∧
      ¬ PoolsColumn .maximum 2 1 2 (counting [1, 3]) 1 (ofFn [1, 1] fun _ => 1)) ∧
    LineWindows 2 1 1 1 2 1 ∧
      pool1d (ofFn [1, 2] fun k => k + 1) [1, 2] [1, 1] 2 1 1 true = .ok (ofFn [1, 1] fun _ => 1) ∧
      ¬ PoolsColumn (.average true) 2 1 1 (ofFn [1, 2] fun k => k + 1) 1 (ofFn [1, 1] fun _ => 1) := by
  refine ⟨⟨by constructor <;> decide, rfl, fun pooled => ?_⟩, by constructor <;> decide, rfl, fun pooled => ?_⟩
  · exact absurd ((pooled.values 0 (by decide) 0 (by decide) 0 (by decide)).2 1) (by decide)
  · exact absurd (pooled.values 0 (by decide) 0 (by decide) 0 (by decide)) (by unfold IsPooled IsNearest; decide)

end CnnForge.Compute
