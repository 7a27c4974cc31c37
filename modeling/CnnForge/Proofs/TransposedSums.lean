import CnnForge.Proofs.ConvolutionSums
import Mathlib.Algebra.BigOperators.Ring.Finset

namespace CnnForge.Compute

open Finset Tensor Outcome Simulator

def transposedSettings (k d : Nat) (pad outputPad : Nat × Nat) (groups : Int) : ConvolutionSettings :=
  { kernelSize := .both k, stride := .both 1, pad := ⟨pad.1, pad.2⟩, dilation := .both d, fractional := .both 2,
    outputPad := ⟨outputPad.1, outputPad.2⟩, groups }

/-- Data, square kernels and bias values of a transposed convolution layer. -/
structure Scattered (k d : Nat) (pad : Nat × Nat) (groups : Int) (data weight : Tensor) (bias : Option (Array Int)) :
    Prop where
  plane : data.rank = 3
  filled : 0 < data.dim 1 ∧ 0 < data.dim 2
  kernels : weight.rank = 4
  square : weight.dim 2 = k ∧ weight.dim 3 = k
  some_elements : 0 < k
  dilated : 0 < d
  some_groups : 0 < groups
  fit : KernelsMatch groups (data.dim 0) weight
  each : ∀ b, bias = some b → b.size = weight.dim 0
  inside : pad.1 ≤ d * (k - 1) ∧ pad.2 ≤ d * (k - 1)

/-- The products that the elements of the data, two apart, leave at one place of the output. -/
def scatterSum (d : Nat) (pad : Nat × Nat) (groups : Int) (data weight : Tensor) (o y x : Nat) : Int :=
  ∑ c ∈ range (weight.dim 1), ∑ r ∈ range (data.dim 1), ∑ q ∈ range (data.dim 2),
    ∑ i ∈ range (weight.dim 2), ∑ j ∈ range (weight.dim 3),
      if (y : Int) = 2 * r + d * i - pad.1 ∧ (x : Int) = 2 * q + d * j - pad.2 then
        data.get3 (groupStart groups weight o + c) r q *
          weight.get [o, c, weight.dim 2 - 1 - i, weight.dim 3 - 1 - j]
      else 0

/-- The numbers of rows and columns that the layer computes. -/
def scatterSize (k d : Nat) (pad outputPad : Nat × Nat) (data : Tensor) : Pair :=
  ⟨transposedLength (data.dim 1) 2 pad.1 d k outputPad.1, transposedLength (data.dim 2) 2 pad.2 d k outputPad.2⟩

/-- Every element is the bias of its output and the sum of the products that reach it. -/
structure HasScatterSums (d : Nat) (pad : Nat × Nat) (groups : Int) (data weight : Tensor)
    (bias : Option (Array Int)) (size : Pair) (out : Tensor) : Prop where
  sizes : out.sizes = [(weight.dim 0 : Int), size.row, size.column]
  sums : ∀ o < weight.dim 0, ∀ y : Nat, y < size.row → ∀ x : Nat, x < size.column →
    out.get3 o y x = biasOf bias o + scatterSum d pad groups data weight o y x

variable {data weight t : Tensor}

def stretchTap (data : Tensor) (p : Nat × Nat) (c y x : Nat) : Int :=
  ∑ r ∈ range (data.dim 1), ∑ q ∈ range (data.dim 2), if y = 2 * r + p.1 ∧ x = 2 * q + p.2 then data.get3 c r q else 0

theorem stretchTap_at {p : Nat × Nat} {c r q : Nat} (row : r < data.dim 1) (column : q < data.dim 2) :
    stretchTap data p c (2 * r + p.1) (2 * q + p.2) = data.get3 c r q := by
  unfold stretchTap
  rw [sum_eq_single_of_mem r (mem_range.mpr row), sum_eq_single_of_mem q (mem_range.mpr column)]
  · exact if_pos ⟨rfl, rfl⟩
  · exact fun q' _ other => if_neg (by omega)
  · exact fun r' _ other => sum_eq_zero fun q' _ => if_neg (by omega)

theorem stretchTap_off {p : Nat × Nat} {c y x : Nat}
    (off : ∀ r < data.dim 1, ∀ q < data.dim 2, ¬ (y = 2 * r + p.1 ∧ x = 2 * q + p.2)) :
    stretchTap data p c y x = 0 :=
  sum_eq_zero fun r row => sum_eq_zero fun q column => if_neg (off r (mem_range.mp row) q (mem_range.mp column))

theorem tap_stretched (sizes : t.dim 1 = 2 * data.dim 1 - 1 ∧ t.dim 2 = 2 * data.dim 2 - 1) {c : Nat}
    (elements : ∀ y < 2 * data.dim 1 - 1, ∀ x < 2 * data.dim 2 - 1,
      t.get3 c y x = if y % 2 = 0 ∧ x % 2 = 0 then data.get3 c (y / 2) (x / 2) else 0) (p : Nat × Nat) (y x : Nat) :
    tap t c (y - p.1) (x - p.2) = stretchTap data p c y x := by
  by_cases found : ∃ r < data.dim 1, ∃ q < data.dim 2, y = 2 * r + p.1 ∧ x = 2 * q + p.2
  · obtain ⟨r, row, q, column, rfl, rfl⟩ := found
    have places : (((2 * r + p.1 : Nat) : Int) - p.1).toNat = 2 * r ∧ (((2 * q + p.2 : Nat) : Int) - p.2).toNat = 2 * q := by
      omega
    rw [stretchTap_at row column, tap, if_pos (by omega), places.1, places.2, elements _ (by omega) _ (by omega),
      if_pos (by omega), Nat.mul_div_cancel_left r two_pos, Nat.mul_div_cancel_left q two_pos]
  · rw [stretchTap_off fun r row q column same => found ⟨r, row, q, column, same⟩]
    unfold tap
    split
    · rw [elements _ (by omega) _ (by omega)]
      exact if_neg fun even => found ⟨(y - p.1) / 2, by omega, (x - p.2) / 2, by omega, by omega, by omega⟩
    · rfl

section

variable {k d : Nat} {pad outputPad : Nat × Nat} {groups : Int} {bias : Option (Array Int)}

/-- Seen from an element of the data, the kernel runs backwards. -/
theorem stretchTap_sums (weights : Nat → Nat → Int) (inside : pad.1 ≤ d * (k - 1) ∧ pad.2 ≤ d * (k - 1)) (c y x : Nat) :
    ∑ i ∈ range k, ∑ j ∈ range k, weights i j *
        stretchTap data (d * (k - 1) - pad.1, d * (k - 1) - pad.2) c (y + i * d) (x + j * d) =
      ∑ r ∈ range (data.dim 1), ∑ q ∈ range (data.dim 2), ∑ i ∈ range k, ∑ j ∈ range k,
        if (y : Int) = 2 * r + d * i - pad.1 ∧ (x : Int) = 2 * q + d * j - pad.2 then
          data.get3 c r q * weights (k - 1 - i) (k - 1 - j) else 0 := by
  have moved : ∀ i < k, ∀ p ≤ d * (k - 1), ∀ y r : Nat,
      y + (k - 1 - i) * d = 2 * r + (d * (k - 1) - p) ↔ (y : Int) = 2 * r + d * i - p := by
    intro i element p inside y r
    have split : (k - 1 - i) * d + d * i = d * (k - 1) := by
      rw [Nat.mul_comm, ← Nat.mul_add, Nat.sub_add_cancel (by omega)]
    omega
  calc
    _ = ∑ i ∈ range k, ∑ j ∈ range k, ∑ r ∈ range (data.dim 1), ∑ q ∈ range (data.dim 2),
        if (y : Int) = 2 * r + d * i - pad.1 ∧ (x : Int) = 2 * q + d * j - pad.2 then
          data.get3 c r q * weights (k - 1 - i) (k - 1 - j) else 0 := by
      rw [← sum_range_reflect]
      refine sum_congr rfl fun i tall => ?_
      rw [← sum_range_reflect]
      refine sum_congr rfl fun j wide => ?_
      rw [stretchTap, mul_sum]
      refine sum_congr rfl fun r _ => ?_
      rw [mul_sum]
      refine sum_congr rfl fun q _ => ?_
      rw [mul_ite, mul_zero]
      refine if_congr ?_ (mul_comm _ _) rfl
      rw [moved i (mem_range.mp tall) _ inside.1, moved j (mem_range.mp wide) _ inside.2]
    _ = _ := by
      refine (sum_congr rfl fun i _ => sum_comm).trans (sum_comm.trans (sum_congr rfl fun r _ => ?_))
      exact (sum_congr rfl fun i _ => sum_comm).trans sum_comm

variable (input : Scattered k d pad groups data weight bias)
include input

theorem Scattered.reach_eq :
    (d * (k - 1) : Int) = (d * (k - 1) : Nat) := by
  have some_elements := input.some_elements
  push_cast
  rw [Nat.cast_pred some_elements]

def gatherSettings (k d : Nat) (pad outputPad : Nat × Nat) (groups : Int) : ConvolutionSettings :=
  { transposedSettings k d pad outputPad groups with
    pad := ⟨(d * (k - 1) - pad.1 : Nat), (d * (k - 1) - pad.2 : Nat)⟩ }

theorem Scattered.gathers (outputPad : Nat × Nat) :
    convolveTransposed2d (transposedSettings k d pad outputPad groups) =
      convolve2d (gatherSettings k d pad outputPad groups) := by
  have pads : transposedPad (transposedSettings k d pad outputPad groups) =
      ⟨(d * (k - 1) - pad.1 : Nat), (d * (k - 1) - pad.2 : Nat)⟩ := by
    have inside := input.inside
    simp only [transposedPad, transposedSettings, Pair.both, input.reach_eq, Pair.mk.injEq]
    omega
  funext
  rw [convolveTransposed2d, pads]
  rfl

theorem Scattered.windows_eq {n p : Nat} (filled : 0 < n)
    (inside : p ≤ d * (k - 1)) (more : Nat) :
    windows (2 * n - 1 + 2 * (d * (k - 1) - p) + more : Nat) (d * (k - 1) + 1) (1 : Nat) =
      .ok (transposedLength n 2 p d k more) := by
  rw [windows, if_neg (by decide), Nat.cast_one, Int.fdiv_one, transposedLength, input.reach_eq]
  congr 1
  omega

theorem Scattered.yields (outputPad : Nat × Nat) :
    Yields (fun e => ((scatterSize k d pad outputPad data).row < 0 ∨ (scatterSize k d pad outputPad data).column < 0) ∧
        e = .value)
      (fun out => (0 ≤ (scatterSize k d pad outputPad data).row ∧ 0 ≤ (scatterSize k d pad outputPad data).column) ∧
        HasScatterSums d pad groups data weight bias (scatterSize k d pad outputPad data) out)
      (convolveTransposed2d (transposedSettings k d pad outputPad groups) data weight bias data.sizes
        [weight.dim 0, (scatterSize k d pad outputPad data).row, (scatterSize k d pad outputPad data).column]) := by
  obtain ⟨t, stretched, t_shape, stretched_elements⟩ := stretch_two (shape_of_rank_three input.plane) input.filled.1
    input.filled.2
  obtain ⟨u, prepared, surrounds⟩ := (prepareData_surrounds (E := fun _ => False) (t := t)
    (s := gatherSettings k d pad outputPad groups) (d * (k - 1) - pad.1, d * (k - 1) - pad.2) outputPad
    rfl rfl (by simp [rank, t_shape]) stretched).exists_ok
  obtain ⟨v, expanded, expands⟩ := expandGroups_expands input.kernels input.some_groups input.fit
  have dims : u.dim 0 = data.dim 0 ∧ u.dim 1 = 2 * data.dim 1 - 1 + 2 * (d * (k - 1) - pad.1) + outputPad.1 ∧
      u.dim 2 = 2 * data.dim 2 - 1 + 2 * (d * (k - 1) - pad.2) + outputPad.2 := by
    simp [dim, surrounds.shape, t_shape]
  have ready : Ready (gatherSettings k d pad outputPad groups) data weight bias (1, 1) (d, d) u v (weight.dim 0) k
      (scatterSize k d pad outputPad data).row (scatterSize k d pad outputPad data).column :=
    { strides := rfl
      dilations := rfl
      apart := ⟨input.dilated, input.dilated⟩
      known := fun _ => ⟨rfl, input.some_elements⟩
      prepared := prepared
      channels := dims.1
      kernels := input.kernels
      square := input.square
      expanded := expanded
      shape := by rw [expands.shape, input.square.1, input.square.2]
      enough := fun b given => (input.each b given).ge
      height := by rw [dims.2.1]; exact input.windows_eq input.filled.1 input.inside.1 _
      width := by rw [dims.2.2]; exact input.windows_eq input.filled.2 input.inside.2 _ }
  rw [input.gathers]
  refine (ready.yields _ _).mono (fun e fails => fails ⟨rfl, rfl⟩) fun out holds => ?_
  obtain ⟨_, filled, correlates⟩ := holds
  refine ⟨filled, ?_⟩
  refine ⟨by simp [Tensor.sizes, correlates.shape, filled], ?_⟩
  intro o output y row x column
  have sums := correlate_sums (1, 1) (d, d) (x := x) (y := y) expands
    (g := stretchTap data (d * (k - 1) - pad.1, d * (k - 1) - pad.2)) ?_
    (fun y row i inside => window_inside ready.height row (input.square.1 ▸ inside))
    (fun x column j inside => window_inside ready.width column (input.square.2 ▸ inside)) output (by omega) (by omega)
  · rw [correlates.elements o output y (by omega) x (by omega), sums, add_comm, scatterSum, input.square.1, input.square.2]
    congr 1
    refine sum_congr rfl fun c _ => ?_
    simpa using stretchTap_sums (fun i j => weight.get [o, c, i, j]) input.inside (groupStart groups weight o + c) y x
  · intro c channel y row x column
    rw [surrounds.elements c (by simpa [dim, t_shape] using channel) y (by simpa [dim, surrounds.shape] using row) x
      (by simpa [dim, surrounds.shape] using column)]
    exact tap_stretched (by simp [dim, t_shape]) (fun y row x column => stretched_elements c channel y row x column) _ y x

end

/-- A transposed convolution with square kernels gives for every output, row and column the bias and the products of
all elements of the data that reach this place, with the kernel turned round. It fails exactly if its layer computes a
negative number of rows or columns. -/
theorem transposed_convolution_scatters {k d : Nat} {pad : Nat × Nat} {groups : Int} {data weight : Tensor}
    {bias : Option (Array Int)} (input : Scattered k d pad groups data weight bias) (outputPad : Nat × Nat) :
    (0 ≤ (scatterSize k d pad outputPad data).row ∧ 0 ≤ (scatterSize k d pad outputPad data).column →
      ∃ out, convolveTransposed2d (transposedSettings k d pad outputPad groups) data weight bias data.sizes
          [weight.dim 0, (scatterSize k d pad outputPad data).row, (scatterSize k d pad outputPad data).column] = .ok out ∧
        HasScatterSums d pad groups data weight bias (scatterSize k d pad outputPad data) out) ∧
    ((scatterSize k d pad outputPad data).row < 0 ∨ (scatterSize k d pad outputPad data).column < 0 →
      convolveTransposed2d (transposedSettings k d pad outputPad groups) data weight bias data.sizes
        [weight.dim 0, (scatterSize k d pad outputPad data).row, (scatterSize k d pad outputPad data).column] =
          .error .value) := by
  rcases (input.yields outputPad).cases with ⟨out, result, filled, sums⟩ | ⟨e, failed, negative, rfl⟩
  · exact ⟨fun _ => ⟨out, result, sums⟩, fun negative => by omega⟩
  · exact ⟨fun filled => by omega, fun _ => failed⟩

/-- Two channels with dilated kernels of their own, padded at the top, and an element that all padding covers. -/
theorem transposed_convolution_scatters_own_kernels :
    Scattered 2 2 (1, 0) 2 (counting [2, 2, 3]) (counting [2, 1, 2, 2]) (some #[3, -4]) ∧
      scatterSize 2 2 (1, 0) (1, 0) (counting [2, 2, 3]) = ⟨4, 7⟩ ∧
      (∃ out, convolveTransposed2d (transposedSettings 2 2 (1, 0) (1, 0) 2) (counting [2, 2, 3]) (counting [2, 1, 2, 2])
          (some #[3, -4]) [2, 2, 3] [2, 4, 7] = .ok out ∧
        HasScatterSums 2 (1, 0) 2 (counting [2, 2, 3]) (counting [2, 1, 2, 2]) (some #[3, -4]) ⟨4, 7⟩ out) ∧
      Scattered 3 1 (2, 2) 1 (counting [1, 1, 1]) (counting [1, 1, 3, 3]) none ∧
      convolveTransposed2d (transposedSettings 3 1 (2, 2) (0, 0) 1) (counting [1, 1, 1]) (counting [1, 1, 3, 3]) none
        [1, 1, 1] [1, -1, -1] = .error .value := by
  have own : Scattered 2 2 (1, 0) 2 (counting [2, 2, 3]) (counting [2, 1, 2, 2]) (some #[3, -4]) := by
    constructor
    case each =>
      rintro b ⟨⟩
      rfl
    case fit => exact .inr (by decide)
    all_goals decide
  have covered : Scattered 3 1 (2, 2) 1 (counting [1, 1, 1]) (counting [1, 1, 3, 3]) none := by
    constructor
    case each => nofun
    case fit => exact .inl (by decide)
    all_goals decide
  exact ⟨own, by decide, (transposed_convolution_scatters own (1, 0)).1 (by decide), covered,
    (transposed_convolution_scatters covered (0, 0)).2 (by decide)⟩

/-- Data without rows cannot be stretched, and kernels that all lie on one place are still counted by their size. -/
theorem transposed_convolution_fails :
    convolveTransposed2d (transposedSettings 3 1 (0, 0) (0, 0) 1) (full [1, 0, 1] 0) (full [1, 1, 3, 3] 1) none [1, 0, 1]
        [1, 1, 3] = .error .value ∧
      convolveTransposed2d (transposedSettings 2 0 (0, 0) (0, 0) 1) (full [1, 1, 1] 5) (counting [1, 1, 2, 2]) none
        [1, 1, 1] [1, 1, 1] =
          .error (.check "Shape mismatch: NumPy result (1, 0, 0) vs expected [1, 1, 1]") := by
  constructor <;> cbv

end CnnForge.Compute
