import CnnForge.Proofs.Convolutions
import Mathlib

namespace CnnForge.Compute

open Finset Tensor Outcome

variable {data weight u v : Tensor}
variable {groups : Int} {channels y : Nat}

theorem sumFrom_eq (f : Nat → Int) (n : Nat) (acc : Int) : sumFrom f n acc = acc + ∑ i ∈ range n, f i := by
  induction n generalizing acc with
  | zero => simp [sumFrom]
  | succ n ih =>
    rw [sumFrom, ih, sum_range_succ]
    ring

theorem sumBelow_eq (n : Nat) (f : Nat → Int) : sumBelow n f = ∑ i ∈ range n, f i := by
  rw [sumBelow, sumFrom_eq, zero_add]

/-- Kernels for all channels of the data, or one for each of them and as many outputs. -/
def KernelsMatch (groups : Int) (channels : Nat) (weight : Tensor) : Prop :=
  groups = 1 ∧ weight.dim 1 = channels ∨ groups = channels ∧ weight.dim 0 = channels ∧ weight.dim 1 = 1

/-- The first input channel of the group that output `o` belongs to. -/
def groupStart (groups : Int) (weight : Tensor) (o : Nat) : Nat :=
  o / (weight.dim 0 / groups.toNat) * weight.dim 1

structure Expands (v weight : Tensor) (groups : Int) (channels : Nat) : Prop where
  shape : v.shape = [weight.dim 0, channels, weight.dim 2, weight.dim 3]
  sums : ∀ o < weight.dim 0, ∀ f : Nat → Nat → Nat → Int,
    ∑ c ∈ range channels, ∑ i ∈ range (weight.dim 2), ∑ j ∈ range (weight.dim 3), v.get [o, c, i, j] * f c i j =
      ∑ c ∈ range (weight.dim 1), ∑ i ∈ range (weight.dim 2), ∑ j ∈ range (weight.dim 3),
        weight.get [o, c, i, j] * f (groupStart groups weight o + c) i j

theorem Expands.self (kernels : weight.rank = 4) : Expands weight weight 1 (weight.dim 1) := by
  refine ⟨shape_of_rank_four kernels, ?_⟩
  intro o output f
  have first : groupStart 1 weight o = 0 := by
    simp [groupStart, Nat.div_eq_of_lt output]
  simp [first]

theorem KernelsMatch.some_groups (fit : KernelsMatch groups channels weight) (some_outputs : 0 < weight.dim 0) :
    0 < groups := by
  rcases fit with ⟨one, _⟩ | ⟨own, outputs, _⟩ <;> omega

theorem expandGroups_expands (kernels : weight.rank = 4) (some_groups : 0 < groups)
    (fit : KernelsMatch groups channels weight) :
    ∃ v, (if groups > 1 then expandGroups weight channels groups else pure weight) = .ok v ∧
      Expands v weight groups channels := by
  by_cases several : 1 < groups
  · obtain ⟨one, _⟩ | ⟨own, rfl, single⟩ := fit
    · omega
    have filled : 0 < weight.dim 1 ∧ 0 < weight.dim 0 := by omega
    obtain ⟨v, expanded, shape, element⟩ := expandGroups_own several own (shape_of_rank_four kernels) filled.1
    refine ⟨v, by rw [if_pos several, expanded], shape, ?_⟩
    intro o output f
    have start : groupStart groups weight o = o := by
      rw [groupStart, own, Int.toNat_natCast, Nat.div_self filled.2, Nat.div_one, single, Nat.mul_one]
    rw [sum_eq_single_of_mem o (mem_range.mpr output)]
    · simp only [single, sum_range_one, start, Nat.add_zero]
      refine sum_congr rfl fun i row => sum_congr rfl fun j column => ?_
      rw [element o output o output i (mem_range.mp row) j (mem_range.mp column), if_pos rfl]
    · intro c channel other
      refine sum_eq_zero fun i row => sum_eq_zero fun j column => ?_
      rw [element o output c (mem_range.mp channel) i (mem_range.mp row) j (mem_range.mp column), if_neg other, zero_mul]
  · refine ⟨weight, by rw [if_neg several]; rfl, ?_⟩
    obtain ⟨rfl, rfl⟩ | ⟨own, outputs, single⟩ := fit
    · exact .self kernels
    · obtain rfl : groups = 1 := by omega
      obtain rfl : channels = weight.dim 1 := by omega
      exact .self kernels

theorem correlate_sums (stride dilation : Nat × Nat) (expands : Expands v weight groups channels)
    {g : Nat → Nat → Nat → Int} (elements : ∀ c < channels, ∀ y < u.dim 1, ∀ x < u.dim 2, u.get3 c y x = g c y x)
    {h w : Nat} (rows : ∀ y < h, ∀ i < weight.dim 2, y * stride.1 + i * dilation.1 < u.dim 1)
    (columns : ∀ x < w, ∀ j < weight.dim 3, x * stride.2 + j * dilation.2 < u.dim 2) {o x : Nat}
    (output : o < weight.dim 0) (row : y < h) (column : x < w) : (correlate u v stride dilation h w).get3 o y x =
      ∑ c ∈ range (weight.dim 1), ∑ i ∈ range (weight.dim 2), ∑ j ∈ range (weight.dim 3),
        weight.get [o, c, i, j] * g (groupStart groups weight o + c) (y * stride.1 + i * dilation.1)
          (x * stride.2 + j * dilation.2) := by
  have dims : v.dim 0 = weight.dim 0 ∧ v.dim 1 = channels ∧ v.dim 2 = weight.dim 2 ∧ v.dim 3 = weight.dim 3 := by
    simp [dim, expands.shape]
  unfold correlate
  rw [dims.1, dims.2.1, dims.2.2.1, dims.2.2.2]
  refine (get3_ofFn (fun o y x => sumBelow channels fun c => sumBelow (weight.dim 2) fun i =>
    sumBelow (weight.dim 3) fun j => v.flat (((o * channels + c) * weight.dim 2 + i) * weight.dim 3 + j) *
      u.flat ((c * u.dim 1 + y * stride.1 + i * dilation.1) * u.dim 2 + x * stride.2 + j * dilation.2))
    (fun _ => rfl) output row column).trans ?_
  simp only [sumBelow_eq]
  refine Eq.trans ?_ (expands.sums o output fun c i j => g c (y * stride.1 + i * dilation.1) (x * stride.2 + j * dilation.2))
  refine sum_congr rfl fun c channel => sum_congr rfl fun i tall => sum_congr rfl fun j wide => ?_
  have element := elements c (mem_range.mp channel) _ (rows y row i (mem_range.mp tall)) _
    (columns x column j (mem_range.mp wide))
  rw [get3] at element
  rw [get_four expands.shape, Nat.add_assoc (c * _), Nat.add_assoc _ (x * _), element]

theorem windows_eq (n dilation kernel pad : Nat) (stride : Int) (positive : stride ≠ 0) :
    windows (n + 2 * pad : Nat) (dilation * (kernel - 1) + 1) stride =
      .ok (windowCount n dilation kernel pad stride) := by
  rw [windows, if_neg positive, windowCount]
  congr 3
  omega

theorem window_inside {n k d stride i : Nat} {h : Int} (counted : windows n (d * (k - 1) + 1) stride = .ok h)
    (window : y < h.toNat) (element : i < k) : y * stride + i * d < n := by
  unfold windows at counted
  split at counted
  · cases counted
  rename_i moves
  have last : (y : Int) ≤ (n - (d * (k - 1) + 1) : Int).fdiv stride := by
    have count := Except.ok.inj counted
    omega
  rw [Int.fdiv_eq_ediv_of_nonneg _ (by omega), Int.le_ediv_iff_mul_le (by omega)] at last
  have reach : i * d ≤ d * (k - 1) := by
    rw [Nat.mul_comm]
    exact Nat.mul_le_mul_left _ (by omega)
  have bound : (d * (k - 1) : Int) = (d * (k - 1 : Nat) : Nat) := by
    rw [Nat.cast_mul]
    congr 1
    omega
  rw [bound] at last
  have scaled : ((y * stride : Nat) : Int) = y * stride := Nat.cast_mul y stride
  omega

/-- The sum of the products of a kernel with a window of the data, over the channels of the kernel's group. -/
def windowSum (s : ConvolutionSettings) (data weight : Tensor) (o y x : Nat) : Int :=
  ∑ c ∈ range (weight.dim 1), ∑ i ∈ range (weight.dim 2), ∑ j ∈ range (weight.dim 3),
    weight.get [o, c, i, j] * tap data (groupStart s.groups weight o + c)
      (y * s.stride.row + i * s.dilation.row - s.pad.row) (x * s.stride.column + j * s.dilation.column - s.pad.column)

def planeSettings (k : Nat) (stride pad dilation : Nat × Nat) (groups : Int) : ConvolutionSettings :=
  { kernelSize := .both k, stride := ⟨stride.1, stride.2⟩, pad := ⟨pad.1, pad.2⟩,
    dilation := ⟨dilation.1, dilation.2⟩, groups }

/-- Data, square kernels and bias values of a convolution layer that gives `rows` times `columns` windows. -/
structure Planar (k : Nat) (stride pad dilation : Nat × Nat) (groups : Int) (data weight : Tensor)
    (bias : Option (Array Int)) (rows columns : Nat) : Prop where
  plane : data.rank = 3
  kernels : weight.rank = 4
  square : weight.dim 2 = k ∧ weight.dim 3 = k
  some_elements : 0 < k
  strides : 0 < stride.1 ∧ 0 < stride.2
  dilations : 0 < dilation.1 ∧ 0 < dilation.2
  fit : KernelsMatch groups (data.dim 0) weight
  each : ∀ b, bias = some b → b.size = weight.dim 0
  some_outputs : 0 < weight.dim 0
  height : windowCount (data.dim 1) dilation.1 k pad.1 stride.1 = rows
  width : windowCount (data.dim 2) dilation.2 k pad.2 stride.2 = columns
  some_windows : 0 < rows ∧ 0 < columns

/-- The numbers of windows stay the same if the dilations of rows and columns change places. -/
def Exchangeable (k : Nat) (stride pad dilation : Nat × Nat) (data : Tensor) (rows columns : Nat) : Prop :=
  windowCount (data.dim 1) dilation.2 k pad.1 stride.1 = rows ∧
    windowCount (data.dim 2) dilation.1 k pad.2 stride.2 = columns

instance {k : Nat} {stride pad dilation : Nat × Nat} {data : Tensor} {rows columns : Nat} :
    Decidable (Exchangeable k stride pad dilation data rows columns) := inferInstanceAs (Decidable (_ ∧ _))

/-- Every element is the bias of its output and the sum over its window. -/
structure HasSums (s : ConvolutionSettings) (data weight : Tensor) (bias : Option (Array Int)) (rows columns : Nat)
    (out : Tensor) : Prop where
  shape : out.shape = [weight.dim 0, rows, columns]
  sums : ∀ o < weight.dim 0, ∀ y < rows, ∀ x < columns,
    out.get3 o y x = biasOf bias o + windowSum s data weight o y x

section

variable {k : Nat} {stride pad dilation : Nat × Nat} {groups : Int} {bias : Option (Array Int)} {rows columns : Nat}

/-- A convolution with square kernels gives the sums exactly if the numbers of windows are exchangeable. -/
theorem Planar.yields (input : Planar k stride pad dilation groups data weight bias rows columns) :
    Yields (fun _ => ¬ Exchangeable k stride pad dilation data rows columns)
      (fun out => Exchangeable k stride pad dilation data rows columns ∧
        HasSums (planeSettings k stride pad dilation groups) data weight bias rows columns out)
      (convolve2d (planeSettings k stride pad dilation groups) data weight bias data.sizes
        [weight.dim 0, rows, columns]) := by
  obtain ⟨u, prepared, surrounds⟩ := (prepareData_surrounds (s := planeSettings k stride pad dilation groups)
    (E := fun _ => False) pad (0, 0) rfl rfl input.plane rfl).exists_ok
  obtain ⟨v, expanded, expands⟩ := expandGroups_expands input.kernels (input.fit.some_groups input.some_outputs)
    input.fit
  have moves := input.strides
  have dims : u.dim 1 = (data.dim 1 + 2 * pad.1 : Nat) ∧ u.dim 2 = (data.dim 2 + 2 * pad.2 : Nat) := by
    simp [dim, surrounds.shape]
  have counted : ∀ d : Nat, windows (u.dim 1) (d * (k - 1) + 1) stride.1 =
      .ok (windowCount (data.dim 1) d k pad.1 stride.1) ∧ windows (u.dim 2) (d * (k - 1) + 1) stride.2 =
      .ok (windowCount (data.dim 2) d k pad.2 stride.2) := by
    intro d
    rw [dims.1, dims.2]
    exact ⟨windows_eq _ _ _ _ _ (by omega), windows_eq _ _ _ _ _ (by omega)⟩
  have ready : Ready (planeSettings k stride pad dilation groups) data weight bias stride dilation u v (weight.dim 0) k
      (windowCount (data.dim 1) dilation.2 k pad.1 stride.1) (windowCount (data.dim 2) dilation.1 k pad.2 stride.2) :=
    { strides := rfl
      dilations := rfl
      apart := input.dilations
      known := fun _ => ⟨rfl, input.some_elements⟩
      prepared := prepared
      channels := by simp [dim, surrounds.shape]
      kernels := input.kernels
      square := input.square
      expanded := expanded
      shape := by rw [expands.shape, input.square.1, input.square.2]
      enough := fun b given => (input.each b given).ge
      height := (counted dilation.2).1
      width := (counted dilation.1).2 }
  refine (ready.yields rows columns).mono (fun e fails exchangeable => ?_) fun out holds => ?_
  · have negative := (fails exchangeable).1
    rw [exchangeable.1, exchangeable.2] at negative
    omega
  obtain ⟨exchangeable, _, correlates⟩ := holds
  refine ⟨exchangeable, ?_⟩
  rw [exchangeable.1, exchangeable.2, Int.toNat_natCast, Int.toNat_natCast] at correlates
  have tall := (counted dilation.1).1
  have wide := (counted dilation.2).2
  rw [input.height] at tall
  rw [input.width] at wide
  refine ⟨correlates.shape, ?_⟩
  intro o output y row x column
  have sums := correlate_sums stride dilation (h := rows) (w := columns) expands
    (fun c channel y row x column => surrounds.elements c channel y (by omega) x (by omega))
    (fun y row i inside => window_inside tall row (input.square.1 ▸ inside))
    (fun x column j inside => window_inside wide column (input.square.2 ▸ inside)) output row column
  rw [correlates.elements o output y row x column, sums, add_comm]
  simp [windowSum, planeSettings]

end

def lineTap (data : Tensor) (c : Nat) (y : Int) : Int :=
  if 0 ≤ y ∧ y < data.dim 1 then data.get [c, y.toNat] else 0

def lineSum (s : Convolution1dSettings) (data weight : Tensor) (o y : Nat) : Int :=
  ∑ c ∈ range (weight.dim 1), ∑ i ∈ range (weight.dim 2),
    weight.get [o, c, i] * lineTap data (groupStart s.groups weight o + c) (y * s.stride + i * s.dilation - s.pad)

def lineSettings (k stride pad dilation : Nat) (groups : Int) : Convolution1dSettings :=
  { kernelSize := k, stride, pad, dilation, groups }

/-- Data, kernels and bias values of a one-dimensional convolution layer that gives `length` windows. -/
structure Linear (k stride pad dilation : Nat) (groups : Int) (data weight : Tensor) (bias : Option (Array Int))
    (length : Nat) : Prop where
  line : data.rank = 2
  kernels : weight.rank = 3
  size : weight.dim 2 = k
  some_elements : 0 < k
  strides : 0 < stride
  dilations : 0 < dilation
  some_channels : 0 < data.dim 0
  fit : KernelsMatch groups (data.dim 0) weight
  each : ∀ b, bias = some b → b.size = weight.dim 0
  some_outputs : 0 < weight.dim 0
  count : windowCount (data.dim 1) dilation k pad stride = length

structure HasLineSums (s : Convolution1dSettings) (data weight : Tensor) (bias : Option (Array Int)) (length : Nat)
    (out : Tensor) : Prop where
  shape : out.shape = [weight.dim 0, length]
  sums : ∀ o < weight.dim 0, ∀ y < length, out.get [o, y] = biasOf bias o + lineSum s data weight o y

structure Column (u data : Tensor) : Prop where
  shape : u.shape = data.shape ++ [1]
  flat : ∀ k, u.flat k = data.flat k

theorem tap_column (column : Column u data) (line : data.rank = 2) (c : Nat) (y : Int) :
    tap u c y 0 = lineTap data c y := by
  obtain ⟨a, n, shape⟩ := List.length_eq_two.mp line
  have wide : u.shape = [a, n, 1] := by simp [column.shape, shape]
  have dims : u.dim 1 = n ∧ u.dim 2 = 1 ∧ data.dim 1 = n := by simp [dim, wide, shape]
  unfold tap lineTap
  rw [dims.1, dims.2.1, dims.2.2]
  by_cases inside : 0 ≤ y ∧ y < n
  · rw [if_pos (by omega), if_pos inside, get_two shape, get3, dims.1, dims.2.1, column.flat]
    simp
  · rw [if_neg (by omega), if_neg inside]

section

variable {x : Tensor} {k stride pad dilation : Nat} {groups : Int} {bias : Option (Array Int)} {length : Nat}

theorem Column.kernels_shape (kernels : Column x weight) (rank : weight.rank = 3) :
    x.shape = [weight.dim 0, weight.dim 1, weight.dim 2, 1] := by
  rw [kernels.shape]
  nth_rewrite 1 [shape_of_rank_three rank]
  rfl

theorem windowSum_column (column : Column u data) (line : data.rank = 2) (kernels : Column x weight)
    (rank : weight.rank = 3) (o y : Nat) :
    windowSum (planeSettings k (stride, 1) (pad, 0) (dilation, 1) groups) u x o y 0 =
      lineSum (lineSettings k stride pad dilation groups) data weight o y := by
  have wide := kernels.kernels_shape rank
  have dims : x.dim 0 = weight.dim 0 ∧ x.dim 1 = weight.dim 1 ∧ x.dim 2 = weight.dim 2 ∧ x.dim 3 = 1 := by
    simp [dim, wide]
  unfold windowSum lineSum
  rw [dims.2.1, dims.2.2.1, dims.2.2.2, groupStart, dims.1, dims.2.1]
  refine sum_congr rfl fun c _ => sum_congr rfl fun i _ => ?_
  rw [sum_range_one, get_four wide, get_three (shape_of_rank_three rank), kernels.flat, ← tap_column column line]
  simp [planeSettings, lineSettings, groupStart]

theorem Linear.yields (input : Linear k stride pad dilation groups data weight bias length) :
    Yields (fun _ => False) (HasLineSums (lineSettings k stride pad dilation groups) data weight bias length)
      (convolve1d (lineSettings k stride pad dilation groups) data weight bias data.sizes
        [weight.dim 0, length, 1]) := by
  obtain ⟨a, n, shape⟩ := List.length_eq_two.mp input.line
  have dims : data.dim 0 = a ∧ data.dim 1 = n := by simp [dim, shape]
  have channels : 0 < a := by rw [← dims.1]; exact input.some_channels
  have fit := input.fit
  rw [dims.1] at fit
  have some_groups := fit.some_groups input.some_outputs
  have some_share : 0 < weight.dim 1 := by
    rcases fit with ⟨_, all⟩ | ⟨_, _, single⟩ <;> omega
  have share : (a : Int).fdiv groups = weight.dim 1 := by
    rcases fit with ⟨one, all⟩ | ⟨own, _, single⟩
    · rw [one, all, Int.fdiv_one]
    · rw [own, single, Int.fdiv_self (by omega)]
      rfl
  obtain ⟨u, x, ⟨u_shape, u_flat⟩, ⟨x_shape, x_flat⟩, lined⟩ := convolve1d_eq_line
    (s := lineSettings k stride pad dilation groups) (k := k) shape channels input.some_outputs some_share some_groups.ne'
    (by rw [shape_of_rank_three input.kernels, input.size]; simp [shapeSize, Nat.mul_assoc]) share bias length
  have column : Column u data := ⟨by rw [u_shape, shape]; rfl, u_flat⟩
  have kernels : Column x weight := ⟨by rw [x_shape, shape_of_rank_three input.kernels, input.size]; rfl, x_flat⟩
  have fits : KernelsMatch groups a x := by simpa [KernelsMatch, dim, x_shape] using fit
  obtain ⟨p, prepared, surrounds⟩ := (prepareLine_surrounds (s := lineSettings k stride pad dilation groups)
    (E := fun _ => False) u rfl rfl rfl (by simp [rank, u_shape])).exists_ok
  obtain ⟨v, expanded, expands⟩ := expandGroups_expands (by simp [rank, x_shape]) some_groups fits
  have counted : windows (p.dim 1) (dilation * (k - 1) + 1) stride = .ok (length : Int) := by
    have padded : p.dim 1 = n + 2 * pad := by simp [dim, surrounds.shape, u_shape]
    rw [padded, ← input.count, dims.2]
    exact windows_eq n dilation k pad stride (by have := input.strides; omega)
  have ready : LineReady (lineSettings k stride pad dilation groups) u x bias dilation p v a (weight.dim 0) k length :=
    { dilations := rfl
      apart := input.dilations
      known := fun _ => ⟨rfl, input.some_elements⟩
      prepared := prepared
      first := by simp [dim, surrounds.shape, u_shape]
      size := by simp [dim, x_shape]
      expanded := expanded
      shape := by simp [expands.shape, dim, x_shape]
      enough := fun b given => (input.each b given).ge
      length := counted }
  rw [lined]
  refine (ready.yields length).mono (fun _ other => other rfl) fun out holds => ?_
  obtain ⟨_, shaped, elements⟩ := holds
  refine ⟨shaped, ?_⟩
  intro o output y row
  have sums : (correlate p v (stride, 1) (dilation, 1) length 1).get3 o y 0 =
      windowSum (planeSettings k (stride, 1) (pad, 0) (dilation, 1) groups) u x o y 0 := by
    refine (correlate_sums _ _ (g := fun c y x => tap u c (y - pad) x) expands ?_ ?_ ?_ ?_ row Nat.zero_lt_one).trans ?_
    · intro c channel y row x column
      simp [dim, surrounds.shape, u_shape] at row column
      simpa using surrounds.elements c (by simpa [dim, u_shape] using channel) y (by simpa [dim, u_shape] using row) x
        (by simpa [dim, u_shape] using column)
    · exact fun y row i inside => window_inside counted row (by simpa [dim, x_shape] using inside)
    · intro x column j inside
      simp [dim, x_shape, surrounds.shape, u_shape] at inside ⊢
      omega
    · simpa [dim, x_shape] using output
    · simp [windowSum, planeSettings]
  rw [elements o output y row, add_comm, ← windowSum_column column input.line kernels input.kernels, ← sums]
  rfl

end

/-- A two-dimensional convolution with square kernels gives the bias and the sum over the window for every output, row
and column exactly if the numbers of windows that its layer computes stay the same when the dilations of rows and
columns change places. Otherwise it fails. A one-dimensional convolution always gives the sums. -/
theorem convolution_sums_iff_exchangeable (groups : Int) (data weight : Tensor) (bias : Option (Array Int)) :
    (∀ {k : Nat} {stride pad dilation : Nat × Nat} {rows columns : Nat},
      Planar k stride pad dilation groups data weight bias rows columns →
      ((∃ out, convolve2d (planeSettings k stride pad dilation groups) data weight bias data.sizes
          [weight.dim 0, rows, columns] = .ok out ∧
            HasSums (planeSettings k stride pad dilation groups) data weight bias rows columns out) ↔
        Exchangeable k stride pad dilation data rows columns) ∧
      (¬ Exchangeable k stride pad dilation data rows columns →
        ∃ e, convolve2d (planeSettings k stride pad dilation groups) data weight bias data.sizes
          [weight.dim 0, rows, columns] = .error e) ∧
      (dilation.1 = dilation.2 → Exchangeable k stride pad dilation data rows columns)) ∧
    (∀ {k stride pad dilation length : Nat}, Linear k stride pad dilation groups data weight bias length →
      ∃ out, convolve1d (lineSettings k stride pad dilation groups) data weight bias data.sizes
          [weight.dim 0, length, 1] = .ok out ∧
        HasLineSums (lineSettings k stride pad dilation groups) data weight bias length out) := by
  refine ⟨?_, ?_⟩
  · intro k stride pad dilation rows columns input
    have equal : dilation.1 = dilation.2 → Exchangeable k stride pad dilation data rows columns := by
      intro same
      rw [Exchangeable, ← same]
      exact ⟨input.height, same ▸ input.width⟩
    rcases input.yields.cases with ⟨out, result, exchangeable, sums⟩ | ⟨e, failed, differs⟩
    · exact ⟨⟨fun _ => exchangeable, fun _ => ⟨out, result, sums⟩⟩, fun differs => absurd exchangeable differs, equal⟩
    · refine ⟨⟨?_, fun exchangeable => absurd exchangeable differs⟩, fun _ => ⟨e, failed⟩, equal⟩
      rintro ⟨out, result, _⟩
      cases failed.symm.trans result
  · intro k stride pad dilation length input
    rcases input.yields.cases with found | ⟨_, _, never⟩
    · exact found
    · exact never.elim

def counting (shape : List Nat) : Tensor := ofFn shape fun k => k

/-- Two channels with kernels of their own. The dilations differ, but the strides hide it. -/
theorem convolution_sums_of_own_kernels :
    Planar 2 (2, 2) (0, 0) (1, 2) 2 (counting [2, 7, 7]) (counting [2, 1, 2, 2]) (some #[3, -4]) 3 3 ∧
      (∃ out, convolve2d (planeSettings 2 (2, 2) (0, 0) (1, 2) 2) (counting [2, 7, 7]) (counting [2, 1, 2, 2])
          (some #[3, -4]) [2, 7, 7] [2, 3, 3] = .ok out ∧
        HasSums (planeSettings 2 (2, 2) (0, 0) (1, 2) 2) (counting [2, 7, 7]) (counting [2, 1, 2, 2])
          (some #[3, -4]) 3 3 out) ∧
      Linear 3 2 1 2 1 (counting [2, 9]) (counting [4, 2, 3]) none 4 ∧
      ∃ out, convolve1d (lineSettings 3 2 1 2 1) (counting [2, 9]) (counting [4, 2, 3]) none [2, 9] [4, 4, 1] =
          .ok out ∧
        HasLineSums (lineSettings 3 2 1 2 1) (counting [2, 9]) (counting [4, 2, 3]) none 4 out := by
  have plane : Planar 2 (2, 2) (0, 0) (1, 2) 2 (counting [2, 7, 7]) (counting [2, 1, 2, 2]) (some #[3, -4]) 3 3 := by
    constructor
    case each =>
      rintro b ⟨⟩
      rfl
    case fit => exact .inr (by decide)
    all_goals decide
  have line : Linear 3 2 1 2 1 (counting [2, 9]) (counting [4, 2, 3]) none 4 := by
    constructor
    case each => nofun
    case fit => exact .inl (by decide)
    all_goals decide
  exact ⟨plane, ((convolution_sums_iff_exchangeable _ _ _ _).1 plane).1.mpr (by decide), line,
    (convolution_sums_iff_exchangeable _ _ _ _).2 line⟩

/-- With dilation of the columns only, three rows and one column are expected, and one row and three columns are
found. -/
theorem convolution_mismatch :
    Planar 3 (1, 1) (0, 0) (1, 2) 1 (counting [1, 5, 5]) (counting [1, 1, 3, 3]) none 3 1 ∧
      convolve2d (planeSettings 3 (1, 1) (0, 0) (1, 2) 1) (counting [1, 5, 5]) (counting [1, 1, 3, 3]) none
        [1, 5, 5] [1, 3, 1] =
          .error (.check "Shape mismatch: NumPy result (1, 1, 3) vs expected [1, 3, 1]") := by
  refine ⟨?_, ?_⟩
  · constructor
    case each => nofun
    case fit => exact .inl (by decide)
    all_goals decide
  · cbv

end CnnForge.Compute
