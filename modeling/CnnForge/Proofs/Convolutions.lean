import CnnForge.Proofs.Endings
import CnnForge.Proofs.Tensors
import Mathlib.Data.List.Basic
import Mathlib.Tactic.Ring

namespace CnnForge

variable {a h w k c d b n outputs q r : Nat} {f : Nat → Int} {s : Convolution1dSettings} {shape : List Nat}
  {E : Failure → Prop} {t : Tensor} {bias : Option (Array Int)}

namespace Tensor

variable {t u : Tensor}

theorem place_div (rest : r < d) : (q * d + r) / d = q := by
  rw [Nat.mul_comm, Nat.mul_add_div (by omega), Nat.div_eq_of_lt rest, Nat.add_zero]

theorem place_mod (rest : r < d) : (q * d + r) % d = r := by
  rw [Nat.mul_comm, Nat.mul_add_mod, Nat.mod_eq_of_lt rest]

theorem place_lt (block : q < a) (rest : r < d) : q * d + r < a * d := by
  have le : (q + 1) * d ≤ a * d := Nat.mul_le_mul_right d block
  rw [Nat.succ_mul] at le
  omega

theorem shape_of_rank_three (plane : t.rank = 3) : t.shape = [t.dim 0, t.dim 1, t.dim 2] := by
  obtain ⟨a, b, c, shape⟩ := List.length_eq_three.mp plane
  simp [dim, shape]

theorem shape_of_rank_four (kernels : t.rank = 4) : t.shape = [t.dim 0, t.dim 1, t.dim 2, t.dim 3] := by
  rw [rank] at kernels
  match shape : t.shape, kernels with
  | [a, b, c, d], _ => simp [dim, shape]

theorem flat_ofFn (inside : k < shapeSize shape) : (ofFn shape f).flat k = f k := by
  simp [flat, ofFn, inside]

theorem get3_ofFn (g : Nat → Nat → Nat → Int) (each : ∀ k, f k = g (k / (w * h)) (k / w % h) (k % w)) {y x : Nat}
    (channel : c < a) (row : y < h) (column : x < w) : (ofFn [a, h, w] f).get3 c y x = g c y x := by
  have place : (c * h + y) * w + x < shapeSize [a, h, w] := by
    simpa [shapeSize, Nat.mul_assoc] using place_lt (place_lt channel row) column
  rw [get3, show (ofFn [a, h, w] f).dim 1 = h from rfl, show (ofFn [a, h, w] f).dim 2 = w from rfl, flat_ofFn place,
    each, ← Nat.div_div_eq_div_mul, place_div column, place_div row, place_mod row, place_mod column]

theorem get_four (shape : t.shape = [a, b, h, w]) (o c i j : Nat) :
    t.get [o, c, i, j] = t.flat (((o * b + c) * h + i) * w + j) := by
  rw [get, shape]
  simp only [offset, shapeSize]
  congr 1
  ring

theorem get_three (shape : t.shape = [a, b, h]) (o c i : Nat) : t.get [o, c, i] = t.flat ((o * b + c) * h + i) := by
  rw [get, shape]
  simp only [offset, shapeSize]
  congr 1
  ring

theorem get_two (shape : t.shape = [a, b]) (c y : Nat) : t.get [c, y] = t.flat (c * b + y) := by
  rw [get, shape]
  simp only [offset, shapeSize]
  congr 1
  ring

theorem get3_eq (shape : t.shape = [a, h, w]) (o y x : Nat) :
    t.get3 o y x = t.flat (o * shapeSize [h, w] + (y * w + x)) := by
  have dims : t.dim 1 = h ∧ t.dim 2 = w := by simp [dim, shape]
  rw [get3, dims.1, dims.2]
  simp only [shapeSize]
  congr 1
  ring

theorem get_ofFn_kernels (g : Nat → Nat → Nat → Int)
    (each : ∀ k, f k = g (k / (h * w) / b) (k / (h * w) % b) (k % (h * w))) {o i j : Nat} (output : o < a)
    (channel : c < b) (row : i < h) (column : j < w) : (ofFn [a, b, h, w] f).get [o, c, i, j] = g o c (i * w + j) := by
  have inside : i * w + j < h * w := place_lt row column
  have place : ((o * b + c) * h + i) * w + j = (o * b + c) * (h * w) + (i * w + j) := by ring
  have bound : (o * b + c) * (h * w) + (i * w + j) < shapeSize [a, b, h, w] := by
    simpa [shapeSize, Nat.mul_assoc] using place_lt (place_lt output channel) inside
  rw [get_four rfl, place, flat_ofFn bound, each, place_div inside, place_mod inside, place_div channel,
    place_mod channel]

theorem reshape?_flat (done : t.reshape? shape = some u) (k : Nat) : u.flat k = t.flat k := by
  unfold reshape? at done
  split at done
  · cases done
    rfl
  · cases done

theorem reshapeWith?_flat {shape : List (Option Nat)} (done : t.reshapeWith? shape = some u) (k : Nat) :
    u.flat k = t.flat k := by
  unfold reshapeWith? at done
  split at done
  · exact reshape?_flat done k
  · obtain ⟨n, _, done⟩ := Option.bind_eq_some_iff.mp done
    exact reshape?_flat done k
  · cases done

end Tensor

namespace Compute

open Tensor Outcome

variable {data weight u v : Tensor}

def tap (data : Tensor) (c : Nat) (y x : Int) : Int :=
  if 0 ≤ y ∧ y < data.dim 1 ∧ 0 ≤ x ∧ x < data.dim 2 then data.get3 c y.toNat x.toNat else 0

/-- `u` is `data` with `pad` rows and columns of zeros on both sides, and `more` of them at the end. -/
structure Surrounds (u data : Tensor) (pad more : Nat × Nat) : Prop where
  shape : u.shape = [data.dim 0, data.dim 1 + 2 * pad.1 + more.1, data.dim 2 + 2 * pad.2 + more.2]
  elements : ∀ c < data.dim 0, ∀ y < data.dim 1 + 2 * pad.1 + more.1, ∀ x < data.dim 2 + 2 * pad.2 + more.2,
    u.get3 c y x = tap data c (y - pad.1) (x - pad.2)

theorem Surrounds.self (plane : data.rank = 3) : Surrounds data data (0, 0) (0, 0) := by
  refine ⟨shape_of_rank_three plane, ?_⟩
  intro c channel y row x column
  rw [tap, if_pos (by omega)]
  congr 1

theorem surrounds_pad (data : Tensor) (p q : Nat × Nat) :
    Surrounds (pad data p.1 (p.1 + q.1) p.2 (p.2 + q.2)) data p q := by
  have height : data.dim 1 + p.1 + (p.1 + q.1) = data.dim 1 + 2 * p.1 + q.1 := by omega
  have width : data.dim 2 + p.2 + (p.2 + q.2) = data.dim 2 + 2 * p.2 + q.2 := by omega
  refine ⟨by simp only [pad, ofFn, height, width], ?_⟩
  intro c channel y row x column
  refine (get3_ofFn (fun c y x => if p.1 ≤ y ∧ y < p.1 + data.dim 1 ∧ p.2 ≤ x ∧ x < p.2 + data.dim 2 then
    data.get3 c (y - p.1) (x - p.2) else 0) (fun _ => rfl) channel (by omega) (by omega)).trans ?_
  by_cases inside : p.1 ≤ y ∧ y < p.1 + data.dim 1 ∧ p.2 ≤ x ∧ x < p.2 + data.dim 2
  · rw [if_pos inside, tap, if_pos (by omega)]
    congr 1 <;> omega
  · rw [if_neg inside, tap, if_neg (by omega)]

theorem stretchedSize_two (filled : 0 < n) : stretchedSize n 2 = .ok (2 * n - 1) := by
  have fits : ((n : Int) * 2 - 1 + 2 - 1).fdiv 2 = n := by
    rw [Int.fdiv_eq_ediv_of_nonneg _ (by decide)]
    omega
  simp only [stretchedSize]
  rw [if_neg (by omega), if_neg (by simp [fits])]
  congr 1
  omega

theorem stretch_two (shape : data.shape = [c, h, w]) (rows : 0 < h) (columns : 0 < w) :
    ∃ t, stretch data (.both 2) = .ok t ∧ t.shape = [c, 2 * h - 1, 2 * w - 1] ∧
      ∀ e < c, ∀ y < 2 * h - 1, ∀ x < 2 * w - 1,
        t.get3 e y x = if y % 2 = 0 ∧ x % 2 = 0 then data.get3 e (y / 2) (x / 2) else 0 := by
  have dims : data.dim 0 = c ∧ data.dim 1 = h ∧ data.dim 2 = w := by simp [dim, shape]
  have height : stretchedSize h (Pair.both 2).row = .ok (2 * h - 1) := stretchedSize_two rows
  have width : stretchedSize w (Pair.both 2).column = .ok (2 * w - 1) := stretchedSize_two columns
  rw [stretch, dims.1, dims.2.1, dims.2.2, height, width]
  refine ⟨_, rfl, rfl, ?_⟩
  intro e channel y row x column
  exact get3_ofFn (fun e y x => if y % 2 = 0 ∧ x % 2 = 0 then data.get3 e (y / 2) (x / 2) else 0) (fun _ => rfl)
    channel row column

theorem prepareData_surrounds {s : ConvolutionSettings} (pad more : Nat × Nat) (pads : s.pad = ⟨pad.1, pad.2⟩)
    (outputPads : s.outputPad = ⟨more.1, more.2⟩) (plane : t.rank = 3)
    (stretched : (if s.fractional.anyAbove 1 then stretch data s.fractional else pure data) = .ok t) :
    Yields E (Surrounds · t pad more) (prepareData s data) := by
  unfold prepareData
  rw [pads, outputPads]
  refine .choose (Q := (· = t)) (fun above => .of_eq ((if_pos above).symm.trans stretched))
    (fun below => .of_eq ((if_neg below).symm.trans stretched)) ?_
  rintro _ rfl
  refine .ite (fun none => ?_) fun _ => .guard (fun negative => ?_) fun _ _ => ?_
  · obtain ⟨rfl, rfl⟩ : pad = (0, 0) ∧ more = (0, 0) := by
      simp only [Bool.and_eq_true, decide_eq_true_eq] at none
      simp only [Prod.ext_iff]
      omega
    exact .pure (.self plane)
  · simp only [Bool.or_eq_true, decide_eq_true_eq] at negative
    omega
  · exact .pure (surrounds_pad _ pad more)

/-- With a group for each channel, the kernel of an output is that of its own channel. -/
theorem expandGroups_own {groups : Int} (several : 1 < groups) {each : Nat} (own : groups = outputs)
    (shape : weight.shape = [outputs, each, h, w]) (filled : 0 < each) :
    ∃ v, expandGroups weight outputs groups = .ok v ∧ v.shape = [outputs, outputs, h, w] ∧
      ∀ o < outputs, ∀ c < outputs, ∀ i < h, ∀ j < w,
        v.get [o, c, i, j] = if c = o then weight.get [o, 0, i, j] else 0 := by
  have dims : weight.dim 0 = outputs ∧ weight.dim 1 = each ∧ weight.dim 2 = h ∧ weight.dim 3 = w := by
    simp [dim, shape]
  have share : ((outputs : Int).fdiv groups).toNat = 1 := by
    rw [own, Int.fdiv_self (by omega)]
    rfl
  have some_outputs : ¬ (outputs = 0 ∨ 1 = 0) := by omega
  have enough : ¬ (outputs * 1 > outputs ∨ 1 > each) := by omega
  simp only [expandGroups, share, Int.toNat_natCast, dims, if_neg some_outputs, if_neg enough]
  refine ⟨_, rfl, rfl, ?_⟩
  intro o output c channel i row j column
  refine (get_ofFn_kernels (fun o c r => if o * 1 ≤ c ∧ c < o * 1 + 1 then
    weight.flat ((o * each + (c - o * 1)) * (h * w) + r) else 0) (fun _ => rfl) output channel row column).trans ?_
  by_cases same : c = o
  · subst same
    rw [if_pos (by omega), if_pos rfl, get_four shape, Nat.mul_one, Nat.sub_self]
    congr 1
    ring
  · rw [if_neg (by omega), if_neg same]

def biasOf (bias : Option (Array Int)) (o : Nat) : Int := (bias.map (·.getD o 0)).getD 0

theorem addBias_adds {rest : List Nat} (shape : t.shape = outputs :: rest)
    (enough : ∀ b, bias = some b → outputs ≤ b.size) : ∃ out, addBias t outputs bias = .ok out ∧ out.shape = t.shape ∧
      ∀ o < outputs, ∀ k < shapeSize rest,
        out.flat (o * shapeSize rest + k) = t.flat (o * shapeSize rest + k) + biasOf bias o := by
  cases bias with
  | none => exact ⟨t, rfl, rfl, by simp [biasOf]⟩
  | some b =>
    have size := enough b rfl
    have inside : ¬ ((outputs : Int) > t.dim 0 ∨ (outputs : Int) > b.size) := by
      simp only [dim, shape, List.getD_cons_zero]
      omega
    simp only [addBias, if_neg inside, shape, List.tail_cons]
    refine ⟨_, rfl, rfl, ?_⟩
    intro o output k inside
    rw [flat_ofFn (by simpa [shapeSize] using place_lt output inside), place_div inside, if_pos (by omega)]
    rfl

theorem checkSpread_ok (size : n = k) (some_elements : 0 < k) : checkSpread n k = .ok () := by
  rw [checkSpread, if_neg (by omega), if_pos (.inl (by omega))]

theorem spread_eq {dilated : Prop} [Decidable dilated] {kernelSize : Int} (size : n = k)
    (known : dilated → kernelSize = k) (undilated : ¬ dilated → d = 1) :
    (if dilated then spread kernelSize.toNat d else (n : Int)) = d * (k - 1) + 1 := by
  by_cases above : dilated
  · rw [if_pos above, known above, Int.toNat_natCast, spread, mul_comm]
  · rw [if_neg above, undilated above]
    omega

/-- A convolution with the settings `s` takes `h` rows and `w` columns of windows from the data `u`, for the kernels
`v` of all channels. Rows are counted with the width of the kernels and columns with their height. -/
structure Ready (s : ConvolutionSettings) (data weight : Tensor) (bias : Option (Array Int))
    (stride dilation : Nat × Nat) (u v : Tensor) (outputs k : Nat) (h w : Int) : Prop where
  strides : s.stride = ⟨stride.1, stride.2⟩
  dilations : s.dilation = ⟨dilation.1, dilation.2⟩
  apart : 0 < dilation.1 ∧ 0 < dilation.2
  known : s.dilation.anyAbove 1 = true → s.kernelSize = .both k ∧ 0 < k
  prepared : prepareData s data = .ok u
  channels : u.dim 0 = data.dim 0
  kernels : weight.rank = 4
  square : weight.dim 2 = k ∧ weight.dim 3 = k
  expanded : (if s.groups > 1 then expandGroups weight (data.dim 0) s.groups else pure weight) = .ok v
  shape : v.shape = [outputs, data.dim 0, k, k]
  enough : ∀ b, bias = some b → outputs ≤ b.size
  height : windows (u.dim 1) (dilation.2 * (k - 1) + 1) stride.1 = .ok h
  width : windows (u.dim 2) (dilation.1 * (k - 1) + 1) stride.2 = .ok w

structure Correlates (bias : Option (Array Int)) (stride dilation : Nat × Nat) (u v : Tensor) (outputs : Nat) (h w : Nat)
    (out : Tensor) : Prop where
  shape : out.shape = [outputs, h, w]
  elements : ∀ o < outputs, ∀ y < h, ∀ x < w,
    out.get3 o y x = (correlate u v stride dilation h w).get3 o y x + biasOf bias o

section

variable {s : ConvolutionSettings} {bias : Option (Array Int)} {stride dilation : Nat × Nat} {outputs k : Nat}

theorem addBias_correlates (stride dilation : Nat × Nat) (shape : v.shape = [outputs, c, k, k])
    (enough : ∀ b, bias = some b → outputs ≤ b.size) (h w : Nat) :
    ∃ out, addBias (correlate u v stride dilation h w) outputs bias = .ok out ∧
      Correlates bias stride dilation u v outputs h w out := by
  have correlated : (correlate u v stride dilation h w).shape = [outputs, h, w] := by
    simp [correlate, ofFn, dim, shape]
  obtain ⟨out, biased, shaped, elements⟩ := addBias_adds correlated enough
  rw [correlated] at shaped
  refine ⟨out, biased, shaped, ?_⟩
  intro o output y row x column
  rw [get3_eq shaped, get3_eq correlated]
  exact elements o output _ (by simpa [shapeSize] using place_lt row column)

/-- A convolution gives the sums over its windows if there are as many of them as asked for. It fails if these numbers
are negative. -/
theorem Ready.yields {h w : Int} (ready : Ready s data weight bias stride dilation u v outputs k h w) (r q : Int) :
    Yields (fun e => h = r ∧ w = q → (h < 0 ∨ w < 0) ∧ e = .value)
      (fun out => (h = r ∧ w = q) ∧ (0 ≤ h ∧ 0 ≤ w) ∧
        Correlates bias stride dilation u v outputs h.toNat w.toNat out)
      (convolve2d s data weight bias data.sizes [outputs, r, q]) := by
  unfold convolve2d
  refine .guard (fun other => by simp [hasSize, Tensor.sizes] at other) fun _ _ => ?_
  refine .bind_eq ready.prepared ?_
  refine .guard (fun other => absurd ready.kernels other) fun _ _ => ?_
  extract_lets d dilated kh kw step finish
  have undilated : ¬ dilated = true → dilation.1 = 1 ∧ dilation.2 = 1 := by
    intro not_above
    have positive := ready.apart
    simp [dilated, d, ready.dilations, Pair.anyAbove] at not_above
    omega
  have steps : step = dilation := by
    by_cases above : dilated = true
    · simp [step, above, d, ready.dilations]
    · obtain ⟨rows, columns⟩ := undilated above
      simp [step, above, Prod.ext_iff, rows, columns]
  have gaps : d.row = dilation.1 ∧ d.column = dilation.2 := by simp [d, ready.dilations]
  have tall : kh = dilation.1 * (k - 1) + 1 := by
    simp only [kh, gaps.1]
    exact spread_eq ready.square.1 (fun above => congrArg Pair.row (ready.known above).1) fun below => (undilated below).1
  have wide : kw = dilation.2 * (k - 1) + 1 := by
    simp only [kw, gaps.2]
    exact spread_eq ready.square.2 (fun above => congrArg Pair.column (ready.known above).1) fun below =>
      (undilated below).2
  have finished : ∀ t, Yields (fun e => h = r ∧ w = q → (h < 0 ∨ w < 0) ∧ e = .value)
      (fun out => (h = r ∧ w = q) ∧ (0 ≤ h ∧ 0 ≤ w) ∧
        Correlates bias stride dilation u v outputs h.toNat w.toNat out) (finish t) := by
    intro t
    have height := ready.height
    have width := ready.width
    rw [← wide] at height
    rw [← tall] at width
    simp only [finish, ready.strides]
    refine .bind_eq height (.bind_eq width ?_)
    refine .guard (fun negative => .throw fun _ => ?_) fun positive _ => ?_
    · simp only [Bool.or_eq_true, decide_eq_true_eq] at negative
      exact ⟨negative, rfl⟩
    simp only [Bool.or_eq_true, decide_eq_true_eq] at positive
    have channels : data.sizes.headD 0 = data.dim 0 := by cases shape : data.shape <;> simp [Tensor.sizes, dim, shape]
    rw [channels]
    refine .choose (Q := (· = v)) (fun several => .of_eq ((if_pos several).symm.trans ready.expanded))
      (fun single => .of_eq ((if_neg single).symm.trans ready.expanded)) fun x expanded => ?_
    rw [expanded]
    have fits : u.dim 0 = v.dim 1 := ready.channels.trans (by simp [dim, ready.shape])
    refine .guard (fun other => absurd fits other) fun _ _ => ?_
    obtain ⟨out, biased, correlates⟩ := addBias_correlates (u := u) stride dilation ready.shape
      ready.enough h.toNat w.toNat
    rw [← steps] at biased
    refine .bind_eq biased (.guard (fun other => .throw fun same => ?_) fun sized _ => .pure ?_)
    · simp [hasSize, correlates.shape, ← same] at other
      omega
    · simp [hasSize, correlates.shape] at sized
      exact ⟨by omega, by omega, correlates⟩
  refine .ite (fun above => ?_) fun _ => finished ()
  obtain ⟨size, some_elements⟩ := ready.known above
  rw [size]
  exact .bind_eq (checkSpread_ok ready.square.1 some_elements)
    (.bind_eq (checkSpread_ok ready.square.2 some_elements) (finished ()))

end

theorem prepareLine_surrounds (data : Tensor) (fractional : s.fractional = 1) {pad : Nat} (pads : s.pad = pad)
    (outputPad : s.outputPad = 0) (plane : data.rank = 3) :
    Yields E (Surrounds · data (pad, 0) (0, 0)) (prepareLine s data) := by
  unfold prepareLine
  rw [fractional, pads, outputPad]
  refine .ite (fun above => absurd above (by decide)) fun _ => .bind_eq rfl ?_
  refine .ite (fun none => ?_) fun _ => .guard (fun negative => ?_) fun _ _ => ?_
  · obtain rfl : pad = 0 := by
      simp only [Bool.and_eq_true, decide_eq_true_eq] at none
      omega
    exact .pure (.self plane)
  · simp only [Bool.or_eq_true, decide_eq_true_eq] at negative
    omega
  · exact .pure (surrounds_pad data (pad, 0) (0, 0))

/-- A one-dimensional convolution takes `h` windows from the data `u`, for the kernels `v` of all channels. -/
structure LineReady (s : Convolution1dSettings) (data weight : Tensor) (bias : Option (Array Int)) (dilation : Nat)
    (u v : Tensor) (channels outputs k : Nat) (h : Int) : Prop where
  dilations : s.dilation = dilation
  apart : 0 < dilation
  known : s.dilation > 1 → s.kernelSize = k ∧ 0 < k
  prepared : prepareLine s data = .ok u
  first : u.dim 0 = channels
  size : weight.dim 2 = k
  expanded : (if s.groups > 1 then expandGroups weight channels s.groups else pure weight) = .ok v
  shape : v.shape = [outputs, channels, k, 1]
  enough : ∀ b, bias = some b → outputs ≤ b.size
  length : windows (u.dim 1) (dilation * (k - 1) + 1) s.stride = .ok h

theorem LineReady.yields {dilation channels : Nat} {h : Int}
    (ready : LineReady s data weight bias dilation u v channels outputs k h) (r : Nat) : Yields (fun _ => h ≠ r)
      (fun out => h = r ∧ out.shape = [outputs, r] ∧ ∀ o < outputs, ∀ y < r,
        out.get [o, y] = (correlate u v (s.stride.toNat, 1) (dilation, 1) r 1).get3 o y 0 + biasOf bias o)
      (convolveLine s data weight bias channels outputs [outputs, r]) := by
  unfold convolveLine
  refine .bind_eq ready.prepared ?_
  extract_lets size step text finish
  have undilated : ¬ s.dilation > 1 → dilation = 1 := by
    have positive := ready.apart
    rw [ready.dilations]
    omega
  have steps : step = dilation := by
    by_cases above : s.dilation > 1
    · exact (if_pos above).trans (by rw [ready.dilations, Int.toNat_natCast])
    · exact (if_neg above).trans (undilated above).symm
  have spans : size = dilation * (k - 1) + 1 := by
    have sized := spread_eq ready.size (fun above => (ready.known above).1) undilated
    simpa only [size, ← ready.dilations] using sized
  have finished : ∀ t, Yields (fun _ => h ≠ r)
      (fun out => h = r ∧ out.shape = [outputs, r] ∧ ∀ o < outputs, ∀ y < r,
        out.get [o, y] = (correlate u v (s.stride.toNat, 1) (dilation, 1) r 1).get3 o y 0 + biasOf bias o)
      (finish t) := by
    intro t
    have length := ready.length
    rw [← spans] at length
    refine .bind_eq length (.guard (fun negative => .throw (by omega)) fun positive _ => ?_)
    refine .choose (Q := (· = v)) (fun several => .of_eq ((if_pos several).symm.trans ready.expanded))
      (fun single => .of_eq ((if_neg single).symm.trans ready.expanded)) fun x expanded => ?_
    rw [expanded]
    have fits : u.dim 0 = v.dim 1 := ready.first.trans (by simp [dim, ready.shape])
    refine .guard (fun other => absurd fits other) fun _ _ => ?_
    have correlated : (correlate u v (s.stride.toNat, 1) (dilation, 1) h.toNat 1).shape = [outputs, h.toNat, 1] := by
      simp [correlate, ofFn, dim, ready.shape]
    obtain ⟨line, reshaped, lined⟩ : ∃ line, (correlate u v (s.stride.toNat, 1) (dilation, 1) h.toNat 1).reshape?
        [outputs, h.toNat] = some line ∧ line.shape = [outputs, h.toNat] :=
      reshape?_of_size (by simp [correlated, shapeSize])
    obtain ⟨out, biased, shaped, elements⟩ := addBias_adds lined ready.enough
    have first : v.dim 0 = outputs := by simp [dim, ready.shape]
    rw [← steps, ← first] at reshaped
    simp only [reshaped]
    refine .bind_eq biased (.guard (fun other => .throw ?_) fun sized _ => .pure ?_)
    · rintro same
      simp [hasSize, shaped, lined, same] at other
    · obtain rfl : h = r := by
        simp [hasSize, shaped, lined] at sized
        omega
      rw [Int.toNat_natCast] at correlated lined reshaped
      refine ⟨rfl, shaped.trans lined, ?_⟩
      intro o output y row
      have element := elements o output y (by simpa [shapeSize] using row)
      rw [reshape?_flat reshaped] at element
      rw [get_two (shaped.trans lined), get3_eq correlated]
      simpa [shapeSize, steps] using element
  refine .ite (fun above => ?_) fun _ => finished ()
  obtain ⟨known, some_elements⟩ := ready.known above
  rw [known]
  exact .bind_eq (checkSpread_ok ready.size some_elements) (finished ())

/-- A one-dimensional convolution is that of the data as one column. -/
theorem convolve1d_eq_line {share : Nat} (shape : data.shape = [c, n]) (channels : 0 < c) (some_outputs : 0 < outputs)
    (some_share : 0 < share) (some_groups : s.groups ≠ 0) (kernels : shapeSize weight.shape = outputs * share * k)
    (shared : (c : Int).fdiv s.groups = share) (bias : Option (Array Int)) (r : Int) :
    ∃ u x : Tensor, (u.shape = [c, n, 1] ∧ ∀ k, u.flat k = data.flat k) ∧
      (x.shape = [outputs, share, k, 1] ∧ ∀ k, x.flat k = weight.flat k) ∧
      convolve1d s data weight bias data.sizes [outputs, r, 1] = convolveLine s u x bias c outputs [outputs, r] := by
  have first : data.sizes.headD 0 = c := by simp [Tensor.sizes, shape]
  obtain ⟨x, reshaped, x_shape⟩ : ∃ x, weight.reshapeWith? [some outputs, some share, none, some 1] = some x ∧
      x.shape = [outputs, share, k, 1] :=
    reshapeWith?_of_size [outputs, share] [1] (by simpa [shapeSize] using kernels)
      (by simp [shapeSize, some_outputs, some_share])
  obtain ⟨u, lined, u_shape⟩ : ∃ u, data.reshapeWith? [some c, none, some 1] = some u ∧ u.shape = [c, n, 1] :=
    reshapeWith?_of_size [c] [1] (by simp [shape, shapeSize]) (by simp [shapeSize, channels])
  refine ⟨u, x, ⟨u_shape, reshapeWith?_flat lined⟩, ⟨x_shape, reshapeWith?_flat reshaped⟩, ?_⟩
  have sized : (!hasSize data data.sizes) = false := by simp [hasSize, Tensor.sizes]
  simp only [convolve1d, sized, first, shared, List.headD_cons, Int.toNat_natCast, reshaped, lined]
  rw [if_neg some_groups]
  rfl

end Compute

end CnnForge
