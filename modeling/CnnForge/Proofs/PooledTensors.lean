import CnnForge.Network.Dimensions
import CnnForge.Proofs.ByteRange
import CnnForge.Proofs.ConvolutionSums

namespace CnnForge.Compute

open Finset Tensor Outcome Simulator.PoolingSettings

variable {n a : Nat} {xs : List Int} {kind : PoolKind} {p : Nat × Nat} {f : Nat → Nat → Int}

def window (p : Nat × Nat) (f : Nat → Nat → Int) : List Int :=
  (List.range p.1).flatMap fun i => (List.range p.2).map (f i)

/-- `v` is the integer next to `a / n`, the even one of two. -/
def IsNearest (a : Int) (n : Nat) (v : Int) : Prop :=
  n * (2 * v - 1) ≤ 2 * a ∧ 2 * a ≤ n * (2 * v + 1) ∧
    (2 * a = n * (2 * v - 1) ∨ 2 * a = n * (2 * v + 1) → v % 2 = 0)

/-- `v` is the greatest element of a window, or the average of its elements, cut toward zero or rounded. -/
def IsPooled (kind : PoolKind) (p : Nat × Nat) (f : Nat → Nat → Int) (v : Int) : Prop :=
  match kind with
  | .maximum => (∃ i < p.1, ∃ j < p.2, f i j = v) ∧ ∀ i < p.1, ∀ j < p.2, f i j ≤ v
  | .average false => v = (∑ i ∈ range p.1, ∑ j ∈ range p.2, f i j).tdiv (p.1 * p.2 : Nat)
  | .average true => IsNearest (∑ i ∈ range p.1, ∑ j ∈ range p.2, f i j) (p.1 * p.2) v

theorem mem_window {v : Int} : v ∈ window p f ↔ ∃ i < p.1, ∃ j < p.2, f i j = v := by
  simp [window]

theorem length_window (p : Nat × Nat) (f : Nat → Nat → Int) : (window p f).length = p.1 * p.2 := by
  simp [window]

theorem window_ne_nil (filled : 0 < p.1 ∧ 0 < p.2) (f : Nat → Nat → Int) : window p f ≠ [] :=
  List.ne_nil_of_length_pos (by rw [length_window]; exact Nat.mul_pos filled.1 filled.2)

theorem sum_window (p : Nat × Nat) (f : Nat → Nat → Int) :
    (window p f).sum = ∑ i ∈ range p.1, ∑ j ∈ range p.2, f i j := by
  simp only [window, List.flatMap, List.sum_flatten, List.map_map]
  rfl

theorem le_maximum? {m : Int} (found : maximum? xs = some m) : ∀ x ∈ xs, x ≤ m := by
  cases xs with
  | nil => simp
  | cons x xs =>
    obtain rfl := Option.some.inj found
    induction xs generalizing x with
    | nil => simp
    | cons y ys ih =>
      intro z member
      have rest := ih (max x y) rfl
      have first := rest _ (List.mem_cons_self)
      simp only [List.foldl_cons]
      rcases List.mem_cons.mp member with rfl | member
      · omega
      · rcases List.mem_cons.mp member with rfl | member
        · omega
        · exact rest z (List.mem_cons_of_mem _ member)

theorem isNearest_roundHalfEven (a : Int) (filled : 0 < n) : IsNearest a n (roundHalfEven a n) := by
  have split := Int.emod_add_mul_ediv a n
  have low := Int.emod_nonneg a (b := n) (by omega)
  have high := Int.emod_lt_of_pos a (b := n) (by omega)
  have quotient : a.fdiv n = a / n := Int.fdiv_eq_ediv_of_nonneg a (by omega)
  have rest : a.fmod n = a % n := Int.fmod_eq_emod_of_nonneg a (by omega)
  have spread : ∀ v : Int, n * (2 * v - 1) = 2 * (n * v) - n ∧ n * (2 * v + 1) = 2 * (n * v) + n := by
    intro v
    constructor <;> ring
  have next : (n : Int) * (a / n + 1) = n * (a / n) + n := by ring
  simp only [roundHalfEven, quotient, IsNearest, spread]
  split
  · omega
  · split
    · omega
    · split
      · omega
      · omega

theorem poolWindow_pools (kind : PoolKind) (filled : 0 < p.1 ∧ 0 < p.2) (f : Nat → Nat → Int) :
    ∃ v, poolWindow kind (window p f) = some v ∧ IsPooled kind p f v := by
  have length := length_window p f
  have positive : 0 < p.1 * p.2 := Nat.mul_pos filled.1 filled.2
  obtain ⟨x, xs, whole⟩ := List.exists_cons_of_ne_nil (window_ne_nil filled f)
  cases kind with
  | maximum =>
    refine ⟨xs.foldl max x, by rw [whole]; rfl, ?_⟩
    have found : maximum? (window p f) = some (xs.foldl max x) := by rw [whole]; rfl
    refine ⟨mem_window.mp (maximum?_mem found), fun i row j column => ?_⟩
    exact le_maximum? found _ (mem_window.mpr ⟨i, row, j, column, rfl⟩)
  | average rounded =>
    have some_elements : (window p f).isEmpty = false := by rw [whole]; rfl
    simp only [poolWindow, some_elements, length, sum_window]
    cases rounded with
    | false => exact ⟨_, rfl, rfl⟩
    | true => exact ⟨_, rfl, isNearest_roundHalfEven _ positive⟩

theorem poolWindowDirect_isSome (kind : PoolKind) (filled : xs ≠ []) : ∃ x, poolWindowDirect kind xs = some x := by
  cases kind with
  | maximum =>
    obtain ⟨x, xs, rfl⟩ := List.exists_cons_of_ne_nil filled
    exact ⟨_, rfl⟩
  | average rounded =>
    simp only [poolWindowDirect]
    split
    · exact ⟨_, rfl⟩
    · split <;> exact ⟨_, rfl⟩

theorem clampByte_of_byte {v : Int} (byte : IsByte v) : clampByte v = v := by
  simp only [clampByte]
  obtain ⟨low, high⟩ := byte
  omega

/-- `a / n` lies in the middle of two numbers, the lower one of which is even. -/
def Tied (a : Int) (n : Nat) : Prop := 2 * (a % n) = n ∧ a / n % 2 = 0

theorem roundHalfUp_eq (a : Int) (filled : 0 < n) :
    roundHalfUp a n = if 2 * (a % n) < n then a / n else a / n + 1 := by
  have split := Int.emod_add_mul_ediv a n
  have low := Int.emod_nonneg a (b := n) (by omega)
  have high := Int.emod_lt_of_pos a (b := n) (by omega)
  rw [roundHalfUp, Int.fdiv_eq_ediv_of_nonneg _ (by omega)]
  have whole : 2 * a + n = 2 * (a % n) + n + 2 * n * (a / n) := by
    rw [show (2 * n * (a / n) : Int) = 2 * (n * (a / n)) by ring]
    omega
  rw [whole, Int.add_mul_ediv_left _ _ (by omega)]
  split
  · rw [Int.ediv_eq_zero_of_lt (by omega) (by omega), zero_add]
  · rw [show 2 * (a % n) + (n : Int) = 2 * (a % n) - n + 2 * n * 1 by ring, Int.add_mul_ediv_left _ _ (by omega),
      Int.ediv_eq_zero_of_lt (by omega) (by omega)]
    omega

theorem roundHalfUp_eq_roundHalfEven_iff (a : Int) (filled : 0 < n) :
    roundHalfUp a n = roundHalfEven a n ↔ ¬ Tied a n := by
  have quotient : a.fdiv n = a / n := Int.fdiv_eq_ediv_of_nonneg a (by omega)
  have rest : a.fmod n = a % n := Int.fmod_eq_emod_of_nonneg a (by omega)
  rw [roundHalfUp_eq a filled]
  simp only [roundHalfEven, quotient, rest, Tied]
  split
  · simp
    omega
  · split
    · simp
      omega
    · split <;> simp <;> omega

theorem roundHalfUp_byte {a : Int} (filled : 0 < n) (low : -128 * (n : Int) ≤ a) (high : a ≤ 127 * n) :
    IsByte (roundHalfUp a n) := by
  have lower : -128 ≤ a / n := Int.le_ediv_of_mul_le (by omega) low
  have upper : a / n ≤ 127 := Int.ediv_le_of_le_mul (by omega) high
  have split := Int.emod_add_mul_ediv a n
  rw [roundHalfUp_eq a filled, IsByte]
  split
  · omega
  · rcases upper.lt_or_eq with below | top
    · omega
    · rw [top] at split
      omega

theorem poolWindowDirect_eq_iff (bytes : ∀ x ∈ xs, IsByte x) (filled : xs ≠ []) :
    poolWindowDirect kind xs = poolWindow kind xs ↔ (kind = .average true → ¬ Tied xs.sum xs.length) := by
  obtain ⟨low, high⟩ := sum_bytes bytes
  have positive : 0 < xs.length := List.length_pos_of_ne_nil filled
  have some_elements : xs.isEmpty = false := by simpa using filled
  cases kind with
  | maximum => simp [poolWindowDirect, poolWindow]
  | average rounded =>
    simp only [poolWindowDirect, poolWindow, some_elements, Bool.false_eq_true, if_false]
    cases rounded with
    | false => simp [clampByte_of_byte (tdiv_byte positive low high)]
    | true =>
      simp [clampByte_of_byte (roundHalfUp_byte positive low high), roundHalfUp_eq_roundHalfEven_iff _ positive]

/-- Windows of `p` elements that are `d` apart, one at every `s`-th of `n` elements; `r` of them are expected. -/
structure PoolAxis (n p s d r : Nat) : Prop where
  some_elements : 0 < p
  some_stride : 0 < s
  some_distance : 0 < d
  fits : p + d ≤ n + 1
  count : r = (n + 1 - p - d) / s + 1

/-- The axis is cut to so few elements that the last window is lost. -/
def Cropped (n p s d : Nat) : Prop := 1 < d ∧ d - 1 ≤ (n - p) % s ∧ (n - p) % s + (d - 1) < s

/-- The last window ends inside the axis. -/
def Enclosed (n p s d : Nat) : Prop := (p - 2) * (d - 1) ≤ (n + 1 - p - d) % s

instance (n p s d : Nat) : Decidable (Cropped n p s d) := inferInstanceAs (Decidable (_ ∧ _ ∧ _))

instance (n p s d : Nat) : Decidable (Enclosed n p s d) := inferInstanceAs (Decidable (_ ≤ _))

theorem multiple_le_or (a b s : Nat) : a * s ≤ b * s ∨ b * s + s ≤ a * s := by
  rcases Nat.lt_or_ge b a with less | le
  · have step := Nat.mul_le_mul_right s (Nat.succ_le_of_lt less)
    rw [Nat.succ_mul] at step
    exact .inr step
  · exact .inl (Nat.mul_le_mul_right s le)

theorem cut_windows {m e s k : Nat} (positive : 0 < s) (fits : e ≤ m)
    (number : k = if 0 < e ∧ e ≤ m % s ∧ m % s + e < s then (m - e) / s else (m - e) / s + 1) :
    k * s + e ≤ min m ((m + e) / s * s) + s ∧ min m ((m + e) / s * s) < k * s + e := by
  have whole := Nat.div_add_mod' m s
  have below := Nat.mod_lt m positive
  have last := Nat.div_mul_le_self (m - e) s
  have past := Nat.lt_div_mul_add (a := m - e) positive
  have cut := Nat.div_mul_le_self (m + e) s
  have beyond := Nat.lt_div_mul_add (a := m + e) positive
  -- The three multiples of the stride are equal or a stride apart.
  have cuts := multiple_le_or ((m + e) / s) (m / s) s
  have starts := multiple_le_or (m / s) ((m - e) / s) s
  have order := multiple_le_or ((m - e) / s) ((m + e) / s) s
  have windows : k * s = (m - e) / s * s + if 0 < e ∧ e ≤ m % s ∧ m % s + e < s then 0 else s := by
    rw [number]
    split
    · rfl
    · rw [Nat.succ_mul]
  rcases Nat.le_total m ((m + e) / s * s) with longer | shorter
  · rw [Nat.min_eq_left longer]
    split at windows <;> omega
  · rw [Nat.min_eq_right shorter]
    split at windows <;> omega

namespace PoolAxis

variable {n p s d r : Nat} (axis : PoolAxis n p s d r)
include axis

theorem some_windows : 0 < r := axis.count ▸ Nat.succ_pos _

theorem length : ((n : Int) + s - p - d + 1).fdiv s = r := by
  have positive := axis.some_stride
  have fits := axis.fits
  have total : ((n : Int) + s - p - d + 1) = ((n + 1 - p - d : Nat) : Int) + s * 1 := by omega
  rw [Int.fdiv_eq_ediv_of_nonneg _ (by omega), total, Int.add_mul_ediv_left _ _ (by omega), axis.count]
  omega

theorem pooledLength_eq : pooledLength n s p d = .ok (r : Int) := by
  have positive := axis.some_stride
  rw [pooledLength, if_neg (by omega), axis.length]

theorem enclosed_iff : Enclosed n p s d ↔ ∀ y < r, ∀ i < p, y * s + i * d < n := by
  have whole := Nat.div_add_mod (n + 1 - p - d) s
  have last : (r - 1) * s = s * ((n + 1 - p - d) / s) := by rw [axis.count, Nat.add_sub_cancel, Nat.mul_comm]
  have fits := axis.fits
  obtain ⟨e, rfl⟩ : ∃ e, d = e + 1 := ⟨d - 1, by have := axis.some_distance; omega⟩
  -- Only the last element of the last window can be outside.
  have reach : (∀ y < r, ∀ i < p, y * s + i * (e + 1) < n) ↔ (r - 1) * s + (p - 1) * (e + 1) < n := by
    have some_windows := axis.some_windows
    have some_elements := axis.some_elements
    refine ⟨fun inside => inside _ (by omega) _ (by omega), fun inside y row i element => ?_⟩
    have steps : y * s ≤ (r - 1) * s := Nat.mul_le_mul_right s (by omega)
    have elements : i * (e + 1) ≤ (p - 1) * (e + 1) := Nat.mul_le_mul_right _ (by omega)
    omega
  rw [reach, last, Enclosed]
  obtain _ | _ | q := p
  · exact absurd axis.some_elements (by decide)
  · simp only [Nat.zero_add, Nat.reduceSub, Nat.zero_mul] at whole fits ⊢
    omega
  · simp only [Nat.add_sub_cancel, show q + 1 + 1 - 2 = q by omega, Nat.succ_mul, Nat.mul_succ]
    omega

theorem poolCount_eq : poolCount n p s d = .ok ((if Cropped n p s d then r - 1 else r : Nat) : Int) := by
  obtain ⟨m, rfl⟩ : ∃ m, n = m + p := ⟨n - p, by have := axis.fits; have := axis.some_distance; omega⟩
  obtain ⟨e, rfl⟩ : ∃ e, d = e + 1 := ⟨d - 1, by have := axis.some_distance; omega⟩
  have positive := axis.some_stride
  have fits : e ≤ m := by have := axis.fits; omega
  have whole := Nat.div_add_mod m s
  have below := Nat.mod_lt m positive
  have count : r = (m - e) / s + 1 := by rw [axis.count]; congr 2; omega
  have stop : ((m + p : Nat) - p + (e + 1 : Nat) - 1 : Int).fdiv s * s + p = ((m + e) / s * s + p : Nat) := by
    rw [Int.fdiv_eq_ediv_of_nonneg _ (by omega),
      show ((m + p : Nat) - p + (e + 1 : Nat) - 1 : Int) = (m + e : Nat) by omega]
    push_cast
    rfl
  have cut : (cutLength (m + p) ((m + e) / s * s + p : Nat) : Int) - p - (e + 1 : Nat) + 1 =
      (min m ((m + e) / s * s) : Nat) - e := by
    rw [cutLength, if_neg (by omega)]
    omega
  have cropped : Cropped (m + p) p s (e + 1) ↔ 0 < e ∧ e ≤ m % s ∧ m % s + e < s := by simp [Cropped]
  generalize number : (if Cropped (m + p) p s (e + 1) then r - 1 else r) = k
  simp only [cropped, count, Nat.add_sub_cancel] at number
  have windows := cut_windows positive fits number.symm
  have found : ((min m ((m + e) / s * s) : Nat) - e : Int) / s = k - 1 :=
    (Int.ediv_eq_iff_of_pos (by omega)).mpr (by rw [Int.sub_mul, ← Int.natCast_mul]; omega)
  rw [poolCount, if_neg (by omega)]
  simp only [stop, cut]
  rw [Int.fdiv_eq_ediv_of_nonneg _ (by omega), found]
  congr 1
  omega

end PoolAxis

def poolSettings (kind : PoolKind) (p s d : Nat × Nat) : PoolSettings :=
  { pool := ⟨p.1, p.2⟩, stride := ⟨s.1, s.2⟩, dilation := ⟨d.1, d.2⟩, kind }

def windowOf (t : Tensor) (s d : Nat × Nat) (c y x i j : Nat) : Int :=
  t.get3 c (y * s.1 + i * d.1) (x * s.2 + j * d.2)

variable {t : Tensor} {s d : Nat × Nat}

theorem mapM_eq_ok {α β ε : Type} {f : α → Except ε β} {g : α → β} {items : List α}
    (each : ∀ a ∈ items, f a = .ok (g a)) : items.mapM f = .ok (items.map g) := by
  induction items with
  | nil => rfl
  | cons item items ih =>
    rw [List.mapM_cons, each item (by simp), ih fun a member => each a (by simp [member])]
    rfl

theorem windowAt_eq (kind : PoolKind) {c y x : Nat} (rows : ∀ i < p.1, y * s.1 + i * d.1 < t.dim 1)
    (columns : ∀ j < p.2, x * s.2 + j * d.2 < t.dim 2) :
    windowAt t (poolSettings kind p s d) c y x = .ok (window p (windowOf t s d c y x)) := by
  have place : ∀ i j : Nat, ((y * s.1 + i * d.1) * t.dim 2 + x * s.2 + j * d.2 : Int) =
      ((y * s.1 + i * d.1) * t.dim 2 + (x * s.2 + j * d.2) : Nat) := by
    intro i j
    push_cast
    ring
  unfold windowAt
  rw [mapM_eq_ok (g := fun place => t.flat (c * (t.dim 1 * t.dim 2) + place.toNat))]
  · refine congrArg Except.ok ?_
    simp only [windowPlaces, window, poolSettings, Int.toNat_natCast, List.map_flatMap, List.map_map]
    refine congrArg₂ _ (funext fun i => List.map_congr_left fun j _ => ?_) rfl
    simp only [Function.comp_apply, place, Int.toNat_natCast, windowOf, get3]
    congr 1
    ring
  · intro a member
    simp only [windowPlaces, poolSettings, Int.toNat_natCast, List.mem_flatMap, List.mem_map, List.mem_range] at member
    obtain ⟨i, row, j, column, rfl⟩ := member
    have inside := place_lt (rows i row) (columns j column)
    rw [place, if_pos ⟨Int.natCast_nonneg _, by exact_mod_cast inside⟩]

theorem axisPositions_eq {y stride step : Nat} (inside : ∀ i < a, y * stride + i * step < n) :
    axisPositions n ((y : Int) * stride) step a = (List.range a).map fun i => y * stride + i * step := by
  unfold axisPositions
  rw [Int.toNat_natCast, ← List.filterMap_eq_map]
  refine List.filterMap_congr fun i element => ?_
  have below := inside i (List.mem_range.mp element)
  have place : (y : Int) * stride + i * step = (y * stride + i * step : Nat) := by push_cast; rfl
  simp only [place, Function.comp_apply, Int.toNat_natCast]
  rw [if_pos (by omega)]

theorem positions_eq_window {y x : Nat} (rows : ∀ i < p.1, y * s.1 + i * d.1 < t.dim 1)
    (columns : ∀ j < p.2, x * s.2 + j * d.2 < t.dim 2) (c : Nat) :
    ((axisPositions (t.dim 1) ((y : Int) * s.1) d.1 p.1).flatMap fun row =>
        (axisPositions (t.dim 2) ((x : Int) * s.2) d.2 p.2).map fun column => t.get3 c row column) =
      window p (windowOf t s d c y x) := by
  rw [axisPositions_eq rows, axisPositions_eq columns, List.flatMap_map]
  simp only [List.map_map]
  rfl

def pooledBy (value : List Int → Option Int) (p s d : Nat × Nat) (t : Tensor) (r v : Nat) : Tensor :=
  ofFn [t.dim 0, r, v] fun k => (value (window p (windowOf t s d (k / (v * r)) (k / v % r) (k % v)))).getD 0

theorem get3_pooledBy (value : List Int → Option Int) {r v c y x : Nat} (channel : c < t.dim 0) (row : y < r)
    (column : x < v) :
    (pooledBy value p s d t r v).get3 c y x = (value (window p (windowOf t s d c y x))).getD 0 :=
  get3_ofFn (fun c y x => (value (window p (windowOf t s d c y x))).getD 0) (fun _ => rfl) channel row column

theorem eq_ok_of_yields {α ε : Type} {x : Except ε α} {a : α} (yields : Yields (fun _ => False) (· = a) x) :
    x = .ok a := by
  obtain ⟨_, result, rfl⟩ := yields.exists_ok
  exact result

theorem ofFn_eq_iff {shape : List Nat} {f g : Nat → Int} :
    ofFn shape f = ofFn shape g ↔ ∀ k < shapeSize shape, f k = g k := by
  refine ⟨fun same k inside => ?_, fun each => ?_⟩
  · rw [← flat_ofFn (f := f) inside, same, flat_ofFn inside]
  · have values : (fun k : Fin (shapeSize shape) => f k) = fun k : Fin (shapeSize shape) => g k :=
      funext fun k => each k k.isLt
    simp only [ofFn, values]

theorem ofFn_values {shape : List Nat} {n : Nat} (g : Nat → Int) (all : shapeSize shape = n) :
    (ofFn shape fun k => ((List.range n).map g).toArray.getD k 0) = ofFn shape g := by
  refine ofFn_eq_iff.mpr fun k inside => ?_
  simp [← all, inside]

/-- Every element that a window takes is in its channel. -/
def WindowsInside (p s d : Nat × Nat) (t : Tensor) (r v : Nat) : Prop :=
  (∀ y < r, ∀ i < p.1, y * s.1 + i * d.1 < t.dim 1) ∧ ∀ x < v, ∀ j < p.2, x * s.2 + j * d.2 < t.dim 2

theorem pooledShape_eq {r v : Nat} (kind : PoolKind) (filled : 0 < p.1 ∧ 0 < p.2)
    (rows : poolCount (t.dim 1) p.1 s.1 d.1 = .ok (r : Int))
    (columns : poolCount (t.dim 2) p.2 s.2 d.2 = .ok (v : Int)) :
    pooledShape (poolSettings kind p s d) t = .ok [t.dim 0, r, v] := by
  have area : (poolSettings kind p s d).pool.product ≠ 0 :=
    Int.mul_ne_zero (Int.natCast_ne_zero.mpr filled.1.ne') (Int.natCast_ne_zero.mpr filled.2.ne')
  apply eq_ok_of_yields
  rw [pooledShape]
  refine .bind_eq rows (.bind_eq columns ?_)
  refine .guard (fun negative => ?_) fun _ _ => .guard (fun empty => absurd empty area) fun _ _ => .pure rfl
  simp only [Bool.or_eq_true, decide_eq_true_eq] at negative
  simp only [poolSettings] at negative
  omega

theorem poolStrided_eq {r v : Nat} (shaped : pooledShape (poolSettings kind p s d) t = .ok [t.dim 0, r, v])
    (inside : WindowsInside p s d t r v) :
    poolStrided (poolSettings kind p s d) t = .ok (pooledBy (poolWindow kind) p s d t r v) := by
  apply eq_ok_of_yields
  rw [poolStrided]
  refine .bind_eq shaped (.bind_eq (mapM_eq_ok (g := fun k =>
    (poolWindow kind (window p (windowOf t s d (k / (v * r)) (k / v % r) (k % v)))).getD 0) fun k place => ?_) ?_)
  · simp only [List.getD_cons_zero, List.getD_cons_succ, List.mem_range, shapeSize] at place ⊢
    have some_rows : 0 < r := Nat.pos_of_ne_zero fun none => by simp [none] at place
    have some_columns : 0 < v := Nat.pos_of_ne_zero fun none => by simp [none] at place
    rw [windowAt_eq kind (inside.1 _ (Nat.mod_lt (k / v) some_rows)) (inside.2 _ (Nat.mod_lt k some_columns))]
    rfl
  · exact .pure (ofFn_values _ rfl)

theorem poolDirect_eq {r v : Nat} (filled : 0 < p.1 ∧ 0 < p.2)
    (rows : ∀ y < r, ∀ i < p.1, y * s.1 + i * d.1 < t.dim 1)
    (columns : ∀ x < v, ∀ j < p.2, x * s.2 + j * d.2 < t.dim 2) :
    poolDirect (poolSettings kind p s d) t [t.dim 0, r, v] = .ok (pooledBy (poolWindowDirect kind) p s d t r v) := by
  apply eq_ok_of_yields
  unfold poolDirect
  refine .guard (fun negative => by simp at negative; omega) fun _ _ => ?_
  refine .guard (fun outside => by simp at outside) fun _ _ => ?_
  refine .bind_eq (mapM_eq_ok (g := fun k =>
    (poolWindowDirect kind (window p (windowOf t s d (k / (v * r)) (k / v % r) (k % v)))).getD 0) fun k place => ?_) ?_
  · simp only [List.getD_cons_zero, List.getD_cons_succ, Int.toNat_natCast, List.mem_range] at place ⊢
    have some_rows : 0 < r := Nat.pos_of_ne_zero fun none => by simp [none] at place
    have some_columns : 0 < v := Nat.pos_of_ne_zero fun none => by simp [none] at place
    obtain ⟨x, found⟩ := poolWindowDirect_isSome kind
      (window_ne_nil filled (windowOf t s d (k / (v * r)) (k / v % r) (k % v)))
    have elements := positions_eq_window (rows _ (Nat.mod_lt (k / v) some_rows))
      (columns _ (Nat.mod_lt k some_columns)) (k / (v * r))
    simp only [poolSettings, elements, found]
    rfl
  · exact .pure (ofFn_values _ (by simp [shapeSize, Nat.mul_assoc]))

section

variable {u out : Tensor} {settings : PoolSettings} {size : List Int} {before after : Session}

theorem pool2d_shape_mismatch {shape : List Nat} (shaped : pooledShape settings t = .ok shape)
    (quick : before.options.debug = false) (other : shape.map Int.ofNat ≠ size) :
    ∃ message, (pool2d settings t t.sizes size).run before = .error (.check message) before := by
  have input : hasSize t t.sizes = true := by simp [hasSize, Tensor.sizes]
  simp only [pool2d, input, Bool.not_true, Bool.false_eq_true, if_false, Run.options_bind, quick, shaped, Run.lift,
    pure_bind, if_pos other]
  exact ⟨_, rfl⟩

variable (strided : poolStrided settings t = .ok u)
include strided

theorem pool2d_ok
    (direct : before.options.debug = true → poolDirect settings t size = .ok u) (sized : u.sizes = size) :
    (pool2d settings t t.sizes size).run before = .ok u before := by
  have input : hasSize t t.sizes = true := by simp [hasSize, Tensor.sizes]
  have shaped := poolStrided_shape strided
  have output : u.shape.map Int.ofNat = size := sized
  have same : comparable u.shape u.shape = true ∧ agree u u = true := by simp [comparable, agree]
  simp only [pool2d, input, Bool.not_true, Bool.false_eq_true, if_false, Run.options_bind]
  cases debug : before.options.debug with
  | false => simp [strided, shaped, output, Run.lift]
  | true => simp [strided, shaped, direct debug, same, output, Run.lift]

theorem pool2d_mismatch {b : Tensor} (debug : before.options.debug = true)
    (direct : poolDirect settings t size = .ok b) (shapes : b.shape = u.shape) (other : b ≠ u) :
    ∃ after, (pool2d settings t t.sizes size).run before = .error (.exit 1) after := by
  have input : hasSize t t.sizes = true := by simp [hasSize, Tensor.sizes]
  have comparable : comparable b.shape u.shape = true := by simp [comparable, shapes]
  have differ : agree b u = false := by
    rw [agree, if_pos shapes]
    simpa using fun same => other (by cases b; cases u; simp_all)
  simp only [pool2d, input, Bool.not_true, Bool.false_eq_true, if_false, Run.options_bind, debug, strided, direct,
    poolStrided_shape strided, Run.lift, pure_bind, if_true, map_pure, comparable, differ, Bool.not_false]
  obtain ⟨after, stopped⟩ := Run.stop_run _ before
  exact ⟨after, by rw [EStateM.run_bind, stopped]⟩

end

structure HasPooled (kind : PoolKind) (p s d : Nat × Nat) (t : Tensor) (r v : Nat) (out : Tensor) : Prop where
  shape : out.shape = [t.dim 0, r, v]
  values : ∀ c < t.dim 0, ∀ y < r, ∀ x < v, IsPooled kind p (windowOf t s d c y x) (out.get3 c y x)

theorem pooledBy_hasPooled (filled : 0 < p.1 ∧ 0 < p.2) (kind : PoolKind) (s d : Nat × Nat) (t : Tensor) (r v : Nat) :
    HasPooled kind p s d t r v (pooledBy (poolWindow kind) p s d t r v) := by
  refine ⟨rfl, fun c channel y row x column => ?_⟩
  obtain ⟨value, found, pooled⟩ := poolWindow_pools kind filled (windowOf t s d c y x)
  rw [get3_pooledBy _ channel row column, found]
  exact pooled

theorem window_bytes (bytes : t.All IsByte) (p s d : Nat × Nat) (c y x : Nat) :
    ∀ v ∈ window p (windowOf t s d c y x), IsByte v := by
  intro v member
  obtain ⟨i, _, j, _, rfl⟩ := mem_window.mp member
  exact bytes.flat IsByte.zero _

theorem pooledBy_direct_eq_iff (filled : 0 < p.1 ∧ 0 < p.2) (bytes : t.All IsByte) (kind : PoolKind) (s d : Nat × Nat)
    (r v : Nat) :
    pooledBy (poolWindowDirect kind) p s d t r v = pooledBy (poolWindow kind) p s d t r v ↔
      (kind = .average true → ∀ c < t.dim 0, ∀ y < r, ∀ x < v,
        ¬ Tied (∑ i ∈ range p.1, ∑ j ∈ range p.2, windowOf t s d c y x i j) (p.1 * p.2)) := by
  have each : ∀ c y x, (poolWindowDirect kind (window p (windowOf t s d c y x))).getD 0 =
      (poolWindow kind (window p (windowOf t s d c y x))).getD 0 ↔ (kind = .average true →
        ¬ Tied (∑ i ∈ range p.1, ∑ j ∈ range p.2, windowOf t s d c y x i j) (p.1 * p.2)) := by
    intro c y x
    have nonempty := window_ne_nil filled (windowOf t s d c y x)
    rw [← sum_window, ← length_window, ← poolWindowDirect_eq_iff (window_bytes bytes p s d c y x) nonempty]
    obtain ⟨a, direct⟩ := poolWindowDirect_isSome kind nonempty
    obtain ⟨b, strided, _⟩ := poolWindow_pools kind filled (windowOf t s d c y x)
    simp [direct, strided]
  constructor
  · intro same rounded c channel y row x column
    refine (each c y x).mp ?_ rounded
    rw [← get3_pooledBy _ channel row column, same, get3_pooledBy _ channel row column]
  · intro untied
    refine ofFn_eq_iff.mpr fun k inside => (each _ _ _).mpr fun rounded => ?_
    simp only [shapeSize, Nat.mul_one] at inside
    have some_rows : 0 < r := Nat.pos_of_ne_zero fun none => by simp [none] at inside
    have some_columns : 0 < v := Nat.pos_of_ne_zero fun none => by simp [none] at inside
    refine untied rounded _ ?_ _ (Nat.mod_lt _ some_rows) _ (Nat.mod_lt _ some_columns)
    rw [Nat.div_lt_iff_lt_mul (Nat.mul_pos some_columns some_rows), Nat.mul_comm v]
    exact inside

def poolLayer (kind : PoolKind) (p s d : Nat × Nat) (t : Tensor) : Simulator.PoolingSettings :=
  { layer := 0, inputSize := t.sizes, pool := ⟨p.1, p.2⟩, stride := ⟨s.1, s.2⟩, dilation := ⟨d.1, d.2⟩,
    average := kind != .maximum, rounded := kind == .average true }

theorem pooledSize_eq {r v : Nat} (plane : t.rank = 3) (rows : PoolAxis (t.dim 1) p.1 s.1 d.1 r)
    (columns : PoolAxis (t.dim 2) p.2 s.2 d.2 v) :
    (poolLayer kind p s d t).pooledSize = .ok [(t.dim 0 : Int), r, v] := by
  have sizes : t.sizes = [(t.dim 0 : Int), t.dim 1, t.dim 2] := by
    rw [Tensor.sizes, shape_of_rank_three plane]
    rfl
  simp only [pooledSize, poolLayer, sizes, List.headD_cons, List.getD_cons_zero,
    List.getD_cons_succ, rows.pooledLength_eq, columns.pooledLength_eq]
  rfl

/-- Bytes in channels, with windows that fit in their rows and columns. -/
structure Undilated (p s : Nat × Nat) (t : Tensor) : Prop where
  plane : t.rank = 3
  bytes : t.All IsByte
  some_elements : 0 < p.1 ∧ 0 < p.2
  fits : p.1 ≤ t.dim 1 ∧ p.2 ≤ t.dim 2
  strides : 0 < s.1 ∧ 0 < s.2

theorem counting_bytes {shape : List Nat} (few : shapeSize shape ≤ 128) : (counting shape).All IsByte := by
  intro x member
  obtain ⟨k, rfl⟩ := Array.mem_ofFn.mp member
  have below := k.isLt
  exact show IsByte (k : Int) from ⟨by omega, by omega⟩

theorem undilated_axis {n p s : Nat} (some_elements : 0 < p) (some_stride : 0 < s) (fits : p ≤ n) :
    PoolAxis n p s 1 ((n - p) / s + 1) ∧ Enclosed n p s 1 ∧ ¬ Cropped n p s 1 :=
  ⟨⟨some_elements, some_stride, by decide, by omega, by congr 2; omega⟩, by simp [Enclosed], by simp [Cropped]⟩

theorem Undilated.results (input : Undilated p s t) (kind : PoolKind) :
    ∃ r v : Nat, (poolLayer kind p s (1, 1) t).pooledSize = .ok [(t.dim 0 : Int), r, v] ∧
      WindowsInside p s (1, 1) t r v ∧
      poolStrided (poolSettings kind p s (1, 1)) t = .ok (pooledBy (poolWindow kind) p s (1, 1) t r v) ∧
      poolDirect (poolSettings kind p s (1, 1)) t [t.dim 0, r, v] =
        .ok (pooledBy (poolWindowDirect kind) p s (1, 1) t r v) := by
  obtain ⟨rows, tall, no_row⟩ := undilated_axis input.some_elements.1 input.strides.1 input.fits.1
  obtain ⟨columns, wide, no_column⟩ := undilated_axis input.some_elements.2 input.strides.2 input.fits.2
  have inside : WindowsInside p s (1, 1) t _ _ := ⟨rows.enclosed_iff.mp tall, columns.enclosed_iff.mp wide⟩
  exact ⟨_, _, pooledSize_eq input.plane rows columns, inside,
    poolStrided_eq (pooledShape_eq kind input.some_elements
      (rows.poolCount_eq.trans (by rw [if_neg no_row])) (columns.poolCount_eq.trans (by rw [if_neg no_column]))) inside,
    poolDirect_eq input.some_elements inside.1 inside.2⟩

/-- Pooling of bytes without dilation gives the maximum or the average, cut toward zero, of each window, all of which
are inside the data. The direct rule gives the same result, so that it is given in debug mode too. -/
theorem undilated_pooling_pools (input : Undilated p s t) (unrounded : kind ≠ .average true) (before : Session) :
    ∃ (r v : Nat) (out : Tensor), (poolLayer kind p s (1, 1) t).pooledSize = .ok [(t.dim 0 : Int), r, v] ∧
      WindowsInside p s (1, 1) t r v ∧
      (pool2d (poolSettings kind p s (1, 1)) t t.sizes [t.dim 0, r, v]).run before = .ok out before ∧
      poolDirect (poolSettings kind p s (1, 1)) t [t.dim 0, r, v] = .ok out ∧ HasPooled kind p s (1, 1) t r v out := by
  obtain ⟨r, v, size, inside, strided, direct⟩ := input.results kind
  rw [(pooledBy_direct_eq_iff input.some_elements input.bytes kind s _ r v).mpr
    fun rounded => absurd rounded unrounded] at direct
  exact ⟨r, v, _, size, inside, pool2d_ok strided (fun _ => direct) rfl, direct,
    pooledBy_hasPooled input.some_elements kind s (1, 1) t r v⟩

theorem undilated_pooling_with_overlap :
    Undilated (2, 3) (3, 2) (counting [2, 7, 8]) ∧ ∃ (r v : Nat) (out : Tensor),
      (poolLayer (.average false) (2, 3) (3, 2) (1, 1) (counting [2, 7, 8])).pooledSize = .ok [2, r, v] ∧
      WindowsInside (2, 3) (3, 2) (1, 1) (counting [2, 7, 8]) r v ∧
      (pool2d (poolSettings (.average false) (2, 3) (3, 2) (1, 1)) (counting [2, 7, 8]) [2, 7, 8] [2, r, v]).run {} =
        .ok out {} ∧
      poolDirect (poolSettings (.average false) (2, 3) (3, 2) (1, 1)) (counting [2, 7, 8]) [2, r, v] = .ok out ∧
      HasPooled (.average false) (2, 3) (3, 2) (1, 1) (counting [2, 7, 8]) r v out := by
  have input : Undilated (2, 3) (3, 2) (counting [2, 7, 8]) :=
    ⟨rfl, counting_bytes (by decide), by decide, by decide, by decide⟩
  exact ⟨input, undilated_pooling_pools input (by decide) {}⟩

/-- The direct rule takes halves to the next number, so both rules give the same averages exactly if there is no half
whose lower neighbour is even. In debug mode, this decides whether a result is given. -/
theorem rounded_pooling_agrees_iff (input : Undilated p s t) :
    ∃ (r v : Nat) (fast direct : Tensor),
      (poolLayer (.average true) p s (1, 1) t).pooledSize = .ok [(t.dim 0 : Int), r, v] ∧
      poolStrided (poolSettings (.average true) p s (1, 1)) t = .ok fast ∧
      poolDirect (poolSettings (.average true) p s (1, 1)) t [t.dim 0, r, v] = .ok direct ∧
      HasPooled (.average true) p s (1, 1) t r v fast ∧
      (direct = fast ↔ ∀ c < t.dim 0, ∀ y < r, ∀ x < v,
        ¬ Tied (∑ i ∈ range p.1, ∑ j ∈ range p.2, windowOf t s (1, 1) c y x i j) (p.1 * p.2)) ∧
      ∀ before : Session, before.options.debug = true →
        (direct = fast →
          (pool2d (poolSettings (.average true) p s (1, 1)) t t.sizes [t.dim 0, r, v]).run before = .ok fast before) ∧
        (direct ≠ fast → ∃ after,
          (pool2d (poolSettings (.average true) p s (1, 1)) t t.sizes [t.dim 0, r, v]).run before =
            .error (.exit 1) after) := by
  obtain ⟨r, v, size, _, strided, direct⟩ := input.results (.average true)
  refine ⟨r, v, _, _, size, strided, direct, pooledBy_hasPooled input.some_elements _ s (1, 1) t r v, ?_, ?_⟩
  · simpa using pooledBy_direct_eq_iff input.some_elements input.bytes (.average true) s (1, 1) r v
  · intro before debug
    exact ⟨fun same => pool2d_ok strided (fun _ => same ▸ direct) rfl, pool2d_mismatch strided debug direct rfl⟩

/-- The averages `3 / 2` and `7 / 2` lie above odd numbers. -/
theorem rounded_pooling_of_halves :
    Undilated (1, 2) (1, 1) (ofFn [1, 1, 3] fun k => k * k + 1) ∧ ∃ out,
      (pool2d (poolSettings (.average true) (1, 2) (1, 1) (1, 1)) (ofFn [1, 1, 3] fun k => k * k + 1) [1, 1, 3]
        [1, 1, 2]).run { options := { debug := true } } = .ok out { options := { debug := true } } ∧
      HasPooled (.average true) (1, 2) (1, 1) (1, 1) (ofFn [1, 1, 3] fun k => k * k + 1) 1 2 out := by
  have input : Undilated (1, 2) (1, 1) (ofFn [1, 1, 3] fun k => k * k + 1) := by
    refine ⟨rfl, ?_, by decide, by decide, by decide⟩
    simp [All, ofFn, IsByte]
    decide
  obtain ⟨r, v, fast, direct, size, _, _, pooled, same, run⟩ := rounded_pooling_agrees_iff input
  cases size
  refine ⟨input, fast, (run _ rfl).1 (same.mpr ?_), pooled⟩
  unfold Tied
  decide

/-- The average `1 / 2`. -/
theorem rounded_pooling_disagrees :
    Undilated (1, 2) (1, 1) (counting [1, 1, 2]) ∧
      poolStrided (poolSettings (.average true) (1, 2) (1, 1) (1, 1)) (counting [1, 1, 2]) =
        .ok (ofFn [1, 1, 1] fun _ => 0) ∧
      poolDirect (poolSettings (.average true) (1, 2) (1, 1) (1, 1)) (counting [1, 1, 2]) [1, 1, 1] =
        .ok (ofFn [1, 1, 1] fun _ => 1) ∧
      ∃ after, (pool2d (poolSettings (.average true) (1, 2) (1, 1) (1, 1)) (counting [1, 1, 2]) [1, 1, 2]
        [1, 1, 1]).run { options := { debug := true } } = .error (.exit 1) after := by
  refine ⟨⟨rfl, counting_bytes (by decide), by decide, by decide, by decide⟩, rfl, rfl, ?_⟩
  exact ⟨_, rfl⟩

/-- Pooling of a layer that was traced with `r` rows and `v` columns of windows. -/
structure Dilated (p s d : Nat × Nat) (t : Tensor) (r v : Nat) : Prop where
  plane : t.rank = 3
  some_elements : 0 < p.1 ∧ 0 < p.2
  strides : 0 < s.1 ∧ 0 < s.2
  dilations : 0 < d.1 ∧ 0 < d.2
  some_windows : 0 < r ∧ 0 < v
  rows : (Dimensions.pooled (t.dim 1) s.1 p.1 d.1).run [] = .ok (r : Int) []
  columns : (Dimensions.pooled (t.dim 2) s.2 p.2 d.2).run [] = .ok (v : Int) []

section

variable {n p s d r : Nat} (some_elements : 0 < p) (some_stride : 0 < s) (some_distance : 0 < d)
  (some_windows : 0 < r)
include some_elements some_stride some_distance some_windows

theorem axis_of_length (length : ((n : Int) + s - p - d + 1).fdiv s = r) : PoolAxis n p s d r := by
  rw [Int.fdiv_eq_ediv_of_nonneg _ (by omega), Int.ediv_eq_iff_of_pos (by omega), ← Int.natCast_mul] at length
  have first : s ≤ r * s := Nat.le_mul_of_pos_left s some_windows
  refine ⟨some_elements, some_stride, some_distance, by omega, ?_⟩
  obtain ⟨k, rfl⟩ : ∃ k, r = k + 1 := ⟨r - 1, by omega⟩
  rw [Nat.succ_mul] at length
  rw [(Nat.div_eq_iff some_stride).mpr]
  omega

theorem axis_of_traced (traced : (Dimensions.pooled n s p d).run [] = .ok (r : Int) []) : PoolAxis n p s d r := by
  refine axis_of_length some_elements some_stride some_distance some_windows ?_
  unfold Dimensions.pooled at traced
  rw [if_neg (by omega)] at traced
  exact (pure_ok.mp traced).1

end

/-- Pooling of a traced layer fails exactly if an axis is cut too short, takes elements from outside exactly if the last
window ends outside, and gives the maximum or the average of each window in all other cases. -/
theorem dilated_pooling_iff {r v : Nat} (input : Dilated p s d t r v) (unrounded : kind ≠ .average true)
    {before : Session} (bytes : before.options.debug = true → kind = .maximum ∨ t.All IsByte) :
    (poolLayer kind p s d t).pooledSize = .ok [(t.dim 0 : Int), r, v] ∧
      (before.options.debug = false → Cropped (t.dim 1) p.1 s.1 d.1 ∨ Cropped (t.dim 2) p.2 s.2 d.2 → ∃ message,
        (pool2d (poolSettings kind p s d) t t.sizes [t.dim 0, r, v]).run before = .error (.check message) before) ∧
      (WindowsInside p s d t r v ↔ Enclosed (t.dim 1) p.1 s.1 d.1 ∧ Enclosed (t.dim 2) p.2 s.2 d.2) ∧
      ((∃ out, (pool2d (poolSettings kind p s d) t t.sizes [t.dim 0, r, v]).run before = .ok out before ∧
          WindowsInside p s d t r v ∧ HasPooled kind p s d t r v out) ↔
        (¬ Cropped (t.dim 1) p.1 s.1 d.1 ∧ ¬ Cropped (t.dim 2) p.2 s.2 d.2) ∧
          Enclosed (t.dim 1) p.1 s.1 d.1 ∧ Enclosed (t.dim 2) p.2 s.2 d.2) := by
  have rows := axis_of_traced input.some_elements.1 input.strides.1 input.dilations.1 input.some_windows.1 input.rows
  have columns := axis_of_traced input.some_elements.2 input.strides.2 input.dilations.2 input.some_windows.2
    input.columns
  have shaped := pooledShape_eq kind input.some_elements rows.poolCount_eq columns.poolCount_eq
  have inside : WindowsInside p s d t r v ↔ _ := and_congr rows.enclosed_iff.symm columns.enclosed_iff.symm
  have sized : [t.dim 0, if Cropped (t.dim 1) p.1 s.1 d.1 then r - 1 else r,
      if Cropped (t.dim 2) p.2 s.2 d.2 then v - 1 else v].map Int.ofNat = [(t.dim 0 : Int), r, v] ↔
        ¬ Cropped (t.dim 1) p.1 s.1 d.1 ∧ ¬ Cropped (t.dim 2) p.2 s.2 d.2 := by
    have windows := input.some_windows
    simp only [List.map_cons, List.map_nil, List.cons.injEq, and_true]
    split <;> split <;> simp [*]
  refine ⟨pooledSize_eq input.plane rows columns, ?_, inside, ?_, ?_⟩
  · intro quick cropped
    refine pool2d_shape_mismatch shaped quick fun same => ?_
    obtain ⟨no_row, no_column⟩ := sized.mp same
    exact cropped.elim no_row no_column
  · rintro ⟨out, run, within, _⟩
    obtain ⟨result, size⟩ := ((pool2d_gives _ t _ _).result trivial run).1
    obtain same := Except.ok.inj (shaped.symm.trans (poolStrided_shape result))
    rw [Tensor.sizes, ← same] at size
    exact ⟨sized.mp size, inside.mp within⟩
  · rintro ⟨kept, enclosed⟩
    rw [if_neg kept.1, if_neg kept.2] at shaped
    have within := inside.mpr enclosed
    have strided := poolStrided_eq shaped within
    refine ⟨_, pool2d_ok strided (fun debug => ?_) rfl, within, pooledBy_hasPooled input.some_elements kind s d t r v⟩
    rw [poolDirect_eq input.some_elements within.1 within.2]
    rcases bytes debug with rfl | bytes
    · rfl
    · rw [(pooledBy_direct_eq_iff input.some_elements bytes kind s d r v).mpr fun rounded => absurd rounded unrounded]

theorem dilated_pooling_of_pairs :
    Dilated (2, 2) (2, 2) (2, 2) (counting [2, 7, 6]) 3 2 ∧
      (∃ out, (pool2d (poolSettings .maximum (2, 2) (2, 2) (2, 2)) (counting [2, 7, 6]) [2, 7, 6] [2, 3, 2]).run {} =
          .ok out {} ∧
        WindowsInside (2, 2) (2, 2) (2, 2) (counting [2, 7, 6]) 3 2 ∧
        HasPooled .maximum (2, 2) (2, 2) (2, 2) (counting [2, 7, 6]) 3 2 out) := by
  have input : Dilated (2, 2) (2, 2) (2, 2) (counting [2, 7, 6]) 3 2 := by
    constructor
    case rows | columns => rfl
    all_goals decide
  exact ⟨input, (dilated_pooling_iff input (by decide) (by simp)).2.2.2.mpr (by decide)⟩

/-- Windows of pairs, the last of which is lost, and of three elements, the last of which is in the next row. -/
theorem dilated_pooling_fails :
    (Dilated (2, 2) (3, 3) (2, 2) (counting [1, 6, 6]) 2 2 ∧
      WindowsInside (2, 2) (3, 3) (2, 2) (counting [1, 6, 6]) 2 2 ∧
      (pool2d (poolSettings .maximum (2, 2) (3, 3) (2, 2)) (counting [1, 6, 6]) [1, 6, 6] [1, 2, 2]).run {} =
        .error (.check "shape mismatch (1, 1, 1) vs [1, 2, 2]") {}) ∧
    Dilated (1, 3) (2, 2) (1, 2) (counting [1, 2, 4]) 1 1 ∧
      ¬ WindowsInside (1, 3) (2, 2) (1, 2) (counting [1, 2, 4]) 1 1 ∧
      (pool2d (poolSettings .maximum (1, 3) (2, 2) (1, 2)) (counting [1, 2, 4]) [1, 2, 4] [1, 1, 1]).run {} =
        .ok (ofFn [1, 1, 1] fun _ => 4) {} := by
  refine ⟨⟨?_, by unfold WindowsInside; decide, rfl⟩, ?_, by unfold WindowsInside; decide, rfl⟩
  all_goals
    constructor
    case rows | columns => rfl
    all_goals decide

end CnnForge.Compute
