import CnnForge.Compute.Combination
import CnnForge.Proofs.ConvolutionSums
import CnnForge.SoftwareNet.Weights

namespace CnnForge

open Finset

variable {t k : Tensor} {shape perm index : List Nat} {o c h w kh kw : Nat}

namespace Tensor

theorem unravel_offset (inside : List.Forall₂ (· < ·) index shape) :
    offset shape index < shapeSize shape ∧ unravel shape (offset shape index) = index := by
  induction inside with
  | nil => exact ⟨Nat.one_pos, rfl⟩
  | cons head _ ih =>
    refine ⟨place_lt head ih.1, ?_⟩
    rw [offset, unravel, place_div ih.1, place_mod ih.1, ih.2]

theorem transpose_flat (inside : List.Forall₂ (· < ·) index (perm.map t.dim)) :
    (t.transpose perm).flat (offset (perm.map t.dim) index) =
      t.flat
        ((List.zipWith (· * ·) index (perm.map fun a => shapeSize (t.shape.drop (a + 1)))).foldl (· + ·) 0) := by
  obtain ⟨place, same⟩ := unravel_offset inside
  rw [transpose, flat_ofFn place, same]

theorem channelsLast_flat (shape : t.shape = [c, h, w]) {e y x : Nat} (channel : e < c) (row : y < h) (column : x < w) :
    t.channelsLast.flat ((y * w + x) * c + e) = t.get3 e y x := by
  have dims : [1, 2, 0].map t.dim = [h, w, c] := by simp [dim, shape]
  have inside : List.Forall₂ (· < ·) [y, x, e] ([1, 2, 0].map t.dim) := by
    rw [dims]
    exact .cons row (.cons column (.cons channel .nil))
  have moved := transpose_flat inside
  rw [dims, shape] at moved
  simp only [offset, shapeSize, List.map_cons, List.map_nil, List.drop, List.zipWith, List.foldl] at moved
  have place : (y * w + x) * c + e = y * (w * (c * 1)) + (x * (c * 1) + (e * 1 + 0)) := by ring
  rw [get3_eq shape, channelsLast, place, moved]
  simp only [shapeSize]
  congr 1
  ring

end Tensor

theorem sum_range_blocks (a b : Nat) (f : Nat → Int) :
    ∑ q ∈ range (a * b), f q = ∑ i ∈ range a, ∑ j ∈ range b, f (i * b + j) := by
  induction a with
  | zero => simp
  | succ a ih => rw [Nat.succ_mul, sum_range_add, ih, sum_range_succ]

theorem sum_exchange (a b c d : Nat) (f : Nat → Nat → Nat → Nat → Int) :
    ∑ i ∈ range a, ∑ j ∈ range b, ∑ p ∈ range c, ∑ q ∈ range d, f i j p q =
      ∑ q ∈ range d, ∑ p ∈ range c, ∑ i ∈ range a, ∑ j ∈ range b, f i j p q := by
  calc ∑ i ∈ range a, ∑ j ∈ range b, ∑ p ∈ range c, ∑ q ∈ range d, f i j p q
    _ = ∑ i ∈ range a, ∑ p ∈ range c, ∑ j ∈ range b, ∑ q ∈ range d, f i j p q :=
      sum_congr rfl fun _ _ => sum_comm
    _ = ∑ p ∈ range c, ∑ i ∈ range a, ∑ j ∈ range b, ∑ q ∈ range d, f i j p q := sum_comm
    _ = ∑ p ∈ range c, ∑ i ∈ range a, ∑ q ∈ range d, ∑ j ∈ range b, f i j p q :=
      sum_congr rfl fun _ _ => sum_congr rfl fun _ _ => sum_comm
    _ = ∑ p ∈ range c, ∑ q ∈ range d, ∑ i ∈ range a, ∑ j ∈ range b, f i j p q := sum_congr rfl fun _ _ => sum_comm
    _ = ∑ q ∈ range d, ∑ p ∈ range c, ∑ i ∈ range a, ∑ j ∈ range b, f i j p q := sum_comm

namespace Run

theorem account_ok {layer : Int} (counted : 0 ≤ layer) (s : Statistics) (c : Counter) (value : Int) :
    ∃ s', s.account layer c value = .ok s' := by
  have placed : ∀ xs : Array Int, position? (xs ++ Array.replicate (layer + 1 - xs.size).toNat 0).size layer =
      some layer.toNat := by
    intro xs
    have inside : layer < (xs ++ Array.replicate (layer + 1 - xs.size).toNat 0).size := by
      rw [Array.size_append, Array.size_replicate]
      omega
    simp only [position?, if_neg (Int.not_lt.mpr counted), if_pos (And.intro counted inside)]
  simp only [Statistics.account, Statistics.addAt, placed]
  exact ⟨_, rfl⟩

end Run

namespace Compute

open Outcome Tensor

variable {vector matrix : Tensor} {n outputs : Nat} {layer : Int}

def Silent (s : Session) : Prop := s.options.debugComputation = false

theorem account_silent (counted : 0 ≤ layer) (c : Counter) (value : Int) :
    Ends Silent (fun _ => False) (fun _ => True) (Run.account layer c value) := by
  refine .bind Ends.get fun s _ => ?_
  obtain ⟨s', accounted⟩ := Run.account_ok counted s.statistics c value
  exact .bind (Run.ends_lift (.of_eq accounted)) fun _ _ => Ends.modify fun _ silent => silent

theorem logStep_silent (text : String) : Ends Silent (fun _ => False) (fun _ => True) (logStep text) := by
  refine .bind Run.ends_options fun options found => .ite (fun logs => ?_) fun _ => .pure trivial
  obtain ⟨s, silent, rfl⟩ := found
  rw [Silent, logs] at silent
  cases silent

theorem foldl_range_sum (n : Nat) (f : Nat → Int) :
    (List.range n).foldl (fun acc i => acc + f i) 0 = ∑ i ∈ range n, f i := by
  induction n with
  | zero => rfl
  | succ n ih => rw [List.range_succ, List.foldl_append, ih, sum_range_succ]; rfl

theorem fullyConnected_sums (size : vector.size = n) (shape : matrix.shape = [outputs, n]) (counted : 0 ≤ layer) :
    Ends Silent (fun _ => False)
      (fun out => ∀ o < outputs, out.flat o = ∑ m ∈ range n, matrix.flat (o * n + m) * vector.flat m)
      (fullyConnected layer vector matrix none n outputs) := by
  have dims : matrix.dim 0 = outputs ∧ matrix.dim 1 = n := by simp [dim, shape]
  rw [fullyConnected, dims.2]
  refine .bind (Ends.mapM_eq (g := fun o => ∑ m ∈ range n, matrix.flat (o * n + m) * vector.flat m) _ fun o output => ?_) ?_
  · rw [List.mem_range] at output
    refine .bind (Ends.foldlM_eq (g := fun acc m => acc + matrix.flat (o * n + m) * vector.flat m) _
      (fun m member acc => ?_) 0) ?_
    · rw [List.mem_range] at member
      refine .guard (fun outside => ?_) fun _ _ => ?_
      · rw [size, dims.1] at outside
        omega
      · refine .bind (account_silent counted _ _) fun _ _ => .bind (logStep_silent _) fun _ _ => .pure ?_
        rw [mul_comm]
    · rintro _ rfl
      exact .pure (foldl_range_sum n _)
  · rintro _ rfl
    refine .pure fun o output => ?_
    rw [flat_ofFn (by simpa [shapeSize] using output)]
    simp [output]

end Compute

namespace SoftwareNet

open Tensor Compute

variable {a outputs : Nat}

/-- `t` has the weights of `k`, for maps of `a` places in `c` channels, with the channels of a place last. -/
structure Relaid (t k : Tensor) (outputs c a kh kw : Nat) : Prop where
  size : t.size = outputs * (kh * kw * (a * c))
  elements : ∀ o < outputs, ∀ i < kh, ∀ j < kw, ∀ p < a, ∀ e < c,
    t.flat (o * (kh * kw * (a * c)) + ((i * kw + j) * (a * c) + (p * c + e))) =
      k.flat ((((o * c + e) * a + p) * kh + i) * kw + j)

/-- If `f` has the values in the order of the weights of an output, and `g` by channel and place of the kernel, the sum
of the products is the same. -/
theorem Relaid.sum_eq (relaid : Relaid t k outputs c a kh kw) (output : o < outputs) {f : Nat → Int}
    {g : Nat → Nat → Nat → Int} (values : ∀ i < kh, ∀ j < kw, ∀ p < a, ∀ e < c,
      f ((i * kw + j) * (a * c) + (p * c + e)) = g (e * a + p) i j) :
    ∑ q ∈ range (kh * kw * (a * c)), f q * t.flat (o * (kh * kw * (a * c)) + q) =
      ∑ m ∈ range (c * a), ∑ i ∈ range kh, ∑ j ∈ range kw, k.flat (((o * (c * a) + m) * kh + i) * kw + j) * g m i j := by
  rw [sum_range_blocks, sum_range_blocks, sum_range_blocks]
  simp only [sum_range_blocks a c]
  rw [sum_exchange]
  refine sum_congr rfl fun e channel => sum_congr rfl fun p place => sum_congr rfl fun i row =>
    sum_congr rfl fun j column => ?_
  rw [mem_range] at channel place row column
  have same : ((o * (c * a) + (e * a + p)) * kh + i) * kw + j = (((o * c + e) * a + p) * kh + i) * kw + j := by ring
  rw [relaid.elements o output i row j column p place e channel, values i row j column p place e channel, same, mul_comm]

theorem relaid_image (size : k.size = outputs * (c * (h * w)) * (kh * kw)) :
    ∃ t, (WeightOrder.image outputs c ⟨h, w⟩ ⟨kh, kw⟩).relaid? k = some t ∧ Relaid t k outputs c (h * w) kh kw := by
  have same : shapeSize [outputs, c, h, w, kh, kw] = shapeSize k.shape := by
    rw [← k.size_eq, ← Tensor.size, size]
    simp only [shapeSize]
    ring
  obtain ⟨u, reshaped, shape⟩ := reshape?_of_size same
  have dims : [0, 4, 5, 2, 3, 1].map u.dim = [outputs, kh, kw, h, w, c] := by simp [dim, shape]
  refine ⟨u.transpose [0, 4, 5, 2, 3, 1], ?_, ?_, ?_⟩
  · simp [WeightOrder.relaid?, WeightOrder.image, reshapeWith?, reshaped]
  · rw [Tensor.size, Tensor.size_eq, transpose, ofFn, dims]
    simp only [shapeSize]
    ring
  · intro o output i row j column p place e channel
    have some_columns : 0 < w := Nat.pos_of_mul_pos_left (Nat.zero_lt_of_lt place)
    have above := Nat.div_lt_of_lt_mul (Nat.mul_comm h w ▸ place)
    have left := Nat.mod_lt p some_columns
    have inside : List.Forall₂ (· < ·) [o, i, j, p / w, p % w, e] ([0, 4, 5, 2, 3, 1].map u.dim) := by
      rw [dims]
      exact .cons output (.cons row (.cons column (.cons above (.cons left (.cons channel .nil)))))
    have moved := transpose_flat inside
    rw [dims, shape, reshape?_flat reshaped] at moved
    simp only [offset, shapeSize, List.map_cons, List.map_nil, List.drop, List.zipWith, List.foldl] at moved
    -- `ring` needs the row and the column as variables instead of quotient and remainder.
    have whole : p = p / w * w + p % w := (Nat.div_add_mod' p w).symm
    generalize p / w = y at *
    generalize p % w = x at *
    subst whole
    have stored : o * (kh * kw * (h * w * c)) + ((i * kw + j) * (h * w * c) + ((y * w + x) * c + e)) =
        o * (kh * (kw * (h * (w * (c * 1))))) + (i * (kw * (h * (w * (c * 1)))) + (j * (h * (w * (c * 1))) +
          (y * (w * (c * 1)) + (x * (c * 1) + (e * 1 + 0))))) := by ring
    rw [stored, moved]
    congr 1
    ring

theorem relaid_window (size : k.size = outputs * (c * 1) * (kh * kw)) :
    ∃ t, (WeightOrder.window outputs c ⟨kh, kw⟩).relaid? k = some t ∧ Relaid t k outputs c 1 kh kw := by
  have same : shapeSize [outputs, c, kh, kw] = shapeSize k.shape := by
    rw [← k.size_eq, ← Tensor.size, size]
    simp only [shapeSize]
    ring
  obtain ⟨u, reshaped, shape⟩ := reshape?_of_size same
  have dims : [0, 2, 3, 1].map u.dim = [outputs, kh, kw, c] := by simp [dim, shape]
  refine ⟨u.transpose [0, 2, 3, 1], ?_, ?_, ?_⟩
  · simp [WeightOrder.relaid?, WeightOrder.window, reshapeWith?, reshaped]
  · rw [Tensor.size, Tensor.size_eq, transpose, ofFn, dims]
    simp only [shapeSize]
    ring
  · intro o output i row j column p place e channel
    have inside : List.Forall₂ (· < ·) [o, i, j, e] ([0, 2, 3, 1].map u.dim) := by
      rw [dims]
      exact .cons output (.cons row (.cons column (.cons channel .nil)))
    have moved := transpose_flat inside
    rw [dims, shape, reshape?_flat reshaped] at moved
    simp only [offset, shapeSize, List.map_cons, List.map_nil, List.drop, List.zipWith, List.foldl] at moved
    obtain rfl := Nat.lt_one_iff.mp place
    have stored : o * (kh * kw * (1 * c)) + ((i * kw + j) * (1 * c) + (0 * c + e)) =
        o * (kh * (kw * (c * 1))) + (i * (kw * (c * 1)) + (j * (c * 1) + (e * 1 + 0))) := by ring
    rw [stored, moved]
    congr 1
    ring

def isPoint (l : SoftwareLayer) : Bool := l.kernelSize == .both 1 && l.inputSize == .both 1

def readsMap (l : SoftwareLayer) : Bool := isPoint l || l.flatten

/-- The kernels of a layer with one group: `outputs` kernels for `c` channels, of `h` times `w` places each if the
layer reads a map, and of one otherwise. -/
structure Weighted (l : SoftwareLayer) (k : Tensor) (outputs c h w kh kw : Nat) : Prop where
  kernel : l.kernel = some k
  output : l.outputChannels = outputs
  channels : l.inputChannels = if isPoint l then c * (h * w) else c
  window : l.kernelSize = ⟨kh, kw⟩
  map : if readsMap l then l.sourceSize = ⟨h, w⟩ else h = 1 ∧ w = 1
  some_places : 0 < h ∧ 0 < w
  size : k.size = outputs * (c * (h * w)) * (kh * kw)

theorem Weighted.weightOrder {l : SoftwareLayer} (weighted : Weighted l k outputs c h w kh kw) :
    weightOrder l = .ok (if readsMap l then .image outputs c ⟨h, w⟩ ⟨kh, kw⟩ else .window outputs c ⟨kh, kw⟩) := by
  obtain ⟨_, output, channels, window, map, some_places, _⟩ := weighted
  have places : (0 : Int) < h * w := by exact_mod_cast Nat.mul_pos some_places.1 some_places.2
  rw [SoftwareNet.weightOrder, ← isPoint, output]
  cases point : isPoint l with
  | true =>
    have source : l.sourceSize = ⟨h, w⟩ := by simpa [readsMap, point] using map
    have each : ((c * (h * w) : Int)).fdiv (h * w) = c := Int.mul_fdiv_cancel _ places.ne'
    simp [channels, point, source, Pair.product, places.ne', readsMap, each, window]
  | false =>
    cases flat : l.flatten with
    | true =>
      have source : l.sourceSize = ⟨h, w⟩ := by simpa [readsMap, flat] using map
      simp [channels, point, source, readsMap, flat, window]
    | false => simp [channels, point, readsMap, flat, window]

theorem Weighted.storedWeights {l : SoftwareLayer} (weighted : Weighted l k outputs c h w kh kw) :
    ∃ t, storedWeights l = .ok t ∧ Relaid t k outputs c (h * w) kh kw := by
  rw [SoftwareNet.storedWeights, weighted.kernel]
  simp only [weighted.weightOrder, bind, Except.bind]
  have map := weighted.map
  cases reads : readsMap l with
  | true =>
    obtain ⟨t, relaid, same⟩ := relaid_image weighted.size
    exact ⟨t, by simp [relaid], same⟩
  | false =>
    obtain ⟨rfl, rfl⟩ : h = 1 ∧ w = 1 := by simpa [reads] using map
    obtain ⟨t, relaid, same⟩ := relaid_window weighted.size
    exact ⟨t, by simp [relaid], same⟩

def inputWindow (p : Tensor) (kh kw : Nat) (s d : Nat × Nat) (y x : Nat) : Tensor :=
  .ofFn [p.dim 0, kh, kw] fun k =>
    p.get3 (k / (kw * kh)) (y * s.1 + k / kw % kh * d.1) (x * s.2 + k % kw * d.2)

/-- Data whose channels are the places of a map one channel after the other, with the channels of each place together. -/
def placesFirst (c a : Nat) (p : Tensor) : Tensor :=
  .ofFn [a * c, p.dim 1, p.dim 2] fun k =>
    p.get3 (k / (p.dim 2 * p.dim 1) % c * a + k / (p.dim 2 * p.dim 1) / c) (k / p.dim 2 % p.dim 1) (k % p.dim 2)

/-- The data of the operator in the order of channels in which the layer finds it. -/
def storedInput (l : SoftwareLayer) (c a : Nat) (p : Tensor) : Tensor := if readsMap l then placesFirst c a p else p

/-- The sum of the values times the weights at the same places in the slice of output `o`. -/
def sliceSum (t values : Tensor) (o : Nat) : Int :=
  ∑ q ∈ range values.size, values.flat q * t.flat (o * values.size + q)

theorem size_channelsLast {t : Tensor} (shape : t.shape = [c, h, w]) : t.channelsLast.size = h * w * c := by
  rw [Tensor.size, Tensor.size_eq]
  simp [channelsLast, transpose, ofFn, shape, dim, shapeSize, Nat.mul_assoc]

theorem placesFirst_get3 {p : Tensor} {q e y x : Nat} (place : q < a) (channel : e < c) (row : y < p.dim 1)
    (column : x < p.dim 2) : (placesFirst c a p).get3 (q * c + e) y x = p.get3 (e * a + q) y x := by
  refine (get3_ofFn (fun m y x => p.get3 (m % c * a + m / c) y x) (fun _ => rfl) (place_lt place channel) row
    column).trans ?_
  rw [place_mod channel, place_div channel]

theorem inputWindow_channelsLast {p : Tensor} (s d : Nat × Nat) (y x : Nat) {m i j : Nat} (channel : m < p.dim 0)
    (row : i < kh) (column : j < kw) : (inputWindow p kh kw s d y x).channelsLast.flat ((i * kw + j) * p.dim 0 + m) =
      p.get3 m (y * s.1 + i * d.1) (x * s.2 + j * d.2) := by
  rw [channelsLast_flat rfl channel row column]
  exact get3_ofFn (fun m i j => p.get3 m (y * s.1 + i * d.1) (x * s.2 + j * d.2)) (fun _ => rfl) channel row column

section

variable {kernels p u : Tensor} {s d : Nat × Nat} {rows columns y x : Nat}

theorem Relaid.convolution (relaid : Relaid t k outputs c a kh kw)
    (reshaped : k.reshape? [outputs, c * a, kh, kw] = some kernels) (shape : kernels.shape = [outputs, c * a, kh, kw])
    (channels : u.dim 0 = a * c)
    (values : ∀ q < a, ∀ e < c, ∀ y < p.dim 1, ∀ x < p.dim 2, u.get3 (q * c + e) y x = p.get3 (e * a + q) y x)
    (tall : ∀ y < rows, ∀ i < kh, y * s.1 + i * d.1 < p.dim 1)
    (wide : ∀ x < columns, ∀ j < kw, x * s.2 + j * d.2 < p.dim 2) (output : o < outputs) (row : y < rows)
    (column : x < columns) :
    sliceSum t (inputWindow u kh kw s d y x).channelsLast o = (correlate p kernels s d rows columns).get3 o y x := by
  have dims : kernels.dim 0 = outputs ∧ kernels.dim 1 = c * a ∧ kernels.dim 2 = kh ∧ kernels.dim 3 = kw := by
    simp [dim, shape]
  have sums := correlate_sums s d (Expands.self (by rw [rank, shape]; rfl)) (u := p) (g := p.get3)
    (fun _ _ _ _ _ _ => rfl) (h := rows) (w := columns) (by rwa [dims.2.2.1]) (by rwa [dims.2.2.2])
    (by rwa [dims.1]) row column
  have first : groupStart 1 kernels o = 0 := by simp [groupStart, dims.1, Nat.div_eq_of_lt output]
  rw [sums, dims.2.1, dims.2.2.1, dims.2.2.2, first, sliceSum, size_channelsLast rfl, channels,
    relaid.sum_eq output (g := fun m i j => p.get3 m (y * s.1 + i * d.1) (x * s.2 + j * d.2))]
  · refine sum_congr rfl fun m _ => sum_congr rfl fun i _ => sum_congr rfl fun j _ => ?_
    rw [get_four shape, reshape?_flat reshaped, Nat.zero_add]
  · intro i row' j column' q place e channel
    have moved := inputWindow_channelsLast (p := u) s d y x (channels ▸ place_lt place channel) row' column'
    rw [channels] at moved
    rw [moved, values q place e channel _ (tall y row i row') _ (wide x column j column')]

end

theorem channelsLast_places {x : Tensor} (shape : x.shape = [c, h, w]) {p e : Nat} (place : p < h * w)
    (channel : e < c) : x.channelsLast.flat (p * c + e) = x.flat (e * (h * w) + p) := by
  have some_columns : 0 < w := Nat.pos_of_mul_pos_left (Nat.zero_lt_of_lt place)
  have moved := channelsLast_flat shape channel (Nat.div_lt_of_lt_mul (Nat.mul_comm h w ▸ place))
    (Nat.mod_lt p some_columns)
  rw [Nat.div_add_mod', get3_eq shape, Nat.div_add_mod'] at moved
  rw [moved]
  simp only [shapeSize, Nat.mul_one]

theorem Relaid.fullyConnected {x vector matrix : Tensor} (relaid : Relaid t k outputs c (h * w) 1 1)
    (shape : x.shape = [c, h, w]) (line : x.reshape? [c * (h * w)] = some vector)
    (table : k.reshape? [outputs, c * (h * w)] = some matrix) (output : o < outputs) :
    sliceSum t x.channelsLast o =
      ∑ m ∈ range (c * (h * w)), matrix.flat (o * (c * (h * w)) + m) * vector.flat m := by
  have sums := relaid.sum_eq output (f := x.channelsLast.flat) (g := fun m _ _ => x.flat m)
    fun i row j column p place e channel => by
      obtain rfl := Nat.lt_one_iff.mp row
      obtain rfl := Nat.lt_one_iff.mp column
      simpa using channelsLast_places shape place channel
  have whole : h * w * c = 1 * 1 * (h * w * c) := by simp
  rw [sliceSum, size_channelsLast shape, whole, sums]
  refine sum_congr rfl fun m _ => ?_
  rw [sum_range_one, sum_range_one, reshape?_flat line, reshape?_flat table]
  simp

/-- The weights that are stored for a layer give the sums of the simulator: over the windows of its data with the
channels last, and over a whole map with the channels last where the layer is fully connected. -/
theorem storedWeights_preserves {l : SoftwareLayer} (weighted : Weighted l k outputs c h w kh kw) :
    ∃ t kernels, storedWeights l = .ok t ∧ t.size = outputs * (kh * kw * (h * w * c)) ∧
      k.reshape? [outputs, c * (h * w), kh, kw] = some kernels ∧
      (∀ (p : Tensor) (s d : Nat × Nat) (rows columns : Nat), p.dim 0 = c * (h * w) →
        (∀ y < rows, ∀ i < kh, y * s.1 + i * d.1 < p.dim 1) →
        (∀ x < columns, ∀ j < kw, x * s.2 + j * d.2 < p.dim 2) →
        ∀ o < outputs, ∀ y < rows, ∀ x < columns,
          sliceSum t (inputWindow (storedInput l c (h * w) p) kh kw s d y x).channelsLast o =
            (correlate p kernels s d rows columns).get3 o y x) ∧
      (kh = 1 ∧ kw = 1 → ∀ x : Tensor, x.shape = [c, h, w] → ∃ vector matrix,
        x.reshape? [c * (h * w)] = some vector ∧ k.reshape? [outputs, c * (h * w)] = some matrix ∧
        ∀ (layer : Int) (before : Session), 0 ≤ layer → before.options.debugComputation = false →
          ∃ out after, (fullyConnected layer vector matrix none (c * (h * w)) outputs).run before = .ok out after ∧
            ∀ o < outputs, sliceSum t x.channelsLast o = out.flat o) := by
  obtain ⟨t, stored, relaid⟩ := weighted.storedWeights
  have total : shapeSize k.shape = outputs * (c * (h * w)) * (kh * kw) := by
    rw [← k.size_eq]
    exact weighted.size
  have same : shapeSize [outputs, c * (h * w), kh, kw] = shapeSize k.shape := by
    rw [total]
    simp only [shapeSize]
    ring
  obtain ⟨kernels, reshaped, shape⟩ := reshape?_of_size same
  refine ⟨t, kernels, stored, relaid.size, reshaped, ?_, ?_⟩
  · intro p s d rows columns channels tall wide o output y row x column
    have map := weighted.map
    cases reads : readsMap l with
    | true =>
      rw [storedInput, reads, if_pos rfl]
      exact relaid.convolution reshaped shape rfl
        (fun _ place _ channel _ row _ column => placesFirst_get3 place channel row column) tall wide output row column
    | false =>
      obtain ⟨rfl, rfl⟩ : h = 1 ∧ w = 1 := by simpa [reads] using map
      rw [storedInput, reads, if_neg Bool.false_ne_true]
      refine relaid.convolution reshaped shape (by rw [channels, Nat.mul_comm]) ?_ tall wide output row column
      intro q place e _ y _ x _
      rw [show q * c + e = e * (1 * 1) + q by rw [Nat.lt_one_iff.mp place]; omega]
  · rintro ⟨rfl, rfl⟩ x map
    have values : shapeSize [c * (h * w)] = shapeSize x.shape := by
      rw [map]
      simp only [shapeSize]
      ring
    have weights : shapeSize [outputs, c * (h * w)] = shapeSize k.shape := by
      rw [total]
      simp only [shapeSize]
      ring
    obtain ⟨vector, line, vector_shape⟩ := reshape?_of_size values
    obtain ⟨matrix, table, matrix_shape⟩ := reshape?_of_size weights
    refine ⟨vector, matrix, line, table, fun layer before counted silent => ?_⟩
    have size : vector.size = c * (h * w) := by
      rw [Tensor.size, vector.size_eq, vector_shape]
      simp only [shapeSize, Nat.mul_one]
    have sums := fullyConnected_sums size matrix_shape counted before silent
    cases result : (fullyConnected layer vector matrix none (c * (h * w)) outputs).run before with
    | error e after =>
      rw [result] at sums
      exact sums.elim
    | ok out after =>
      rw [result] at sums
      exact ⟨out, after, rfl, fun o output => (relaid.fullyConnected map line table output).trans (sums.1 o output).symm⟩

def mapKernel : Tensor := .ofFn [4, 1, 1] fun k => k + 1

def mapLayer : SoftwareLayer :=
  { (default : SoftwareLayer) with
    kernel := some mapKernel, outputChannels := 1, inputChannels := 4, kernelSize := .both 1, inputSize := .both 1,
    sourceSize := ⟨1, 2⟩ }

theorem mapLayer_weighted : Weighted mapLayer mapKernel 1 2 1 2 1 1 :=
  ⟨rfl, rfl, rfl, rfl, rfl, by decide, rfl⟩

/-- The first place has the weights 1 and 3, and the second has 2 and 4. -/
theorem storedWeights_preserves_map :
    (storedWeights mapLayer).map (·.data) = .ok #[1, 3, 2, 4] ∧
      ∃ vector matrix out after, (fullyConnected 0 vector matrix none 4 1).run {} = .ok out after ∧
        out.flat 0 = 5 * 1 + 7 * 3 + 6 * 2 + 8 * 4 := by
  obtain ⟨t, _, stored, _, _, _, connected⟩ := storedWeights_preserves mapLayer_weighted
  obtain ⟨vector, matrix, _, _, run⟩ := connected ⟨rfl, rfl⟩ (.ofFn [2, 1, 2] fun k => k + 5) rfl
  obtain ⟨out, after, ran, sums⟩ := run 0 {} (Int.le_refl 0) rfl
  have data : (storedWeights mapLayer).map (·.data) = .ok #[1, 3, 2, 4] := rfl
  refine ⟨data, vector, matrix, out, after, ran, ?_⟩
  rw [← sums 0 Nat.one_pos]
  rw [stored] at data
  have weights : t.data = #[1, 3, 2, 4] := Except.ok.inj data
  simp only [sliceSum, Tensor.flat, weights]
  decide

end SoftwareNet

end CnnForge
