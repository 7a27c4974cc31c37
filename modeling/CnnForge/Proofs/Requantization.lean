import CnnForge.Network.Dimensions
import CnnForge.Proofs.SessionText
import CnnForge.Proofs.WeightPlacement

namespace CnnForge

open List Bits Outcome

variable {t r : Tensor} {n k : Nat} {x q : Int} {l : WeightLayer} {w : LayerWeights}

namespace Tensor

theorem foldl_pick (pick : Int → Int → Int) (xs : List Int) (m : Int) :
    xs.foldl (fun m x => match m with | none => some x | some m => some (pick m x)) (some m) =
      some (xs.foldl pick m) := by
  induction xs generalizing m with
  | nil => rfl
  | cons x xs ih => exact ih (pick m x)

theorem minimum?_eq (t : Tensor) : t.minimum? = t.data.toList.min? := by
  rw [minimum?, ← Array.foldl_toList]
  cases t.data.toList with
  | nil => rfl
  | cons x xs => exact foldl_pick min xs x

theorem maximum?_eq (t : Tensor) : t.maximum? = t.data.toList.max? := by
  rw [maximum?, ← Array.foldl_toList]
  cases t.data.toList with
  | nil => rfl
  | cons x xs => exact foldl_pick max xs x

theorem reshapeWith?_some {rest : List Nat} (some_each : shapeSize rest ≠ 0) (divides : shapeSize rest ∣ t.size) :
    ∃ k, t.reshapeWith? (none :: rest.map some) = some k ∧ k.data = t.data := by
  have total : t.size / shapeSize rest * shapeSize rest = shapeSize t.shape := by
    rw [Nat.div_mul_cancel divides, ← t.size_eq, size]
  have given : (rest.map some).filter Option.isNone = [] := by simp
  simp [reshapeWith?, given, completing?, some_each, Nat.mod_eq_zero_of_dvd divides, reshape?, shapeSize, total,
    Function.comp_def]

end Tensor

theorem dvd_shapeSize {s : List Nat} (last : s.getLast? = some n) : n ∣ shapeSize s := by
  induction s with
  | nil => simp at last
  | cons m s ih =>
    cases s with
    | nil =>
      rw [getLast?_singleton, Option.some.injEq] at last
      exact last ▸ Nat.dvd_mul_right _ _
    | cons m' s => exact Nat.dvd_mul_left_of_dvd (ih (by simpa using last)) m

/-- The integers that `n` bits in two's complement have. -/
def InBits (n : Nat) (x : Int) : Prop := -up 1 (n - 1) ≤ x ∧ x ≤ up 1 (n - 1) - 1

theorem inBits_iff (n : Nat) (x : Int) : InBits (n + 1) x ↔ (if x < 0 then x + 1 else x).natAbs < 1 <<< n := by
  rw [InBits, Nat.add_sub_cancel, up, Int.one_mul, Nat.one_shiftLeft]
  have power : ((2 ^ n : Nat) : Int) = 2 ^ n := by simp
  rw [← power]
  split <;> omega

theorem InBits.down (fits : InBits (n + 1 + k) x) : InBits (n + 1) (down x k) := by
  have whole : up 1 (n + k) = up 1 n * up 1 k := by simp [up, Int.pow_add]
  have positive : 0 < up 1 k := by
    rw [up, Int.one_mul]
    exact Int.pow_pos (by decide)
  rw [InBits, show n + 1 + k - 1 = n + k by omega, whole] at fits
  rw [InBits, Nat.add_sub_cancel, Bits.down, Int.shiftRight_eq_div_pow]
  have divisor : ((2 ^ k : Nat) : Int) = up 1 k := by simp [up]
  rw [divisor, Int.le_ediv_iff_mul_le positive, Int.neg_mul]
  refine ⟨fits.1, Int.le_sub_one_of_lt ?_⟩
  rw [Int.ediv_lt_iff_lt_mul positive]
  omega

namespace SampleWeights

theorem bitsOf_le_iff (x : Int) (n : Nat) : bitsOf x ≤ n + 1 ↔ InBits (n + 1) x := by
  rw [inBits_iff, bitsOf, highest]
  generalize (if x < 0 then x + 1 else x).natAbs = y
  by_cases zero : y = 0
  · have positive : 0 < 1 <<< n := by
      rw [Nat.one_shiftLeft]
      exact Nat.two_pow_pos n
    rw [if_pos (by omega), zero]
    omega
  · rw [if_neg (by omega), Nat.one_shiftLeft, ← Nat.log2_lt zero, Int.natAbs_natCast]
    omega

theorem kernelsOf_some (some_weights : t.data ≠ #[]) (ranked : t.shape ≠ []) :
    ∃ k, kernelsOf t = .ok k ∧ k.data = t.data := by
  have positive : shapeSize t.shape ≠ 0 := by
    rw [← t.size_eq]
    simpa using some_weights
  have size : t.size = shapeSize t.shape := t.size_eq
  obtain ⟨rest, reshaped, divides⟩ : ∃ rest : List Nat,
      (∀ k, t.reshapeWith? (none :: rest.map some) = some k → kernelsOf t = .ok k) ∧ shapeSize rest ∣ t.size := by
    unfold kernelsOf
    split
    · rename_i m n h width shape
      refine ⟨[h, width], fun k found => ?_, ?_⟩
      · simp only [map] at found
        simp only [found]
      · rw [size, shape]
        exact Nat.dvd_mul_left_of_dvd (Nat.dvd_mul_left _ _) _
    · refine ⟨[t.shape.getLast ranked], fun k found => ?_, ?_⟩
      · simp only [map] at found
        simp only [getLast?_eq_some_getLast ranked, found]
      · rw [size, shapeSize, shapeSize, Nat.mul_one]
        exact dvd_shapeSize (getLast?_eq_some_getLast ranked)
  have some_each : shapeSize rest ≠ 0 := by
    rintro zero
    rw [zero, Nat.zero_dvd, size] at divides
    exact positive divides
  obtain ⟨k, found, same⟩ := t.reshapeWith?_some some_each divides
  exact ⟨k, reshaped k found, same⟩

/-- What is stored for quantization `q`: the signs for `-1`, otherwise `q`-bit integers. -/
def Quantized (q x : Int) : Prop := if q = -1 then x = 1 ∨ x = -1 else InBits q.toNat x

/-- More bits are present than fit, exactly if a weight does not fit. -/
theorem requantize_eq (t : Tensor) :
    (t.data = #[] ∧ ∀ q, requantize q t = .error .value) ∨
      ∃ p : Int, t.data ≠ #[] ∧ (∀ n : Nat, p ≤ n + 1 ↔ ∀ x ∈ t.data, InBits (n + 1) x) ∧ ∀ q, requantize q t =
        if p > 8 then .error (.refused "ERROR: Weight file includes values larger than 8 bit!")
        else if q = -1 then .ok (t.map fun x => if x ≥ 0 then 1 else -1)
        else if p > q.natAbs then .ok (t.map fun x => down x (p - q.natAbs).toNat)
        else .ok t := by
  unfold requantize
  rw [t.maximum?_eq, t.minimum?_eq]
  by_cases empty : t.data = #[]
  · exact .inl ⟨empty, fun q => by rw [empty]; rfl⟩
  have listed : t.data.toList ≠ [] := by simpa using empty
  obtain ⟨hi, high⟩ := Option.isSome_iff_exists.mp (isSome_max?_of_ne_nil listed)
  obtain ⟨lo, low⟩ := Option.isSome_iff_exists.mp (isSome_min?_of_ne_nil listed)
  obtain ⟨most, above⟩ := max?_eq_some_iff.mp high
  obtain ⟨least, below⟩ := min?_eq_some_iff.mp low
  refine .inr ⟨max (bitsOf lo) (bitsOf hi), empty, fun n => ?_, fun q => ?_⟩
  · rw [Int.max_le, bitsOf_le_iff, bitsOf_le_iff]
    constructor
    · rintro ⟨left, right⟩ x member
      exact ⟨Int.le_trans left.1 (below x (by simpa using member)),
        Int.le_trans (above x (by simpa using member)) right.2⟩
    · intro all
      exact ⟨all lo (by simpa using least), all hi (by simpa using most)⟩
  · rw [high, low]
    by_cases wide : max (bitsOf lo) (bitsOf hi) > 8
    · simp only [wide, if_true]
      rfl
    · simp only [wide, if_false]
      rfl

theorem requantize_refused_iff (q : Int) :
    (requantize q t = .error .value ∨ ∃ m, requantize q t = .error (.refused m)) ↔
      t.data = #[] ∨ ∃ x ∈ t.data, ¬(-128 ≤ x ∧ x ≤ 127) := by
  rcases requantize_eq t with ⟨empty, failed⟩ | ⟨p, some_weights, present, result⟩
  · simp [empty, failed]
  · have eight : p ≤ 8 ↔ ∀ x ∈ t.data, -128 ≤ x ∧ x ≤ 127 := present 7
    rw [result, or_iff_right some_weights]
    by_cases wide : p > 8
    · rw [if_pos wide]
      have outside : ¬∀ x ∈ t.data, -128 ≤ x ∧ x ≤ 127 := fun all => absurd (eight.mpr all) (by omega)
      simpa using outside
    · rw [if_neg wide]
      have inside := eight.mp (by omega)
      constructor
      · intro failed
        repeat' split at failed
        all_goals simp at failed
      · rintro ⟨x, member, outside⟩
        exact absurd (inside x member) outside

theorem requantize_shape (run : requantize q t = .ok r) : r.shape = t.shape ∧ r.data ≠ #[] := by
  rcases requantize_eq t with ⟨_, failed⟩ | ⟨p, some_weights, _, result⟩
  · simp [failed] at run
  · rw [result] at run
    repeat' split at run
    all_goals cases run
    all_goals exact ⟨rfl, by simpa [Tensor.map] using some_weights⟩

theorem requantize_ok (target : q = -1 ∨ 1 ≤ q) (run : requantize q t = .ok r) :
    (∀ x ∈ r.data, Quantized q x) ∧ (q ≠ -1 → (∀ x ∈ t.data, Quantized q x) → r = t) := by
  rcases requantize_eq t with ⟨empty, failed⟩ | ⟨p, some_weights, present, result⟩
  · simp [failed] at run
  rw [result] at run
  split at run
  · simp at run
  split at run
  · rename_i signs
    cases run
    refine ⟨fun x member => ?_, fun other => absurd signs other⟩
    obtain ⟨y, _, rfl⟩ := Array.mem_map.mp member
    rw [Quantized, if_pos signs]
    split
    · exact .inl rfl
    · exact .inr rfl
  rename_i other
  obtain ⟨n, rfl⟩ : ∃ n : Nat, q = n + 1 := ⟨(q - 1).toNat, by omega⟩
  simp only [Quantized, if_neg other, show ((n : Int) + 1).toNat = n + 1 by omega] at *
  split at run
  · rename_i wide
    cases run
    refine ⟨fun x member => ?_, fun _ fits => ?_⟩
    · obtain ⟨y, own, rfl⟩ := Array.mem_map.mp member
      have bits : n + 1 + (p - ((n : Int) + 1).natAbs).toNat = (p - 1).toNat + 1 := by omega
      have all := (present (p - 1).toNat).mp (by omega) y own
      exact InBits.down (bits ▸ all)
    · have narrow := (present n).mpr fits
      omega
  · rename_i narrow
    cases run
    exact ⟨(present n).mp (by omega), fun _ _ => rfl⟩

end SampleWeights

theorem Dimensions.checkWeights_quantized {n : Layer} (kernel : n.kernel = some r) (target : q = -1 ∨ 1 ≤ q)
    (some_weights : r.data ≠ #[]) (quantized : ∀ x ∈ r.data, SampleWeights.Quantized q x) :
    checkWeights n q = pure () := by
  unfold checkWeights
  cases n.hasKernel with
  | false => rfl
  | true =>
    simp only [kernel, if_true, Checked.orFail, pure_bind, Tensor.minimum?_eq, Tensor.maximum?_eq]
    generalize made : (if q = -1 then r.map fun x => x.natAbs else r) = t
    have listed : t.data.toList ≠ [] := by
      rw [← made]
      split <;> simpa [Tensor.map] using some_weights
    obtain ⟨hi, high⟩ := Option.isSome_iff_exists.mp (isSome_max?_of_ne_nil listed)
    obtain ⟨lo, low⟩ := Option.isSome_iff_exists.mp (isSome_min?_of_ne_nil listed)
    have most : hi ∈ t.data := by simpa using (max?_eq_some_iff.mp high).1
    have least : lo ∈ t.data := by simpa using (min?_eq_some_iff.mp low).1
    simp only [high, low, pure_bind]
    by_cases signs : q = -1
    · rw [if_pos signs] at made
      have one : ∀ x ∈ t.data, x = 1 := by
        rw [← made]
        intro x member
        obtain ⟨y, own, rfl⟩ := Array.mem_map.mp member
        have sign := quantized y own
        rw [SampleWeights.Quantized, if_pos signs] at sign
        omega
      rw [one hi most, one lo least, if_pos signs]
      rfl
    · rw [if_neg signs] at made
      subst made
      have top := quantized hi most
      have bottom := quantized lo least
      rw [SampleWeights.Quantized, if_neg signs, InBits, up, Int.one_mul] at top bottom
      have places : q.toNat - 1 = (q - 1).toNat := by omega
      rw [places] at top bottom
      rw [if_neg signs, if_neg (show ¬q < 1 by omega)]
      simp only [Checked.require, ge_iff_le, bottom.1, top.2, decide_true, if_true, pure_bind]

namespace SampleWeights

theorem layerWeights_eq (l : WeightLayer) (t : Tensor) :
    (∃ e, requantize (l.quantization.getD 8) t = .error e ∧ layerWeights l t = .error e) ∨
      ∃ r, requantize (l.quantization.getD 8) t = .ok r ∧
        (layerWeights l t = .error .index ∨ ∃ w, layerWeights l t = .ok w ∧ w.kernels.data = r.data) := by
  unfold layerWeights
  cases made : requantize (l.quantization.getD 8) t with
  | error e => exact .inl ⟨e, rfl, rfl⟩
  | ok r =>
    refine .inr ⟨r, rfl, ?_⟩
    obtain ⟨_, some_weights⟩ := requantize_shape made
    simp only [bind, Except.bind]
    cases first : r.shape[0]? with
    | none => exact .inl rfl
    | some m =>
      cases second : r.shape[1]? with
      | none => exact .inl rfl
      | some n =>
        obtain ⟨k, kernels, same⟩ := kernelsOf_some some_weights (by rintro none; simp [none] at first)
        simp only [kernels]
        exact .inr ⟨_, rfl, same⟩

theorem weightsFor_ok {ls : List WeightLayer} {ts : List Tensor} {ws : List LayerWeights}
    (run : weightsFor ls ts = .ok ws)
    {i : Nat} (here : ws[i]? = some w) : ∃ l t, ls[i]? = some l ∧ ts[i]? = some t ∧ layerWeights l t = .ok w := by
  induction ls generalizing ts ws i with
  | nil =>
    cases run
    simp at here
  | cons l ls ih =>
    cases ts with
    | nil => cases run
    | cons t ts =>
      cases own : layerWeights l t with
      | error e => simp [weightsFor, own, bind, Except.bind] at run
      | ok w' =>
        cases others : weightsFor ls ts with
        | error e => simp [weightsFor, own, others, bind, Except.bind] at run
        | ok ws' =>
          simp only [weightsFor, own, others, bind, Except.bind, pure, Except.pure, Except.ok.injEq] at run
          subst run
          cases i with
          | zero =>
            rw [getElem?_cons_zero, Option.some.injEq] at here
            exact ⟨l, t, rfl, rfl, here ▸ own⟩
          | succ i => exact ih others here

theorem load_ok {dataset : String} {name : Option String} {layers : List WeightLayer} {set : WeightSet}
    {before after : Session}
    (run : (load dataset name layers).run before = .ok set after) :
    ∃ ts, (SampleData.stored (path dataset name)).run before = .ok ts before ∧
      weightsFor (chosen layers) (tensorsOf ts) = .ok set.weights := by
  obtain ⟨ts, middle, read, rest⟩ := bind_ok.mp run
  have same : middle = before := by
    simp only [SampleData.stored, bind_ok, get_ok, Run.lift_ok] at read
    obtain ⟨_, _, ⟨rfl, rfl⟩, content, _, ⟨_, rfl⟩, read⟩ := read
    cases content <;> exact (pure_ok.mp read).2.symm
  subst same
  obtain ⟨_, _, _, lifted⟩ := bind_ok.mp rest
  obtain ⟨assigned, _⟩ := Run.lift_ok.mp lifted
  have weights : (assign layers (tensorsOf ts) 0 layers).map (·.weights) = _ :=
    assign_weights (Nat.le_of_eq (Nat.zero_add layers.length)) (Nat.zero_le _)
  rw [assigned] at weights
  exact ⟨ts, read, weights.symm⟩

/-- Weights are stored in the range of their quantization, which the later check asks for, and those
that are in it stay as they are. Refused are tensors with a weight of more than eight bits, and those
without weights. -/
theorem loaded_weights_in_range {layers : List WeightLayer}
    (targets : ∀ l ∈ layers, l.quantization.getD 8 ∈ [-1, 1, 2, 4, 8])
    (dataset : String) (name : Option String) (before : Session) :
    (∀ l ∈ layers, ∀ t, layerWeights l t = .error .value ∨ (∃ m, layerWeights l t = .error (.refused m)) ↔
      t.data = #[] ∨ ∃ x ∈ t.data, ¬(-128 ≤ x ∧ x ≤ 127)) ∧
    ∀ set after, (load dataset name layers).run before = .ok set after →
      ∃ ts, (SampleData.stored (path dataset name)).run before = .ok ts before ∧
        ∀ (i : Nat) (w : LayerWeights), set.weights[i]? = some w →
          ∃ l t, (chosen layers)[i]? = some l ∧ (tensorsOf ts)[i]? = some t ∧
            (∀ x ∈ w.kernels.data, Quantized (l.quantization.getD 8) x) ∧
            (0 < l.quantization.getD 8 → (∀ x ∈ t.data, Quantized (l.quantization.getD 8) x) →
              w.kernels.data = t.data) ∧
            ∀ n : Layer, n.kernel = some w.kernels → Dimensions.checkWeights n (l.quantization.getD 8) = pure () := by
  constructor
  · intro l _ t
    rw [← requantize_refused_iff (l.quantization.getD 8)]
    rcases layerWeights_eq l t with ⟨e, failed, same⟩ | ⟨r, made, failed | ⟨w, loaded, _⟩⟩
    · simp [failed, same]
    · simp [made, failed]
    · simp [made, loaded]
  · intro set after run
    obtain ⟨ts, read, weights⟩ := load_ok run
    refine ⟨ts, read, fun i w here => ?_⟩
    obtain ⟨l, t, chosen, tensor, own⟩ := weightsFor_ok weights here
    have member : l ∈ layers := (mem_filter.mp (mem_of_mem_take (mem_of_getElem? chosen))).1
    have listed := targets l member
    have target : l.quantization.getD 8 = -1 ∨ 1 ≤ l.quantization.getD 8 := by
      simp only [mem_cons, not_mem_nil, or_false] at listed
      omega
    rcases layerWeights_eq l t with ⟨_, _, failed⟩ | ⟨r, made, failed | ⟨_, loaded, kernels⟩⟩
    · simp [failed] at own
    · simp [failed] at own
    rw [own, Except.ok.injEq] at loaded
    subst loaded
    obtain ⟨quantized, fixed⟩ := requantize_ok target made
    refine ⟨l, t, chosen, tensor, kernels ▸ quantized, fun positive inside => ?_, fun n kernel => ?_⟩
    · rw [kernels, fixed (by omega) inside]
    · exact Dimensions.checkWeights_quantized kernel target (kernels ▸ (requantize_shape made).2) (kernels ▸ quantized)

def wideTensors : List Tensor := [.full [1, 1, 1, 1] 5, .ofFn [1, 1, 1, 2] fun k => 100 * k - 128, .full [1, 1, 1, 1] 7]

theorem loaded_weights_of_four_bits :
    ∃ set after, (load "t" none (Network.convolutionWeights 3)).run (Network.withWeights wideTensors) = .ok set after ∧
      set.weights.map (·.kernels.data) = [#[5], #[-8, -2], #[7]] ∧
      ∀ (i : Nat) (w : LayerWeights), set.weights[i]? = some w →
        ∃ l, (chosen (Network.convolutionWeights 3))[i]? = some l ∧
          (∀ x ∈ w.kernels.data, Quantized (l.quantization.getD 8) x) := by
  obtain ⟨printed, loaded⟩ := Network.load_run (Network.convolutionWeights 3) (show 2 ≤ wideTensors.length by decide)
    (Network.withWeights_read wideTensors)
  have data : (assign (Network.convolutionWeights 3) wideTensors 0 (Network.convolutionWeights 3)).toOption.map
      (·.weights.map (·.kernels.data)) = some [#[5], #[-8, -2], #[7]] := by decide +kernel
  obtain ⟨set, found, kernels⟩ := Option.map_eq_some_iff.mp data
  have run : (load "t" none (Network.convolutionWeights 3)).run (Network.withWeights wideTensors) =
      .ok set printed := by
    rw [loaded]
    cases assigned : assign (Network.convolutionWeights 3) wideTensors 0 (Network.convolutionWeights 3) with
    | error e => simp [assigned, Except.toOption] at found
    | ok set' => simpa [assigned, Except.toOption, Run.lift] using found
  have targets : ∀ l ∈ Network.convolutionWeights 3, l.quantization.getD 8 ∈ [-1, 1, 2, 4, 8] := by decide
  obtain ⟨_, _, each⟩ := (loaded_weights_in_range targets "t" none (Network.withWeights wideTensors)).2 set printed run
  refine ⟨set, printed, run, kernels, fun i w here => ?_⟩
  obtain ⟨l, _, chosen, _, quantized, _⟩ := each i w here
  exact ⟨l, chosen, quantized⟩

/-- A tensor without weights has none outside of the range, and is refused. -/
theorem empty_weights_refused :
    (∀ x ∈ (Tensor.full [0, 1, 1, 1] 0).data, -128 ≤ x ∧ x ≤ 127) ∧
      layerWeights { operator := .conv2d } (Tensor.full [0, 1, 1, 1] 0) = .error .value :=
  ⟨by decide, rfl⟩

end SampleWeights

end CnnForge
