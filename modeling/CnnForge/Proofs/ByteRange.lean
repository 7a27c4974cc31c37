import CnnForge.Accelerator.Inference
import CnnForge.Proofs.Endings
import CnnForge.Proofs.Tensors

namespace CnnForge

attribute [local instance (2000)] Zero.ofOfNat0

open Outcome List Gives Ends IsByte

variable {t data : Tensor} {xs : List Int} {kind : PoolKind} {v x : Int}

namespace Compute

theorem maximum?_mem {m : Int} (found : maximum? xs = some m) : m ∈ xs := by
  cases xs with
  | nil => cases found
  | cons x xs =>
    obtain rfl := Option.some.inj found
    have member : ∀ (ys : List Int) (start : Int), ys.foldl max start ∈ start :: ys := by
      intro ys
      induction ys with
      | nil => simp
      | cons y ys ih =>
        intro start
        rcases mem_cons.mp (ih (max start y)) with same | later
        · rw [foldl_cons, same]
          rcases Int.le_total start y with le | le
          · simp [Int.max_eq_right le]
          · simp [Int.max_eq_left le]
        · exact mem_cons_of_mem _ (mem_cons_of_mem _ later)
    exact member xs x

theorem sum_bytes (bytes : ∀ x ∈ xs, IsByte x) : -128 * (xs.length : Int) ≤ xs.sum ∧ xs.sum ≤ 127 * xs.length := by
  induction xs with
  | nil => simp
  | cons x xs ih =>
    obtain ⟨low, high⟩ := bytes x (by simp)
    have rest := ih fun y member => bytes y (by simp [member])
    simp only [sum_cons, length_cons]
    omega

section

variable {a : Int} {n : Nat} (some_values : 0 < n) (low : -128 * (n : Int) ≤ a) (high : a ≤ 127 * n)
include some_values low high

theorem roundHalfEven_byte : IsByte (roundHalfEven a n) := by
  have positive : (0 : Int) < n := by omega
  have quotient : a.fdiv n = a / n := Int.fdiv_eq_ediv_of_nonneg a (by omega)
  have lower : -128 ≤ a / n := Int.le_ediv_of_mul_le positive low
  have upper : a / n ≤ 127 := Int.ediv_le_of_le_mul positive high
  -- The average is rounded up only if it is below the upper limit.
  have next : 2 * a.fmod n ≥ n → a / n ≤ 126 := by
    intro half
    rw [Int.fmod_eq_emod_of_nonneg a (by omega)] at half
    have split := Int.emod_add_mul_ediv a n
    rcases Int.lt_or_le (a / n) 127 with below | top
    · omega
    · have scaled : (n : Int) * 127 ≤ n * (a / n) := Int.mul_le_mul_of_nonneg_left top (by omega)
      omega
  simp only [roundHalfEven, IsByte]
  split
  · omega
  · split
    · omega
    · split <;> omega

theorem tdiv_byte : IsByte (a.tdiv n) := by
  have positive : (0 : Int) < n := by omega
  rcases Int.le_total 0 a with natural | negative
  · have upper : a / n ≤ 127 := Int.ediv_le_of_le_mul positive high
    have lower : 0 ≤ a / n := Int.ediv_nonneg natural (by omega)
    rw [Int.tdiv_eq_ediv_of_nonneg natural]
    exact ⟨by omega, upper⟩
  · have upper : -a / n ≤ 128 := Int.ediv_le_of_le_mul positive (by omega)
    have lower : 0 ≤ -a / n := Int.ediv_nonneg (by omega) (by omega)
    have mirrored : a.tdiv n = -(-a / n) := by
      rw [← Int.tdiv_eq_ediv_of_nonneg (by omega : 0 ≤ -a), Int.neg_tdiv, Int.neg_neg]
    exact ⟨by omega, by omega⟩

end

theorem poolWindow_byte (bytes : ∀ x ∈ xs, IsByte x) (pooled : poolWindow kind xs = some v) : IsByte v := by
  cases kind with
  | maximum => exact bytes v (maximum?_mem pooled)
  | average rounded =>
    obtain ⟨low, high⟩ := sum_bytes bytes
    cases xs with
    | nil => simp [poolWindow] at pooled
    | cons x xs =>
      simp only [poolWindow, isEmpty_cons, Bool.false_eq_true, if_false] at pooled
      split at pooled
      · cases pooled
        exact roundHalfEven_byte (by simp) low high
      · cases pooled
        exact tdiv_byte (by simp) low high

theorem clampByte_byte (x : Int) : IsByte (clampByte x) := by
  simp only [clampByte, IsByte]
  omega

theorem poolWindowDirect_byte (bytes : ∀ x ∈ xs, IsByte x) (pooled : poolWindowDirect kind xs = some v) : IsByte v := by
  cases kind with
  | maximum => exact bytes v (maximum?_mem pooled)
  | average rounded =>
    simp only [poolWindowDirect] at pooled
    split at pooled
    · cases pooled
      simp [IsByte]
    · split at pooled <;> cases pooled <;> exact clampByte_byte _

theorem windowAt_bytes (all : t.All IsByte) (s : PoolSettings) (c y x : Nat) :
    Yields (fun _ => True) (fun xs => ∀ v ∈ xs, IsByte v) (windowAt t s c y x) := by
  refine (Yields.mapM (E := fun _ => True) (Q := IsByte) _ fun place _ => ?_).mono (fun _ => id) fun xs bytes => bytes.2
  split
  · exact all.flat zero _
  · trivial

theorem poolStrided_bytes (all : t.All IsByte) (s : PoolSettings) :
    Yields (fun _ => True) (Tensor.All IsByte) (poolStrided s t) := by
  unfold poolStrided
  refine .bind (.any _) fun shape _ => ?_
  refine .bind (.mapM (Q := IsByte) _ fun k _ => ?_) fun values bytes => ?_
  · refine .bind (windowAt_bytes all s _ _ _) fun window bytes => .pure ?_
    cases pooled : poolWindow s.kind window with
    | none => exact .zero
    | some v => exact poolWindow_byte bytes pooled
  · exact .pure (Tensor.all_ofFn fun k =>
      Tensor.All.getD (fun x member => bytes.2 x (mem_toArray.mp member)) zero k)

theorem pool1d_bytes (all : t.All IsByte) (inputSize outputSize : List Int) (pool stride dilation : Int)
    (average : Bool) :
    Yields (fun _ => True) (Tensor.All IsByte) (pool1d t inputSize outputSize pool stride dilation average) := by
  unfold pool1d
  refine .guard (fun _ => .throw trivial) fun _ _ => ?_
  refine .guard (fun _ => .throw trivial) fun _ _ => ?_
  refine .guard (fun _ => .throw trivial) fun _ _ => ?_
  refine .guard (fun _ => .throw trivial) fun _ _ => ?_
  refine .bind (.mapM (Q := IsByte) _ fun k _ => ?_) fun values bytes => ?_
  · extract_lets start window
    have inside : ∀ step, ∀ x ∈ window step, IsByte x := by
      intro step x member
      obtain ⟨p, _, rfl⟩ := mem_map.mp member
      exact all.flat zero _
    cases pooled : poolWindowDirect (if average then .average false else .maximum)
        (window (if average then dilation else 1)) with
    | none => trivial
    | some v => exact poolWindowDirect_byte (inside _) pooled
  · exact .pure (Tensor.all_ofFn fun k =>
      Tensor.All.getD (fun x member => bytes.2 x (mem_toArray.mp member)) zero k)

theorem poolStrided_shape {s : PoolSettings} {out : Tensor} (strided : poolStrided s t = .ok out) :
    pooledShape s t = .ok out.shape := by
  have shaped : Yields (fun _ => True) (fun out => pooledShape s t = .ok out.shape) (poolStrided s t) := by
    unfold poolStrided
    cases found : pooledShape s t with
    | error e => trivial
    | ok shape => exact .bind_eq rfl (.bind (.any _) fun values _ => .pure rfl)
  rwa [strided] at shaped

theorem pool2d_gives (s : PoolSettings) (t : Tensor) (inputSize size : List Int) :
    Gives (fun out => poolStrided s t = .ok out ∧ out.sizes = size) (pool2d s t inputSize size) := by
  unfold pool2d
  refine guard fun _ => rest fun o => ?_
  extract_lets debug pool compare
  have compared : ∀ reference, Gives (fun out => poolStrided s t = .ok out ∧ out.sizes = size) (compare reference) := by
    intro reference
    refine bind (Run.gives_lift _) fun shape shaped => ?_
    extract_lets finish
    have finished : ∀ r, Gives (fun out => poolStrided s t = .ok out ∧ out.sizes = size) (finish r) := by
      intro r
      refine guard fun sized => (Run.gives_lift _).mono fun out strided => ⟨strided, ?_⟩
      rw [poolStrided_shape strided] at shaped
      cases shaped
      simpa [Tensor.sizes] using sized
    split
    · exact guard fun _ => rest fun pooled => optional finished
    · exact finished ⟨⟩
  exact ite (fun _ => rest compared) fun _ => rest compared

theorem pool2d_bytes (all : t.All IsByte) (s : PoolSettings) (inputSize outputSize : List Int) :
    Gives (Tensor.All IsByte) (pool2d s t inputSize outputSize) := by
  refine (pool2d_gives s t inputSize outputSize).mono fun out ⟨strided, _⟩ => ?_
  have bytes := poolStrided_bytes all s
  rwa [strided] at bytes

end Compute

namespace Simulator

def lowest : Option Activation → Int
  | some .relu | some .abs => 0
  | _ => -128

def InRange (a : Option Activation) (x : Int) : Prop := lowest a ≤ x ∧ x ≤ 127

theorem InRange.byte {a : Option Activation} (range : InRange a x) : IsByte x := by
  obtain ⟨low, high⟩ := range
  refine ⟨?_, high⟩
  unfold lowest at low
  split at low <;> omega

theorem saturate_byte (x : Int) : IsByte (saturate 8 x) := by
  simp only [saturate, maxSigned, IsByte]
  omega

theorem activate_range (a : Activation) (byte : IsByte x) : InRange (some a) (activate 8 a x) := by
  cases a with
  | relu =>
    simp only [activate, maxSigned, InRange, lowest]
    omega
  | abs =>
    simp only [activate, maxSigned, InRange, lowest]
    omega
  | unknown code => exact byte

theorem poolOperand_bytes (all : data.All IsByte) (s : PoolingSettings) (size : List Int) (i : Nat) :
    Gives (Tensor.All IsByte) (poolOperand s size data i) := by
  unfold poolOperand
  refine rest fun o => ?_
  refine guard fun _ => ?_
  refine rest fun _ => ?_
  refine bind (Compute.pool2d_bytes (all.part zero i) _ _ _) fun pooled bytes => ?_
  refine optional fun _ => ?_
  refine rest fun _ => ?_
  exact pure bytes

theorem stackOperands_bytes {ts : List Tensor} (all : ∀ t ∈ ts, t.All IsByte) (shape : List Nat) :
    Yields (fun _ => True) (Tensor.All IsByte) (stackOperands shape ts) := by
  unfold stackOperands
  split
  · rename_i t stacked
    exact Tensor.All.ofArray? (Tensor.All.joined all (by simp)) stacked
  · trivial

section

variable (all : data.All IsByte) (s : PoolingSettings)
include all s

theorem pool2dOperands_bytes (size : List Int) :
    Gives (Tensor.All IsByte) (pool2dOperands s size data) := by
  unfold pool2dOperands
  refine guard fun _ => ?_
  refine bind (mapM _ fun i _ => poolOperand_bytes all s size i) fun parts bytes => ?_
  refine rest fun _ => ?_
  exact Run.ends_lift (stackOperands_bytes bytes.2 _)

theorem pool1dOperand_bytes (size : List Int) :
    Gives (Tensor.All IsByte) (pool1dOperand s size data) := by
  unfold pool1dOperand
  refine rest fun o => ?_
  refine guard fun _ => ?_
  refine bind (Run.ends_lift (Compute.pool1d_bytes (all.part zero 0) _ _ _ _ _ _)) fun pooled bytes => ?_
  extract_lets finish close shown
  have finished : ∀ r, Gives (Tensor.All IsByte) (finish r) := by
    intro r
    refine rest fun _ => ?_
    exact Run.ends_orFail (fun u shaped => bytes.reshape? shaped) fun _ => trivial
  have closed : ∀ r, Gives (Tensor.All IsByte) (close r) := fun r => rest fun r => finished r
  refine ite (fun _ => ?_) fun _ => finished ⟨⟩
  refine rest fun _ => ?_
  refine optional fun _ => ?_
  refine rest fun _ => ?_
  exact optional_two closed

theorem strideOnly_bytes (size : List Int) :
    Gives (Tensor.All IsByte) (strideOnly s size data) := by
  unfold strideOnly
  refine rest fun o => ?_
  extract_lets one pooled finish close
  have bytes : pooled.All IsByte := by
    unfold pooled
    split
    · exact all.stride3 zero _
    · exact all.stride4 zero _ _
  have finished : ∀ r, Gives (Tensor.All IsByte) (finish r) := fun r => pure bytes
  have closed : ∀ r, Gives (Tensor.All IsByte) (close r) := fun r => rest fun r => finished r
  refine ite (fun _ => ?_) fun _ => finished ⟨⟩
  refine rest fun _ => ?_
  refine rest fun _ => ?_
  exact optional_two closed

theorem poolingLayer_bytes :
    Gives (fun result => result.1.All IsByte) (poolingLayer s data) := by
  unfold poolingLayer
  refine rest fun size => ?_
  extract_lets finish
  have finished : ∀ pooled : Tensor, pooled.All IsByte → Gives (fun result => result.1.All IsByte) (finish pooled) :=
    fun pooled bytes => pure bytes
  refine ite (fun _ => ?_) fun _ => bind (strideOnly_bytes all s size) finished
  exact .ite (fun _ => .bind (pool1dOperand_bytes all s size) finished)
    fun _ => .bind (pool2dOperands_bytes all s size) finished

end

theorem finishOutput_range {s : LayerSettings} (bits : s.bits = 8) (narrow : s.outputWidth = 8) (size : List Int)
    (maccs : Int) (show_ : Tensor → Run Unit) (full : Tensor) :
    Gives (Tensor.All (InRange s.activation)) (finishOutput s size maccs show_ full) := by
  unfold finishOutput
  refine rest fun o => ?_
  extract_lets listed title scaled finish activated note counted
  have bytes : scaled.All IsByte := by
    have width : s.outputWidth ≠ 32 := by omega
    simp only [scaled, width, if_false, bits]
    exact Tensor.all_map fun x _ => saturate_byte _
  have finished : ∀ out : Tensor, out.All (InRange s.activation) →
      Gives (Tensor.All (InRange s.activation)) (finish out) :=
    fun out range => optional fun _ => pure range
  have activates : ∀ r, Gives (Tensor.All (InRange s.activation)) (activated r) := by
    intro r
    unfold activated
    split
    · rename_i chosen
      rw [chosen] at finished ⊢
      exact bind (pure bytes) finished
    · rename_i a chosen
      rw [chosen] at finished ⊢
      have range : (scaled.map (activate s.bits a)).All (InRange (some a)) := by
        rw [bits]
        exact Tensor.all_map fun x member => activate_range a (bytes x member)
      refine optional_two fun _ => ?_
      exact rest fun _ => bind (pure range) finished
  refine optional_two fun _ => ?_
  refine rest fun _ => ?_
  exact optional_two activates

section

variable {s : LayerSettings} (bits : s.bits = 8) (narrow : s.outputWidth = 8)
include bits narrow

theorem conv2dLayer_range (kernelSize padding dilation stride : Pair) (kernel : Tensor)
    (bias : Option (Array Int)) (data : Tensor) :
    Gives (fun result => result.1.All (InRange s.activation))
      (conv2dLayer s kernelSize padding dilation stride kernel bias data) := by
  unfold conv2dLayer
  refine rest fun _ => rest fun h => rest fun w => ?_
  refine rest fun bias => rest fun full => ?_
  refine rest fun maccs => ?_
  exact bind (finishOutput_range bits narrow _ _ _ full) fun out range => pure range

theorem convTranspose2dLayer_range (kernelSize padding dilation fractional outputPad : Pair) (kernel : Tensor)
    (bias : Option (Array Int)) (data : Tensor) :
    Gives (fun result => result.1.All (InRange s.activation))
      (convTranspose2dLayer s kernelSize padding dilation fractional outputPad kernel bias data) := by
  unfold convTranspose2dLayer
  refine rest fun _ => rest fun bias => ?_
  refine rest fun full => rest fun maccs => ?_
  exact bind (finishOutput_range bits narrow _ _ _ full) fun out range => pure range

theorem conv1dLayer_range (kernelSize padding dilation stride : Int) (kernel : Tensor)
    (bias : Option (Array Int)) (data : Tensor) :
    Gives (fun result => result.1.All (InRange s.activation))
      (conv1dLayer s kernelSize padding dilation stride kernel bias data) := by
  unfold conv1dLayer
  refine rest fun _ => rest fun n => ?_
  refine rest fun bias => rest fun full => ?_
  refine bind (finishOutput_range bits narrow _ _ _ full) fun out range => ?_
  split
  · rename_i shaped done
    exact pure (range.reshape? done)
  · exact throw trivial

end

theorem elementwiseLayer_bytes (op : Elementwise) (layer : Int) (inputSize : List Int) (outputShift : Int)
    (operands : List Tensor) : Gives (Tensor.All IsByte) (elementwiseLayer op layer inputSize outputShift operands 8) := by
  unfold elementwiseLayer
  refine rest fun o => ?_
  refine optional fun _ => ?_
  refine rest fun result => ?_
  extract_lets out finish named closed counted listed
  have bytes : out.All IsByte := by
    have width : (8 : Int) ≠ 32 := by decide
    simp only [out, width, if_false]
    split <;> exact Tensor.all_map fun x _ => saturate_byte _
  have finishes : ∀ r, Gives (Tensor.All IsByte) (finish r) := fun r => pure bytes
  have closes : ∀ r, Gives (Tensor.All IsByte) (closed r) := by
    intro r
    refine ite (fun _ => ?_) fun _ => finishes ⟨⟩
    refine guard fun _ => ?_
    exact rest fun r => finishes r
  have counts : ∀ r, Gives (Tensor.All IsByte) (counted r) := fun r =>
    optional_two closes
  have lists : ∀ r, Gives (Tensor.All IsByte) (listed r) := by
    intro r
    unfold listed
    split
    · exact rest fun r => counts r
    · exact counts ⟨⟩
  refine guard fun _ => ?_
  exact optional_two lists

end Simulator

namespace Accelerator

theorem combineOperands_bytes (i : Nat) {l : PlannedLayer} (narrow : l.outputWidth = 8) (t : Tensor) :
    Gives (Tensor.All IsByte) (combineOperands i l t) := by
  unfold combineOperands
  rw [narrow, ite_self]
  refine .bind (Simulator.elementwiseLayer_bytes _ _ _ _ _) fun c bytes => ?_
  exact guard fun _ => .pure bytes

theorem operandsOf_bytes (all : t.All IsByte) (interleaved : Bool) (count : Int) :
    Yields (fun _ => True) (Tensor.All IsByte) (Network.operandsOf interleaved count t) := by
  unfold Network.operandsOf
  extract_lets parts
  have bytes : ∀ u, parts = some u → u.All IsByte := by
    intro u found
    simp only [parts] at found
    split at found
    · split at found
      · exact all.splitColumns? zero found
      · exact all.splitChannels? found
    · exact all.reshape? found
  cases found : parts with
  | none => trivial
  | some u => exact bytes u found

section

variable {l : PlannedLayer} (narrow : l.outputWidth = 8) {t : Tensor} (all : t.All IsByte)
include all

theorem splitInput_bytes (p : Plan) (i : Nat) : Gives (Tensor.All IsByte) (splitInput p i l t) := by
  unfold splitInput
  refine rest fun o => ?_
  refine bind (Run.ends_lift (operandsOf_bytes all _ _)) fun operands bytes => ?_
  refine rest fun _ => pure ?_
  split
  · exact bytes.selectChannels zero _ _
  · exact bytes

theorem shapeInput_bytes : Gives (Tensor.All IsByte) (shapeInput l t) := by
  unfold shapeInput
  refine optional fun _ => ?_
  refine guard fun _ => ?_
  exact Run.ends_orFail (fun u shaped => all.reshapeWith? shaped) fun _ => trivial

theorem poolInput_bytes (logFolder : String) (i : Nat) : Gives (Tensor.All IsByte) (poolInput logFolder i l t) := by
  unfold poolInput
  refine rest fun o => ?_
  refine bind (Simulator.poolingLayer_bytes all _) fun pooled bytes => ?_
  exact optional fun _ => pure bytes

include narrow

theorem combineBefore_bytes (i : Nat) : Gives (Tensor.All IsByte) (combineBefore i l t) := by
  unfold combineBefore
  refine .ite (fun _ => ?_) fun _ => .pure all
  refine .bind (combineOperands_bytes i narrow t) fun c bytes => ?_
  exact Run.ends_orFail (fun u shaped => bytes.reshape? shaped) fun _ => trivial

theorem combineAfter_bytes (i : Nat) : Gives (Tensor.All IsByte) (combineAfter i l t) := by
  unfold combineAfter
  refine .ite (fun _ => combineOperands_bytes i narrow t) fun _ => ?_
  exact Run.ends_orFail (fun u shaped => all.reshape? shaped) fun _ => trivial

theorem prepareInput_bytes (p : Plan) (logFolder : String) (i : Nat) :
    Gives (Tensor.All IsByte) (prepareInput p logFolder i l t) := by
  unfold prepareInput
  refine .bind (splitInput_bytes all p i) fun parts bytes => ?_
  refine .bind (combineBefore_bytes narrow bytes i) fun combined bytes => ?_
  refine .bind (shapeInput_bytes bytes) fun shaped bytes => ?_
  refine .bind (poolInput_bytes bytes logFolder i) fun pooled bytes => ?_
  exact combineAfter_bytes narrow bytes i

theorem applyOperator_range (i : Nat) (plain : l.operator = .passthrough → l.activation = none) :
    Gives (fun result => result.1.All (Simulator.InRange l.activation)) (applyOperator i l t) := by
  unfold applyOperator
  extract_lets bias settings
  split
  · refine rest fun input => rest fun kernel => ?_
    exact Simulator.conv2dLayer_range (s := settings input.1) rfl narrow _ _ _ _ _ _ _
  · refine rest fun input => rest fun kernel => ?_
    exact Simulator.conv2dLayer_range (s := settings input.1) rfl narrow _ _ _ _ _ _ _
  · refine rest fun kernel => ?_
    exact Simulator.convTranspose2dLayer_range (s := settings t) rfl narrow _ _ _ _ _ _ _ _
  · refine rest fun kernel => ?_
    exact Simulator.conv1dLayer_range (s := settings t) rfl narrow _ _ _ _ _ _ _
  · rename_i operator
    rw [plain operator]
    exact pure all
  · exact rest fun _ => throw trivial

theorem computeLayer_range (p : Plan) (logFolder : String) (i : Nat)
    (plain : l.operator = .passthrough → l.activation = none) :
    Gives (fun result => result.1.All (Simulator.InRange l.activation)) (computeLayer p logFolder i l t) := by
  unfold computeLayer
  refine bind (prepareInput_bytes narrow all p logFolder i) fun input bytes => ?_
  refine bind (applyOperator_range narrow bytes i plain) fun result range => ?_
  exact rest fun _ => pure range

end

end Accelerator

end CnnForge
