import CnnForge.Network.Assemble
import CnnForge.Proofs.Outcome

namespace CnnForge

open List Outcome

variable {layers ls rest : List WeightLayer} {ts : List Tensor} {k : Nat}

def WeightLayer.computes (l : WeightLayer) : Bool := l.operator != .passthrough

def WeightLayer.hasWeights (l : WeightLayer) : Bool := l.computes && !l.bypass

namespace SampleWeights

/-- The layers that are given tensors, in order: those that compute, up to as many as there are layers
before the first one that is bypassed. -/
def chosen (layers : List WeightLayer) : List WeightLayer :=
  (layers.filter (·.computes)).take (layers.findIdx (·.bypass))

def kernelOf (l : WeightLayer) (t : Tensor) : Except Failure Tensor := (layerWeights l t).map (·.kernels)

def weightsFor : List WeightLayer → List Tensor → Except Failure (List LayerWeights)
  | [], _ => .ok []
  | _ :: _, [] => .error .index
  | l :: ls, t :: ts => do return (← layerWeights l t) :: (← weightsFor ls ts)

theorem skips_eq (l : WeightLayer) (inside : k < layers.length) (below : k ≤ layers.findIdx (·.bypass)) :
    skips layers k l = .ok (!l.computes || decide (layers.findIdx (·.bypass) = k)) := by
  have flag : layers[k].bypass = decide (layers.findIdx (·.bypass) = k) := by
    rcases Nat.lt_or_eq_of_le below with less | same
    · rw [decide_eq_false (by omega)]
      simpa using not_of_lt_findIdx less
    · rw [decide_eq_true same.symm]
      subst same
      exact findIdx_getElem
  rw [skips, getElem?_eq_getElem inside, WeightLayer.computes]
  cases same : l.operator == .passthrough <;> simp [bne, same, flag]

theorem assign_skip {l : WeightLayer} (skip : skips layers k l = .ok true) :
    (assign layers ts k (l :: rest)).map (·.weights) = (assign layers ts k rest).map (·.weights) := by
  rw [assign, skip]
  cases assign layers ts k rest <;> rfl

theorem assign_take {l : WeightLayer} (own : skips layers k l = .ok false) {chosen : List WeightLayer}
    (next : (assign layers ts (k + 1) rest).map (·.weights) = weightsFor chosen (ts.drop (k + 1))) :
    (assign layers ts k (l :: rest)).map (·.weights) = weightsFor (l :: chosen) (ts.drop k) := by
  rw [assign, own]
  by_cases inside : k < ts.length
  · rw [getElem?_eq_getElem inside, drop_eq_getElem_cons inside, weightsFor, ← next]
    simp only [bind, Except.bind]
    cases layerWeights l ts[k] with
    | error e => rfl
    | ok w => cases assign layers ts (k + 1) rest <;> rfl
  · rw [getElem?_eq_none (by omega), drop_eq_nil_of_le (by omega)]
    rfl

theorem assign_weights (bound : k + rest.length ≤ layers.length) (below : k ≤ layers.findIdx (·.bypass)) :
    (assign layers ts k rest).map (·.weights) =
      weightsFor ((rest.filter (·.computes)).take (layers.findIdx (·.bypass) - k)) (ts.drop k) := by
  induction rest generalizing k with
  | nil => simp [assign, weightsFor, Except.map]
  | cons l rest ih =>
    rw [length_cons] at bound
    have skip := skips_eq l (by omega) below
    cases computes : l.computes with
    | false =>
      rw [filter_cons_of_neg (by simp [computes]), assign_skip (by simp [skip, computes])]
      exact ih (by omega) below
    | true =>
      rw [filter_cons_of_pos computes]
      rcases Nat.lt_or_eq_of_le below with less | same
      · have next := ih (k := k + 1) (by omega) less
        have more : layers.findIdx (·.bypass) - k = layers.findIdx (·.bypass) - (k + 1) + 1 := by omega
        rw [more, take_succ_cons]
        exact assign_take (by simp [skip, computes, Nat.ne_of_gt less]) next
      · rw [assign_skip (by simp [skip, ← same]), ih (by omega) below, ← same, Nat.sub_self, take_zero, take_zero]

theorem weightsFor_short (short : ts.length < ls.length) : ∃ e, weightsFor ls ts = .error e := by
  induction ls generalizing ts with
  | nil => simp at short
  | cons l ls ih =>
    cases ts with
    | nil => exact ⟨_, rfl⟩
    | cons t ts =>
      obtain ⟨e, failed⟩ := ih (by simpa using short)
      rw [weightsFor, failed]
      cases layerWeights l t with
      | error e' => exact ⟨e', rfl⟩
      | ok w => exact ⟨e, rfl⟩

theorem weightsFor_valid (enough : ls.length ≤ ts.length)
    (valid : ∀ t ∈ ts, ∀ l ∈ ls, ∃ w, layerWeights l t = .ok w) :
    ∃ ws, weightsFor ls ts = .ok ws ∧ (ws.map (·.kernels)).map .ok = zipWith kernelOf ls ts := by
  induction ls generalizing ts with
  | nil => exact ⟨[], rfl, rfl⟩
  | cons l ls ih =>
    cases ts with
    | nil => simp at enough
    | cons t ts =>
      obtain ⟨w, own⟩ := valid t (by simp) l (by simp)
      have left : ls.length ≤ ts.length := by simpa using enough
      obtain ⟨ws, found, kernels⟩ := ih left
        fun t member l member' => valid t (mem_cons_of_mem _ member) l (mem_cons_of_mem _ member')
      refine ⟨w :: ws, by rw [weightsFor, own, found]; rfl, ?_⟩
      rw [zipWith_cons_cons, ← kernels, kernelOf, own]
      rfl

end SampleWeights

namespace Network

variable {α : Type} {flags : List Bool} {ks done : List α}

def fillGaps : List Bool → List α → List (Option α)
  | true :: flags, ks => none :: fillGaps flags ks
  | false :: flags, k :: ks => some k :: fillGaps flags ks
  | _, _ => []

def insertGaps (flags : List Bool) (p : Nat) (xs : List (Option α)) : List (Option α) :=
  (flags.zipIdx p).foldl (fun xs (flag, i) => if flag then insertAt xs i none else xs) xs

theorem length_insertGaps (flags : List Bool) (p : Nat) (xs : List (Option α)) :
    (insertGaps flags p xs).length = xs.length + flags.count true := by
  induction flags generalizing p xs with
  | nil => rfl
  | cons flag flags ih =>
    rw [insertGaps, zipIdx_cons, foldl_cons, ← insertGaps, ih]
    cases flag
    · simp
    · simp only [if_true, insertAt, length_append, length_take, length_cons, length_drop, count_cons_self]
      omega

theorem insertGaps_eq (fits : ks.length = flags.count false) (done : List (Option α)) :
    insertGaps flags done.length (done ++ ks.map some) = done ++ fillGaps flags ks := by
  induction flags generalizing done ks with
  | nil =>
    rw [length_eq_zero_iff.mp fits]
    rfl
  | cons flag flags ih =>
    rw [insertGaps, zipIdx_cons, foldl_cons, ← insertGaps]
    cases flag with
    | true =>
      have left : ks.length = flags.count false := by simpa using fits
      have step := ih left (done ++ [none])
      simpa [insertAt, fillGaps] using step
    | false =>
      obtain ⟨k, ks, rfl⟩ := exists_cons_of_length_eq_add_one (fits.trans count_cons_self)
      have left : ks.length = flags.count false := by simpa using fits
      have step := ih left (done ++ [some k])
      simpa [fillGaps] using step

theorem fillGaps_spec (fits : ks.length = flags.count false) :
    (fillGaps flags ks).map Option.isNone = flags ∧ (fillGaps flags ks).filterMap id = ks := by
  induction flags generalizing ks with
  | nil => simpa [fillGaps, eq_comm] using fits
  | cons flag flags ih =>
    cases flag with
    | true =>
      have left : ks.length = flags.count false := by simpa using fits
      simpa [fillGaps] using ih left
    | false =>
      obtain ⟨k, ks, rfl⟩ := exists_cons_of_length_eq_add_one (fits.trans count_cons_self)
      have left : ks.length = flags.count false := by simpa using fits
      simpa [fillGaps] using ih left

theorem insertGaps_none (none : flags.count true = 0) (p : Nat) (xs : List (Option α)) :
    insertGaps flags p xs = xs := by
  induction flags generalizing p with
  | nil => rfl
  | cons flag flags ih =>
    cases flag
    · exact ih (by simpa using none) (p + 1)
    · simp at none

def isEmpty (c : LayerConfig) : Bool := c.operator == .passthrough || c.bypass

theorem insertEmpty_kernels (configs : List LayerConfig) (w : Weights) :
    (insertEmpty configs w).kernels = insertGaps (configs.map isEmpty) 0 w.kernels := by
  rw [insertEmpty]
  generalize 0 = p
  induction configs generalizing p w with
  | nil => rfl
  | cons c configs ih =>
    rw [map_cons, insertGaps, zipIdx_cons, zipIdx_cons, foldl_cons, foldl_cons, ← insertGaps, ih]
    cases empty : c.operator == .passthrough || c.bypass <;> simp [isEmpty, empty]

theorem isEmpty_of_weightLayer {c : LayerConfig} {l : WeightLayer} (read : Layer.weightLayer c = .ok l) :
    isEmpty c = !l.hasWeights := by
  simp only [Layer.weightLayer, bind, Except.bind] at read
  repeat' split at read
  all_goals cases read
  simp [isEmpty, WeightLayer.hasWeights, WeightLayer.computes, bne]

theorem map_isEmpty {configs : List LayerConfig} (read : configs.mapM Layer.weightLayer = .ok ls) :
    configs.map isEmpty = ls.map (!·.hasWeights) := by
  induction configs generalizing ls with
  | nil =>
    cases read
    rfl
  | cons c configs ih =>
    rw [mapM_cons] at read
    cases own : Layer.weightLayer c with
    | error e => simp [own, bind, Except.bind] at read
    | ok l =>
      cases others : configs.mapM Layer.weightLayer with
      | error e => simp [own, others, bind, Except.bind] at read
      | ok ls' =>
        simp only [own, others, bind, Except.bind, pure, Except.pure, Except.ok.injEq] at read
        rw [← read, map_cons, map_cons, ih others, isEmpty_of_weightLayer own]

theorem matchWeights_ok {c : NetworkConfig} {w w' : Weights} {before after : Session} :
    (matchWeights c w).run before = .ok w' after ↔
      (if c.layers.length > w.kernels.length then insertEmpty c.layers w else w) = w' ∧ before = after ∧
        w'.kernels.length = c.layers.length := by
  simp only [matchWeights]
  generalize (if c.layers.length > w.kernels.length then insertEmpty c.layers w else w) = x
  by_cases same : x.kernels.length = c.layers.length
  · simp only [same, bne_self_eq_false, Bool.false_eq_true, if_false, pure_ok]
    grind
  · rw [if_pos (by simpa using same)]
    constructor
    · intro run
      obtain ⟨_, _, stopped, _⟩ := bind_ok.mp run
      obtain ⟨_, _, _, thrown⟩ := bind_ok.mp stopped
      exact (throw_ok.mp thrown).elim
    · rintro ⟨rfl, _, equal⟩
      exact absurd equal same

section

open SampleWeights

/-- The layers without weights have no entry, and the others have those of the tensors in order. -/
def Placed (ls : List WeightLayer) (ts : List Tensor) (kernels : List (Option Tensor)) : Prop :=
  kernels.map Option.isNone = ls.map (!·.hasWeights) ∧
    (kernels.filterMap id).map .ok = zipWith kernelOf (ls.filter (·.hasWeights)) ts

/-- As many layers are chosen as have weights, and each makes of its tensor what the layer that has
weights in its place makes of it. -/
def Aligned (ls : List WeightLayer) (ts : List Tensor) : Prop :=
  (chosen ls).length = (ls.filter (·.hasWeights)).length ∧
    zipWith kernelOf (chosen ls) ts = zipWith kernelOf (ls.filter (·.hasWeights)) ts

theorem count_flags (ls : List WeightLayer) :
    (ls.map (!·.hasWeights)).count false = (ls.filter (·.hasWeights)).length ∧
      (ls.map (!·.hasWeights)).count true + (ls.filter (·.hasWeights)).length = ls.length := by
  induction ls with
  | nil => simp
  | cons l ls ih => cases own : l.hasWeights <;> simp [own] <;> omega

theorem aligned_of_not_bypassed (none : ∀ l ∈ ls, l.bypass = false) : Aligned ls ts := by
  have same : chosen ls = ls.filter (·.hasWeights) := by
    have whole : ls.findIdx (·.bypass) = ls.length := findIdx_eq_length.mpr none
    rw [chosen, whole, take_of_length_le (length_filter_le _ _)]
    apply filter_congr
    intro l member
    simp [WeightLayer.hasWeights, none l member]
  rw [Aligned, same]
  exact ⟨rfl, rfl⟩

theorem no_gaps_of_all_chosen (all : ls.length ≤ (chosen ls).length) :
    (ls.map (!·.hasWeights)).count true = 0 := by
  rw [chosen, length_take] at all
  have bound : ls.findIdx (·.bypass) ≤ ls.length := findIdx_le_length
  have bound' := length_filter_le (·.computes) ls
  have plain := findIdx_eq_length.mp (show ls.findIdx (·.bypass) = ls.length by omega)
  have computes := length_filter_eq_length_iff.mp (show (ls.filter (·.computes)).length = ls.length by omega)
  rw [count_eq_zero, mem_map]
  rintro ⟨l, member, gap⟩
  simp [WeightLayer.hasWeights, computes l member, plain l member] at gap

variable {c : NetworkConfig} {ks : List Tensor}

theorem matchWeights_places {w : Weights} (before : Session) (ts : List Tensor) (read : c.layers.mapM Layer.weightLayer = .ok ls)
    (kernels : w.kernels = ks.map some) (count : ks.length = (chosen ls).length) :
    (∃ w' after, (matchWeights c w).run before = .ok w' after ∧ Placed ls ts w'.kernels) ↔
      ks.length = (ls.filter (·.hasWeights)).length ∧ ks.map .ok = zipWith kernelOf (ls.filter (·.hasWeights)) ts := by
  have flags := map_isEmpty read
  have size : c.layers.length = ls.length := by simpa using congrArg length flags
  have filled : (if c.layers.length > w.kernels.length then insertEmpty c.layers w else w).kernels =
      insertGaps (ls.map (!·.hasWeights)) 0 (ks.map some) := by
    split
    · rw [insertEmpty_kernels, flags, kernels]
    · rename_i all
      rw [kernels, insertGaps_none (no_gaps_of_all_chosen (by simp [kernels] at all; omega))]
  obtain ⟨present, total⟩ := count_flags ls
  simp only [matchWeights_ok]
  constructor
  · rintro ⟨w', after, ⟨rfl, rfl, length⟩, placed⟩
    rw [filled] at length placed
    rw [length_insertGaps, length_map] at length
    have fits : ks.length = (ls.filter (·.hasWeights)).length := by omega
    have gaps := insertGaps_eq (fits.trans present.symm) []
    rw [nil_append, nil_append, length_nil] at gaps
    rw [gaps, Placed, (fillGaps_spec (fits.trans present.symm)).2] at placed
    exact ⟨fits, placed.2⟩
  · rintro ⟨fits, tensors⟩
    have gaps := insertGaps_eq (fits.trans present.symm) []
    rw [nil_append, nil_append, length_nil] at gaps
    obtain ⟨empty, items⟩ := fillGaps_spec (fits.trans present.symm)
    refine ⟨_, before, ⟨rfl, rfl, ?_⟩, ?_⟩
    · rw [filled, length_insertGaps, length_map]
      omega
    · rw [filled, gaps, Placed, items]
      exact ⟨empty, tensors⟩

theorem load_run (ls : List WeightLayer) {dataset : String} {name : Option String} {before : Session} (several : 2 ≤ ts.length)
    (stored : before.files.read (SampleWeights.path dataset name) = .ok (.tensors ts)) :
    ∃ printed, (SampleWeights.load dataset name ls).run before = (Run.lift (assign ls ts 0 ls)).run printed := by
  have own : tensorsOf ts = ts := by
    match ts, several with
    | _ :: _ :: _, _ => rfl
  obtain ⟨printed, prints⟩ : ∃ printed, (Run.putLine s!"Reading weights from {SampleWeights.path dataset name}...").run
      before = .ok () printed := ⟨_, rfl⟩
  refine ⟨printed, ?_⟩
  simp [SampleWeights.load, SampleData.stored, stored, Run.lift, prints, own]

variable {dataset : String} {name : Option String} {before : Session}
  (read : c.layers.mapM Layer.weightLayer = .ok ls) (several : 2 ≤ ts.length)
  (enough : (ls.filter (·.hasWeights)).length ≤ ts.length)
  (valid : ∀ t ∈ ts, ∀ l ∈ ls, ∃ w, layerWeights l t = .ok w)
  (stored : before.files.read (SampleWeights.path dataset name) = .ok (.tensors ts)) (bias : List (Option Tensor))
include read several enough valid stored

theorem load_places :
    (∃ w after, (do matchWeights c (.ofSet (← SampleWeights.load dataset name ls) bias)).run before = .ok w after ∧
      Placed ls ts w.kernels) ↔ Aligned ls ts := by
  obtain ⟨printed, loaded⟩ := load_run ls several stored
  have assigned : (assign ls ts 0 ls).map (·.weights) = weightsFor (chosen ls) ts :=
    assign_weights (Nat.le_of_eq (Nat.zero_add _)) (Nat.zero_le _)
  rw [EStateM.run_bind, loaded]
  rcases Nat.lt_or_ge ts.length (chosen ls).length with short | full
  · obtain ⟨e, failed⟩ := weightsFor_short short
    rw [failed] at assigned
    constructor
    · rintro ⟨w, after, run, _⟩
      cases result : assign ls ts 0 ls with
      | error e' => cases (result ▸ run : _)
      | ok set => simp [result, Except.map] at assigned
    · rintro ⟨same, _⟩
      omega
  · obtain ⟨ws, found, kernels⟩ := weightsFor_valid full fun t member l chosen =>
      valid t member l (mem_filter.mp (mem_of_mem_take chosen)).1
    rw [found] at assigned
    have count := congrArg length kernels
    simp only [length_map, length_zipWith, Nat.min_eq_left full] at count
    cases result : assign ls ts 0 ls with
    | error e => simp [result, Except.map] at assigned
    | ok set =>
      simp only [result, Except.map, Except.ok.injEq] at assigned
      have sets : (Weights.ofSet set bias).kernels = (ws.map (·.kernels)).map some := by simp [Weights.ofSet, assigned]
      have places := matchWeights_places printed ts read sets (by simpa using count)
      rw [Aligned, ← kernels, ← count]
      simpa [Run.lift] using places

/-- The tensors of a file go to the layers with weights, exactly if the chosen layers are as good as
these. Layers that are not bypassed always are. -/
theorem load_places_iff_aligned :
    ((∃ w after, (do matchWeights c (.ofSet (← SampleWeights.load dataset name ls) bias)).run before = .ok w after ∧
        Placed ls ts w.kernels) ↔ Aligned ls ts) ∧
      ((∀ l ∈ ls, l.bypass = false) → Aligned ls ts) :=
  ⟨load_places read several enough valid stored bias, aligned_of_not_bypassed⟩

end

section

open SampleWeights

def convolutions (bypassed : Nat) : NetworkConfig where
  entries := .null
  layers := (List.range 3).map fun i => { bypass := i == bypassed, quantization := .int (if i = 1 then 4 else 8) }

def convolutionWeights (bypassed : Nat) : List WeightLayer :=
  (List.range 3).map fun i =>
    { operator := .conv2d, bypass := i == bypassed, quantization := some (if i = 1 then 4 else 8) }

def sampleTensors : List Tensor := [Tensor.full [1, 1, 1, 1] 5, Tensor.full [1, 1, 1, 1] 7]

def withWeights (ts : List Tensor) : Session :=
  { files.files := ({} : Std.HashMap String Content).insert (normalPath (SampleWeights.path "t" none)) (.tensors ts) }

theorem withWeights_read (ts : List Tensor) :
    (withWeights ts).files.read (SampleWeights.path "t" none) = .ok (.tensors ts) := by
  have file : (SampleWeights.path "t" none).endsWith "/" = false := by decide +kernel
  simp [withWeights, FileTree.read, file]

theorem sampleTensors_valid (bypassed : Nat) :
    ∀ t ∈ sampleTensors, ∀ l ∈ convolutionWeights bypassed, ∃ w, layerWeights l t = .ok w := by
  intro t member l member'
  simp only [sampleTensors, mem_cons, not_mem_nil, or_false, convolutionWeights, range, range.loop, map_cons, map_nil,
    if_true] at member member'
  rcases member with rfl | rfl <;> rcases member' with rfl | rfl | rfl <;> exact ⟨_, rfl⟩

/-- The last layer is bypassed, and the two tensors are those of the other two. -/
theorem load_places_iff_last_bypassed :
    Aligned (convolutionWeights 2) sampleTensors ∧
      ∃ w after, (do matchWeights (convolutions 2) (.ofSet (← SampleWeights.load "t" none (convolutionWeights 2)) [])).run
        (withWeights sampleTensors) = .ok w after ∧ Placed (convolutionWeights 2) sampleTensors w.kernels := by
  have aligned : Aligned (convolutionWeights 2) sampleTensors := ⟨rfl, rfl⟩
  exact ⟨aligned, (load_places_iff_aligned rfl (by decide) (by decide) (sampleTensors_valid 2)
    (withWeights_read _) []).1.mpr aligned⟩

/-- With the second of three layers bypassed, the third has no weights. -/
theorem load_misses_layer :
    ¬∃ w after, (do matchWeights (convolutions 1) (.ofSet (← SampleWeights.load "t" none (convolutionWeights 1)) [])).run
      (withWeights sampleTensors) = .ok w after ∧ Placed (convolutionWeights 1) sampleTensors w.kernels := by
  rw [load_places rfl (by decide) (by decide) (sampleTensors_valid 1) (withWeights_read _) []]
  rintro ⟨count, _⟩
  revert count
  decide

end

end Network

end CnnForge
