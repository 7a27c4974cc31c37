import CnnForge.Proofs.WeightPlacement
import Mathlib.Data.Nat.Count

namespace CnnForge

open List Outcome

namespace SampleWeights

variable {without : List Int} {n j : Nat}

def listed (without : List Int) (i : Nat) : Bool := without.contains (i : Int)

/-- The tensor at place `j` is the one whose number is that of the places before it that are not listed. -/
theorem getElem?_assignBias (k : Nat) (ts : List Tensor) (inside : j < n) :
    (assignBias without n k ts)[j]? =
      some (if listed without (k + j) then none else ts[Nat.count (fun i => !listed without (k + i)) j]?) := by
  induction n generalizing k ts j with
  | zero => omega
  | succ n ih =>
    rw [assignBias, ← listed]
    cases j with
    | zero => cases own : listed without k <;> simp [head?_eq_getElem?]
    | succ j =>
      have next (i : Nat) : k + 1 + i = k + (i + 1) := by omega
      have rest (ts : List Tensor) := ih (k + 1) ts (Nat.lt_of_succ_lt_succ inside)
      simp only [next] at rest
      cases own : listed without k
      · simp [own, rest, Nat.count_succ']
      · simp [own, rest, Nat.count_succ']

theorem length_assignBias (without : List Int) (n k : Nat) (ts : List Tensor) :
    (assignBias without n k ts).length = n := by
  induction n generalizing k ts with
  | zero => rfl
  | succ n ih =>
    rw [assignBias]
    split
    · rw [length_cons, ih]
    · rw [length_cons, ih]

def biasPath (name : String) : String := joinPath "tests" s!"bias_{name}.npy"

theorem loadBias_run (n : Nat) (without : List Int) {name : String} {ts : List Tensor} {before : Session}
    (stored : before.files.read (biasPath name) = .ok (.tensors ts)) :
    ∃ printed, (loadBias n (some name) without).run before = .ok (assignBias without n 0 ts) printed := by
  obtain ⟨printed, prints⟩ : ∃ printed, (Run.putLine s!"Reading bias from {biasPath name}...").run
      before = .ok () printed := ⟨_, rfl⟩
  refine ⟨printed, ?_⟩
  rw [biasPath] at stored prints
  simp [loadBias, SampleData.stored, stored, Run.lift, prints]

end SampleWeights

namespace Network

open SampleWeights

section

variable {α : Type} {flags : List Bool} {xs done : List (Option α)} {i : Nat}

/-- The entries in order, with an empty one before those at the places that have a flag. -/
def spread : List Bool → List (Option α) → List (Option α)
  | true :: flags, xs => none :: spread flags xs
  | false :: flags, x :: xs => x :: spread flags xs
  | _, xs => xs

theorem insertGaps_append (enough : flags.count false ≤ xs.length) (done : List (Option α)) :
    insertGaps flags done.length (done ++ xs) = done ++ spread flags xs := by
  induction flags generalizing done xs with
  | nil => cases xs <;> rfl
  | cons flag flags ih =>
    rw [insertGaps, zipIdx_cons, foldl_cons, ← insertGaps]
    cases flag with
    | true =>
      have step := ih (show flags.count false ≤ xs.length by simpa using enough) (done ++ [none])
      simpa [insertAt, spread] using step
    | false =>
      cases xs with
      | nil => simp at enough
      | cons x xs =>
        have step := ih (show flags.count false ≤ xs.length by simpa using enough) (done ++ [x])
        simpa [spread] using step

theorem getElem?_spread (enough : flags.count false ≤ xs.length) {flag : Bool} (own : flags[i]? = some flag) :
    (spread flags xs)[i]? = if flag then some none else xs[(flags.take i).count false]? := by
  induction flags generalizing xs i with
  | nil => simp at own
  | cons f flags ih =>
    cases f with
    | true =>
      cases i with
      | zero => simp_all [spread]
      | succ i => simpa [spread] using ih (by simpa using enough) (by simpa using own)
    | false =>
      cases xs with
      | nil => simp at enough
      | cons x xs =>
        cases i with
        | zero => simp_all [spread]
        | succ i =>
          have left : flags.count false ≤ xs.length := by simpa using enough
          simpa [spread] using ih left (by simpa using own)

end

/-- A layer in whose place an empty bias is inserted. A layer that is bypassed has none inserted. -/
def isGap (c : LayerConfig) : Bool := c.operator == .passthrough && !c.bypass

theorem insertEmpty_bias (configs : List LayerConfig) (w : Weights) :
    (insertEmpty configs w).bias = insertGaps (configs.map isGap) 0 w.bias := by
  rw [insertEmpty]
  generalize 0 = p
  induction configs generalizing p w with
  | nil => rfl
  | cons c configs ih =>
    rw [map_cons, insertGaps, zipIdx_cons, zipIdx_cons, foldl_cons, foldl_cons, ← insertGaps, ih]
    cases same : c.operator == .passthrough <;> cases bypass : c.bypass <;> simp [isGap, same, bypass]

variable {layers : List LayerConfig} {without : List Int} {ts : List Tensor} {i j : Nat} {l : LayerConfig}

theorem isEmpty_of_isGap {c : LayerConfig} (gap : isGap c = true) : isEmpty c = true := by
  simp_all [isGap, isEmpty]

/-- The place of layer `i` among the layers that are not gaps, which is where the list is looked up. -/
def position (layers : List LayerConfig) (i : Nat) : Nat := (layers.take i).countP (!isGap ·)

/-- Whether layer `i` has weights and is not listed. -/
def keepsBias (layers : List LayerConfig) (without : List Int) (i : Nat) : Bool :=
  layers[i]?.any (!isEmpty ·) && !listed without i

/-- The number of layers before layer `i` that have weights and are not listed. -/
def kept (layers : List LayerConfig) (without : List Int) (i : Nat) : Nat :=
  Nat.count (keepsBias layers without ·) i

/-- The listed layers have no bias, and those of the others that have weights have the tensors in order. -/
def BiasRemoved (layers : List LayerConfig) (without : List Int) (ts : List Tensor)
    (bias : List (Option Tensor)) : Prop :=
  (∀ i < layers.length, listed without i → bias[i]?.getD none = none) ∧
    ∀ i, keepsBias layers without i → bias[i]?.getD none = ts[kept layers without i]?

/-- The list says the same of a layer and of its position, and a layer that is bypassed before one that
keeps its bias has a listed position. -/
def Agrees (layers : List LayerConfig) (without : List Int) : Prop :=
  ∀ i l, layers[i]? = some l → isGap l = false →
    (listed without i → listed without (position layers i)) ∧
    (keepsBias layers without i → listed without (position layers i) = false) ∧
    (isEmpty l → (∃ j, i < j ∧ keepsBias layers without j) → listed without (position layers i))

theorem position_succ (own : layers[i]? = some l) :
    position layers (i + 1) = position layers i + if isGap l then 0 else 1 := by
  rw [position, position, take_add_one, own, countP_append]
  cases gap : isGap l <;> simp [gap]

theorem position_le (layers : List LayerConfig) (i : Nat) : position layers i ≤ i :=
  countP_le_length.trans (length_take_le i layers)

theorem lt_of_keepsBias (keeps : keepsBias layers without i = true) : i < layers.length := by
  by_contra outside
  simp [keepsBias, getElem?_eq_none (Nat.le_of_not_lt outside)] at keeps

theorem not_gap_of_keepsBias (own : layers[i]? = some l) (keeps : keepsBias layers without i = true) :
    isGap l = false ∧ isEmpty l = false := by
  have full : isEmpty l = false := by
    simp only [keepsBias, own, Option.any_some, Bool.and_eq_true, Bool.not_eq_true'] at keeps
    exact keeps.1
  refine ⟨?_, full⟩
  by_contra gap
  rw [isEmpty_of_isGap (by simpa using gap)] at full
  cases full

def taken (layers : List LayerConfig) (without : List Int) (i : Nat) : Nat :=
  Nat.count (fun k => !listed without k) (position layers i)

theorem taken_succ (own : layers[i]? = some l) :
    taken layers without (i + 1) =
      taken layers without i + if isGap l || listed without (position layers i) then 0 else 1 := by
  rw [taken, taken, position_succ own]
  cases gap : isGap l <;> cases here : listed without (position layers i) <;> simp [Nat.count_succ, here]

theorem taken_le (layers : List LayerConfig) (without : List Int) (i : Nat) : taken layers without i ≤ i :=
  (Nat.count_le _).trans (position_le layers i)

theorem kept_succ (layers : List LayerConfig) (without : List Int) (i : Nat) :
    kept layers without (i + 1) = kept layers without i + if keepsBias layers without i then 1 else 0 :=
  Nat.count_succ _ i

def loadedBias (layers : List LayerConfig) (without : List Int) (ts : List Tensor) : List (Option Tensor) :=
  insertGaps (layers.map isGap) 0 (assignBias without layers.length 0 ts)

theorem getElem?_loadedBias (ts : List Tensor) (own : layers[i]? = some l) :
    (loadedBias layers without ts)[i]?.getD none =
      if isGap l || listed without (position layers i) then none else ts[taken layers without i]? := by
  have inside : i < layers.length := (List.getElem?_eq_some_iff.mp own).1
  have enough : (layers.map isGap).count false ≤ (assignBias without layers.length 0 ts).length := by
    rw [length_assignBias]
    exact count_le_length.trans (Nat.le_of_eq (length_map _))
  have whole := insertGaps_append enough []
  rw [nil_append, nil_append, length_nil] at whole
  have flag : (layers.map isGap)[i]? = some (isGap l) := by rw [getElem?_map, own, Option.map_some]
  have place : ((layers.map isGap).take i).count false = position layers i := by
    rw [← map_take, count_eq_countP, countP_map, position]
    exact countP_congr fun c _ => by simp
  rw [loadedBias, whole, getElem?_spread enough flag, place,
    getElem?_assignBias 0 ts (Nat.lt_of_le_of_lt (position_le layers i) inside)]
  cases isGap l <;> simp [taken]

/-- As long as a layer that keeps its bias is still to come, as many tensors are taken as layers have
kept theirs. -/
theorem taken_eq_kept (agrees : Agrees layers without) (keeps : keepsBias layers without j = true) (before : i ≤ j) :
    taken layers without i = kept layers without i := by
  induction i with
  | zero => simp [taken, kept, position]
  | succ i ih =>
    have same := ih (by omega)
    have inside := lt_of_keepsBias keeps
    have own : layers[i]? = some layers[i] := getElem?_eq_getElem (by omega)
    rw [taken_succ own, kept_succ, same]
    cases gap : isGap layers[i] with
    | true => simp [keepsBias, own, isEmpty_of_isGap gap]
    | false =>
      obtain ⟨removed, kept, skipped⟩ := agrees i _ own gap
      cases empty : isEmpty layers[i] with
      | true => simp [keepsBias, own, empty, skipped empty ⟨j, before, keeps⟩]
      | false =>
        cases here : listed without i with
        | true => simp [keepsBias, here, removed here]
        | false =>
          have keeps : keepsBias layers without i = true := by simp [keepsBias, own, empty, here]
          simp [keeps, kept keeps]

theorem removed_of_agrees (agrees : Agrees layers without) (ts : List Tensor) :
    BiasRemoved layers without ts (loadedBias layers without ts) := by
  constructor
  · intro i inside here
    have own : layers[i]? = some layers[i] := getElem?_eq_getElem inside
    rw [getElem?_loadedBias ts own]
    cases gap : isGap layers[i] with
    | true => rfl
    | false => simp [(agrees i _ own gap).1 here]
  · intro i keeps
    have inside := lt_of_keepsBias keeps
    have own : layers[i]? = some layers[i] := getElem?_eq_getElem inside
    have gap := (not_gap_of_keepsBias own keeps).1
    rw [getElem?_loadedBias ts own, taken_eq_kept agrees keeps (Nat.le_refl i), gap, (agrees i _ own gap).2.1 keeps]
    rfl

theorem kept_le_taken (free : ∀ k, keepsBias layers without k = true → listed without (position layers k) = false)
    (before : i ≤ j) (inside : j ≤ layers.length) :
    kept layers without j + taken layers without i ≤ kept layers without i + taken layers without j := by
  induction j, before using Nat.le_induction with
  | base => exact Nat.le_refl _
  | succ j before ih =>
    have own : layers[j]? = some layers[j] := getElem?_eq_getElem inside
    have step := ih (by omega)
    rw [taken_succ own, kept_succ]
    cases keeps : keepsBias layers without j with
    | false => simp only [Bool.false_eq_true, if_false]; omega
    | true =>
      rw [(not_gap_of_keepsBias own keeps).1, free j keeps]
      simp only [Bool.or_false, Bool.false_eq_true, if_false, if_true]
      omega

theorem agrees_of_removed (distinct : ts.Nodup) (enough : layers.length ≤ ts.length)
    (removed : BiasRemoved layers without ts (loadedBias layers without ts)) : Agrees layers without := by
  have present (i : Nat) (inside : i < layers.length) : taken layers without i < ts.length :=
    Nat.lt_of_le_of_lt (taken_le layers without i) (by omega)
  have keeping (i : Nat) (keeps : keepsBias layers without i = true) :
      listed without (position layers i) = false ∧ taken layers without i = kept layers without i := by
    have inside := lt_of_keepsBias keeps
    have own : layers[i]? = some layers[i] := getElem?_eq_getElem inside
    have before : kept layers without i < ts.length := Nat.lt_of_le_of_lt (Nat.count_le _) inside |>.trans_le enough
    have entry := removed.2 i keeps
    rw [getElem?_loadedBias ts own, (not_gap_of_keepsBias own keeps).1, Bool.false_or,
      getElem?_eq_getElem before] at entry
    cases here : listed without (position layers i) with
    | true => simp [here] at entry
    | false =>
      rw [here, if_neg Bool.false_ne_true, getElem?_eq_getElem (present i inside), Option.some.injEq] at entry
      exact ⟨rfl, (distinct.getElem_inj_iff).mp entry⟩
  intro i l own gap
  have inside : i < layers.length := (List.getElem?_eq_some_iff.mp own).1
  refine ⟨?_, fun keeps => (keeping i keeps).1, ?_⟩
  · intro here
    have entry := removed.1 i inside here
    rw [getElem?_loadedBias ts own, gap, Bool.false_or, getElem?_eq_getElem (present i inside)] at entry
    by_contra other
    rw [if_neg other] at entry
    cases entry
  · rintro empty ⟨j, later, keeps⟩
    by_contra other
    -- The layer would take a tensor without keeping it, and layer `j` would get one that is too late in the file.
    have none : keepsBias layers without i = false := by simp [keepsBias, own, empty]
    have free := fun k keeps => (keeping k keeps).1
    have bound := lt_of_keepsBias keeps
    have first := kept_le_taken free (Nat.zero_le i) (Nat.le_of_lt inside)
    have rest := kept_le_taken free later (Nat.le_of_lt bound)
    have same := (keeping j keeps).2
    have start : kept layers without 0 = 0 ∧ taken layers without 0 = 0 := by simp [taken, kept, position]
    rw [kept_succ, none, taken_succ own, gap, eq_false_of_ne_true other] at rest
    simp only [Bool.or_self, Bool.false_eq_true, if_false] at rest
    omega

theorem agrees_of_weights (all : ∀ l ∈ layers, isEmpty l = false) : Agrees layers without := by
  have solid (l : LayerConfig) (member : l ∈ layers) : isGap l = false := by
    by_contra gap
    have empty := isEmpty_of_isGap (by simpa using gap)
    rw [all l member] at empty
    cases empty
  intro i l own gap
  have same : position layers i = i := by
    have inside : i < layers.length := (List.getElem?_eq_some_iff.mp own).1
    rw [position, countP_eq_length.mpr fun l member => by simp [solid l (mem_of_mem_take member)]]
    exact length_take_of_le (Nat.le_of_lt inside)
  have full := all l (mem_of_getElem? own)
  rw [same]
  refine ⟨id, fun keeps => ?_, fun empty => ?_⟩
  · simp only [keepsBias, Bool.and_eq_true, Bool.not_eq_true'] at keeps
    exact keeps.2
  · rw [full] at empty
    cases empty

theorem count_isEmpty (layers : List LayerConfig) :
    (layers.map isEmpty).count true + (layers.filter (!isEmpty ·)).length = layers.length := by
  induction layers with
  | nil => rfl
  | cons l layers ih => cases own : isEmpty l <;> simp [own] <;> omega

section

variable {c : NetworkConfig} {set : WeightSet} {name : String} {before : Session}
  (weights : set.weights.length = (c.layers.filter (!isEmpty ·)).length)
  (stored : before.files.read (biasPath name) = .ok (.tensors ts))
include weights

theorem matchWeights_bias (bias : List (Option Tensor)) (printed : Session) :
    ∃ w, (matchWeights c (.ofSet set bias)).run printed = .ok w printed ∧
      w.bias = insertGaps (c.layers.map isGap) 0 bias := by
  have total := count_isEmpty c.layers
  have sets : (Weights.ofSet set bias).kernels.length = set.weights.length := length_map _
  refine ⟨_, matchWeights_ok.mpr ⟨rfl, rfl, ?_⟩, ?_⟩
  · split
    · rw [insertEmpty_kernels, length_insertGaps, sets]
      omega
    · omega
  · split
    · exact insertEmpty_bias _ _
    · rename_i all
      have none : (c.layers.map isEmpty).count true = 0 := by omega
      refine (insertGaps_none ?_ 0 bias).symm
      rw [count_eq_zero, mem_map] at none ⊢
      rintro ⟨l, member, gap⟩
      exact none ⟨l, member, isEmpty_of_isGap gap⟩

include stored

theorem load_bias (without : List Int) :
    ∃ w after, (do matchWeights c (.ofSet set (← loadBias c.layers.length (some name) without))).run before = .ok w after ∧
      w.bias = loadedBias c.layers without ts := by
  obtain ⟨printed, loaded⟩ := loadBias_run c.layers.length without stored
  obtain ⟨w, matched, bias⟩ := matchWeights_bias weights (assignBias without c.layers.length 0 ts) printed
  exact ⟨w, printed, bind_ok.mpr ⟨_, _, loaded, matched⟩, bias⟩

/-- The biases of the listed layers are removed and the others stay in order if the list agrees with
the positions, and with a file of enough different tensors only then. Where every layer has weights it
always does. -/
theorem bias_removed_iff_agrees :
    ∃ w after, (do matchWeights c (.ofSet set (← loadBias c.layers.length (some name) without))).run before = .ok w after ∧
      (Agrees c.layers without → BiasRemoved c.layers without ts w.bias) ∧
      (ts.Nodup → c.layers.length ≤ ts.length → BiasRemoved c.layers without ts w.bias → Agrees c.layers without) ∧
      ((∀ l ∈ c.layers, isEmpty l = false) → Agrees c.layers without) := by
  obtain ⟨w, after, run, bias⟩ := load_bias weights stored without
  refine ⟨w, after, run, fun agrees => ?_, fun distinct enough removed => ?_, agrees_of_weights⟩
  · exact bias ▸ removed_of_agrees agrees ts
  · exact agrees_of_removed distinct enough (bias ▸ removed)

end

section

def withPassthrough (place : Nat) : NetworkConfig where
  entries := .null
  layers := (List.range 3).map fun i => if i = place then { operator := .passthrough } else {}

def sampleBias : List Tensor := [Tensor.full [1] 5, Tensor.full [1] 7]

def twoSets : WeightSet where
  weights := sampleTensors.map fun t => { kernels := t, inputChannels := 1, outputChannels := 1 }

def withBias (ts : List Tensor) : Session :=
  { files.files := ({} : Std.HashMap String Content).insert (normalPath (biasPath "b")) (.tensors ts) }

theorem withBias_read (ts : List Tensor) : (withBias ts).files.read (biasPath "b") = .ok (.tensors ts) := by
  have file : (biasPath "b").endsWith "/" = false := by decide +kernel
  simp [withBias, FileTree.read, file]

theorem withPassthrough_agrees : Agrees (withPassthrough 1).layers [0] := by
  rintro (_ | _ | _ | i) l own gap <;> cases own
  · exact ⟨fun _ => rfl, fun keeps => absurd keeps (by decide), fun empty => absurd empty (by decide)⟩
  · cases gap
  · exact ⟨fun here => absurd here (by decide), fun _ => rfl, fun empty => absurd empty (by decide)⟩

/-- The bias of the first of three layers is removed, and the third, after a layer without an operator,
has the first tensor. -/
theorem bias_removed_iff_middle :
    ∃ w after, (do matchWeights (withPassthrough 1) (.ofSet twoSets (← loadBias 3 (some "b") [0]))).run
      (withBias sampleBias) = .ok w after ∧ BiasRemoved (withPassthrough 1).layers [0] sampleBias w.bias := by
  have weights : twoSets.weights.length = ((withPassthrough 1).layers.filter (!isEmpty ·)).length := rfl
  obtain ⟨w, after, run, removed, _⟩ := bias_removed_iff_agrees weights (withBias_read sampleBias)
  exact ⟨w, after, run, removed withPassthrough_agrees⟩

/-- The first layer has no operator. With the second listed it keeps its bias, and the third has none. -/
theorem bias_kept_when_listed :
    ∃ w after, (do matchWeights (withPassthrough 0) (.ofSet twoSets (← loadBias 3 (some "b") [1]))).run
      (withBias sampleBias) = .ok w after ∧ w.bias[1]?.getD none = some (Tensor.full [1] 5) ∧
        w.bias[2]?.getD none = none ∧ ¬BiasRemoved (withPassthrough 0).layers [1] sampleBias w.bias := by
  have weights : twoSets.weights.length = ((withPassthrough 0).layers.filter (!isEmpty ·)).length := rfl
  obtain ⟨w, after, run, bias⟩ := load_bias weights (withBias_read sampleBias) [1]
  have kept : w.bias[1]?.getD none = some (Tensor.full [1] 5) := by rw [bias]; rfl
  refine ⟨w, after, run, kept, by rw [bias]; rfl, fun removed => ?_⟩
  have none := removed.1 1 (by decide) rfl
  rw [kept] at none
  cases none

end

end Network

end CnnForge
