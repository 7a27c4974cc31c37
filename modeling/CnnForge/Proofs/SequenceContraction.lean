import CnnForge.Proofs.SharedSettings

namespace CnnForge.Config

open Outcome List Value

/-- The layers that a layer names: its inputs, then its successor, the simulated one and the one to snoop. -/
def references (inputs next simulated snoop : Value) : List (Option Int) :=
  ((inputs.list?.getD []) ++ [next, simulated, snoop]).map int?

def writtenReferences (v : Value) : List (Option Int) :=
  references (inSequencesOf v) (sequenceOrStop ((v.get? "next_sequence").getD .null))
    (sequenceOrStop ((v.get? "simulated_sequence").getD .null)) ((v.get? "snoop_sequence").getD .null)

def referencesOf (l : LayerConfig) : List (Option Int) :=
  references l.inSequences l.nextSequence l.simulatedSequence l.snoopSequence

/-- Whether the inputs of a layer are a list with a name, and some layer sets the columns of that list. -/
def inputsNarrowed (vs : List Value) (v : Value) : Bool :=
  match inSequencesOf v with
  | .named m xs => vs.any (narrowsList m) && decide (1 < xs.length)
  | _ => false

theorem int?_updated (c : List (Nat × Value)) (v : Value) : (updated c v).int? = v.int? := by
  cases v <;> rfl

theorem int?_updatedList (c : List (Nat × Value)) (vs : List Value) :
    (updatedList c vs).map int? = vs.map int? := by
  rw [updatedList_eq_map, map_map]
  exact map_congr_left fun v _ => int?_updated c v

theorem inputs_updated (vs : List Value) (v : Value) :
    ((updated (changesOf vs) (inSequencesOf v)).list?.getD []).map int? =
      if inputsNarrowed vs v then (((inSequencesOf v).list?.getD []).map int?).set 1 (some 1)
      else ((inSequencesOf v).list?.getD []).map int? := by
  unfold inputsNarrowed
  cases inSequencesOf v with
  | named m xs =>
    simp only [updated, current, list?, Option.getD_some, changesOf_lookup]
    by_cases narrowed : vs.any (narrowsList m) = true
    · simp only [narrowed, if_true, map_set, int?_updatedList]
      split
      · rfl
      · rename_i short
        exact set_eq_of_length_le (by simpa using short)
    · simp [narrowed, int?_updatedList]
  | list xs => simp [updated, list?, int?_updatedList]
  | _ => rfl

theorem finished_references (l : LayerConfig) : referencesOf (finished l) = referencesOf l := by
  unfold finished
  split <;> rfl

/-- Reading keeps every reference as it is written, but for the second of an input list that another layer sets
the columns of. -/
theorem settled_references (vs : List Value) {v : Value} {s t : ConfigState} {l : LayerConfig}
    (read : ReadFrom v s l t) :
    referencesOf (settled vs l) =
      if inputsNarrowed vs v then (writtenReferences v).set 1 (some 1) else writtenReferences v := by
  have inputs := inputs_updated vs v
  rw [settled, finished_references]
  simp only [referencesOf, resolveLayer, references, read.inSequences, read.nextSequence,
    read.simulatedSequence, read.snoopSequence, map_append, inputs, map_cons, int?_updated, map_nil,
    writtenReferences]
  split
  · rename_i narrowed
    have two : 1 < (((inSequencesOf v).list?.getD []).map int?).length := by
      unfold inputsNarrowed at narrowed
      split at narrowed
      · rename_i m xs named
        simpa [named, list?] using (Bool.and_eq_true_iff.mp narrowed).2
      · cases narrowed
    rw [set_append_left _ _ two]
  · rfl

theorem countP_below_eq_iff {xs : List Nat} (distinct : xs.Nodup) (k : Nat) :
    xs.countP (· < k) = k ↔ ∀ r < k, r ∈ xs := by
  -- Each number below `k` adds at most one, so the count reaches `k` only if every number does.
  have step : ∀ k, xs.countP (· < k + 1) = xs.countP (· < k) + if k ∈ xs then 1 else 0 := by
    intro k
    rw [← distinct.count]
    clear distinct
    induction xs with
    | nil => rfl
    | cons x xs ih =>
      simp only [countP_cons, count_cons, ih, decide_eq_true_eq, beq_iff_eq]
      split <;> split <;> split <;> omega
  have bound : ∀ k, xs.countP (· < k) ≤ k := by
    intro k
    induction k with
    | zero => simp
    | succ k ih =>
      rw [step]
      split <;> omega
  induction k with
  | zero => simp
  | succ k ih =>
    have below := bound k
    rw [step, Nat.forall_lt_succ_right]
    refine Iff.trans ?_ (and_congr_left' ih)
    split <;> rename_i here <;> simp only [here, and_true, and_false, iff_false] <;> omega

theorem readNetwork_places {limits : Limits} {entries : Value} {n : NetworkConfig} {t : ConfigState}
    (run : (readNetwork limits entries).run {} = .ok n t) {vs : List Value} (given : layerEntries entries = some vs) :
    (placesOf limits vs).Nodup ∧ n.layers.length = vs.length := by
  obtain ⟨vs', u, given', reading, layers⟩ := readNetwork_ok run
  obtain rfl : vs' = vs := Option.some.inj (given'.symm.trans given)
  obtain ⟨sorted, places⟩ := reading.ranks
  have count := congrArg length (numbered_entries vs' 0)
  refine ⟨places.nodup_iff.mp (sorted.imp Nat.ne_of_lt), ?_⟩
  have same := places.length_eq
  simp only [placesOf, sequenceNumbers, length_map] at same count
  rw [layers, length_map, same, count]

theorem indexOf_eq_iff {limits : Limits} {vs : List Value} (distinct : (placesOf limits vs).Nodup) (q : Int) :
    (indexOf limits vs q : Int) = q ↔ 0 ≤ q ∧ ∀ r < q.toNat, r ∈ placesOf limits vs := by
  rw [← countP_below_eq_iff distinct]
  constructor
  · intro same
    have nonneg : 0 ≤ q := by omega
    rw [indexOf, placeOf, if_pos nonneg] at same
    exact ⟨nonneg, by omega⟩
  · rintro ⟨nonneg, same⟩
    rw [indexOf, placeOf, if_pos nonneg]
    omega

/-- The references of a layer once the gaps between sequence numbers are closed. They are those that are written,
and a reference to the layer with number `q` names the index of that layer exactly if no number below `q` is left
out. -/
theorem reference_is_index_iff {limits : Limits} {entries : Value} {n : NetworkConfig} {t : ConfigState}
    (run : (readNetwork limits entries).run {} = .ok n t) {vs : List Value} (given : layerEntries entries = some vs)
    {i : Nat} {v : Value} {p : Int} (here : vs[i]? = some v) (number : (sequenceNumbers vs)[i]? = some p) :
    n.layers.length = vs.length ∧
    ∃ l, n.layers[indexOf limits vs p]? = some l ∧
      referencesOf l = (if inputsNarrowed vs v then (writtenReferences v).set 1 (some 1) else writtenReferences v) ∧
      ∀ k, ∀ q ∈ sequenceNumbers vs, (writtenReferences v)[k]? = some (some q) →
        (k = 1 → inputsNarrowed vs v = false) →
        ((referencesOf l)[k]? = some (some (indexOf limits vs q : Int)) ↔
          0 ≤ q ∧ ∀ r < q.toNat, r ∈ placesOf limits vs) := by
  obtain ⟨distinct, count⟩ := readNetwork_places run given
  obtain ⟨e, member, _, rfl⟩ := numbered_same rfl here here
  have same_number : (sequenceNumbers vs)[i]? = some e.number := by
    rw [sequenceNumbers, List.getElem?_map, member, Option.map_some]
  obtain rfl : e.number = p := Option.some.inj (same_number.symm.trans number)
  obtain ⟨l, ⟨_, _, read⟩, stands⟩ := readNetwork_layer run given (List.mem_of_getElem? member)
  have kept := settled_references vs (readLayer_ok read)
  refine ⟨count, settled vs l, stands, kept, fun k q _ written intact => ?_⟩
  have same : (referencesOf (settled vs l))[k]? = some (some q) := by
    rw [kept]
    split
    · rename_i narrowed
      have other : 1 ≠ k := fun one => by simp [intact one.symm] at narrowed
      rw [List.getElem?_set_ne other, written]
    · exact written
  rw [← indexOf_eq_iff distinct, same]
  simp only [Option.some.injEq]
  exact eq_comm

/-- Three layers with the numbers 0, 2 and 3, the last of which reads the output of the second. -/
def gapLayers : List Value :=
  [layerWith [("op", .text "conv2d")], layerWith [("op", .text "conv2d"), ("sequence", .int 2)],
   layerWith [("op", .text "conv2d"), ("in_sequences", .list [.int 0, .int 2])]]

theorem reference_is_index_iff_gap : ∃ n t l,
    (readNetwork assignedLimits (networkWith gapLayers)).run {} = .ok n t ∧ n.layers[2]? = some l ∧
    (referencesOf l)[0]? = some (some (indexOf assignedLimits gapLayers 0 : Int)) ∧
    (referencesOf l)[1]? ≠ some (some (indexOf assignedLimits gapLayers 2 : Int)) := by
  have ran : (result? ((readNetwork assignedLimits (networkWith gapLayers)).run {})).isSome = true := by decide +kernel
  obtain ⟨⟨n, t⟩, ran⟩ := Option.isSome_iff_exists.mp ran
  have run := result?_eq_some.mp ran
  have number : (sequenceNumbers gapLayers)[2]? = some 3 := by decide +kernel
  have index : indexOf assignedLimits gapLayers 3 = 2 := by decide +kernel
  obtain ⟨_, l, stands, _, right⟩ := reference_is_index_iff run rfl (i := 2) rfl number
  rw [index] at stands
  have first := right 0 0 (by decide +kernel) (by decide +kernel) (by decide)
  have second := right 1 2 (by decide +kernel) (by decide +kernel) (fun _ => by decide +kernel)
  refine ⟨n, t, l, run, stands, first.mpr (by decide +kernel), fun same => ?_⟩
  have whole := (second.mp same).2 1 (by decide)
  revert whole
  decide +kernel

/-- The last layer still reads from 2, where the layer with number 2 stands at index 1 now. -/
theorem gap_reference_kept : ∃ n t,
    (readNetwork assignedLimits (networkWith gapLayers)).run {} = .ok n t ∧
    sequenceNumbers gapLayers = [0, 2, 3] ∧ indexOf assignedLimits gapLayers 2 = 1 ∧
    (n.layers[2]?.map referencesOf) = some [some 0, some 2, none, none, none] := by
  have ran : ((result? ((readNetwork assignedLimits (networkWith gapLayers)).run {})).map fun (n, _) =>
      n.layers[2]?.map referencesOf) = some (some [some 0, some 2, none, none, none]) := by
    decide +kernel
  obtain ⟨⟨n, t⟩, ran, kept⟩ := Option.map_eq_some_iff.mp ran
  exact ⟨n, t, result?_eq_some.mp ran, by decide +kernel, by decide +kernel, kept⟩

end CnnForge.Config
