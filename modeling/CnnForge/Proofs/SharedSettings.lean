import CnnForge.Proofs.LayerReading

namespace CnnForge.Config

open Outcome List

variable {vs ws : List Value} {limits : Limits} {v : Value}

def sequenceNumbers (vs : List Value) : List Int := (numbered vs 0).map LayerEntry.number

def placesOf (limits : Limits) (vs : List Value) : List Nat := (sequenceNumbers vs).map (placeOf limits)

def indexOf (limits : Limits) (vs : List Value) (n : Int) : Nat := (placesOf limits vs).countP (· < placeOf limits n)

def settled (vs : List Value) (l : LayerConfig) : LayerConfig :=
  finished (resolveLayer { commonPadding := commonPaddingOf vs, changed := changesOf vs } l)

theorem numbered_entries (vs : List Value) (next : Int) : (numbered vs next).map LayerEntry.entries = vs := by
  induction vs generalizing next with
  | nil => rfl
  | cons v vs ih => rw [numbered, map_cons, ih]

theorem countP_below {ks : List Nat} (sorted : ks.Pairwise (· < ·)) {r k : Nat} (here : ks[r]? = some k) :
    ks.countP (· < k) = r := by
  induction ks generalizing r with
  | nil => simp at here
  | cons x xs ih =>
    obtain ⟨above, sorted⟩ := pairwise_cons.mp sorted
    cases r with
    | zero =>
      obtain rfl : x = k := by simpa using here
      have none_below : xs.countP (· < x) = 0 := by
        rw [countP_eq_zero]
        intro y member
        have := above y member
        simp only [decide_eq_true_eq]
        omega
      simp [none_below]
    | succ r =>
      have there : xs[r]? = some k := by simpa using here
      have below : x < k := above k (mem_of_getElem? there)
      rw [countP_cons, ih sorted there]
      simp [below]

theorem Reading.ranks {u : ConfigState} (reading : Reading limits (numbered vs 0) u) :
    (u.layers.map Prod.fst).Pairwise (· < ·) ∧ (u.layers.map Prod.fst).Perm (placesOf limits vs) := by
  refine ⟨pairwise_map.mpr reading.sorted, ?_⟩
  rw [placesOf, sequenceNumbers, map_map]
  exact reading.places

theorem readNetwork_layer {entries : Value} {n : NetworkConfig} {t : ConfigState}
    (run : (readNetwork limits entries).run {} = .ok n t) (given : layerEntries entries = some vs) {e : LayerEntry}
    (member : e ∈ numbered vs 0) :
    ∃ l, Reads limits e l ∧ n.layers[indexOf limits vs e.number]? = some (settled vs l) := by
  obtain ⟨vs', u, given', reading, layers⟩ := readNetwork_ok run
  obtain rfl : vs' = vs := Option.some.inj (given'.symm.trans given)
  obtain ⟨l, placed, reads⟩ := reading.each e member
  obtain ⟨r, there⟩ := mem_iff_getElem?.mp placed
  obtain ⟨sorted, places⟩ := reading.ranks
  have rank : indexOf limits vs' e.number = r := by
    rw [indexOf, ← places.countP_eq]
    exact countP_below sorted (by simp [there])
  have padding : u.commonPadding = commonPaddingOf vs' := by rw [reading.commonPadding, numbered_entries]
  have changed : u.changed = changesOf vs' := by rw [reading.changed, numbered_entries]
  refine ⟨l, reads, ?_⟩
  rw [rank, layers, getElem?_map, there, Option.map_some]
  have resolved : resolveLayer u l = resolveLayer { commonPadding := u.commonPadding, changed := u.changed } l := rfl
  rw [settled, resolved, padding, changed]

theorem numbered_same {next : Int}
    (numbers : (numbered vs next).map LayerEntry.number = (numbered ws next).map LayerEntry.number) {i : Nat}
    (here : vs[i]? = some v) (there : ws[i]? = some v) :
    ∃ e, (numbered vs next)[i]? = some e ∧ (numbered ws next)[i]? = some e ∧ e.entries = v := by
  induction vs generalizing ws next i with
  | nil => simp at here
  | cons v' vs ih =>
    cases ws with
    | nil => simp at there
    | cons w ws =>
      -- A layer without a number takes the next one, so equal numbers so far give equal entries here.
      cases i with
      | zero =>
        obtain rfl : v' = v := by simpa using here
        obtain rfl : w = v' := by simpa using there
        exact ⟨_, rfl, rfl, rfl⟩
      | succ i =>
        simp only [numbered, map_cons, cons.injEq] at numbers
        obtain ⟨first, rest⟩ := numbers
        rw [← first] at rest
        obtain ⟨e, left, right, entries⟩ := ih rest (by simpa using here) (by simpa using there)
        refine ⟨e, by simpa [numbered] using left, ?_, entries⟩
        rw [first] at right
        simpa [numbered] using right

mutual

def namesOf : Value → List Nat
  | .named n xs => n :: namesOfList xs
  | .list xs => namesOfList xs
  | .table es => namesOfEntries es
  | _ => []

def namesOfList : List Value → List Nat
  | [] => []
  | v :: vs => namesOf v ++ namesOfList vs

def namesOfEntries : List (Value × Value) → List Nat
  | [] => []
  | (_, v) :: es => namesOf v ++ namesOfEntries es

end

section

variable {c c' : List (Nat × Value)}

mutual

theorem alike_of_names : (v : Value) → (∀ n ∈ namesOf v, c.lookup n = c'.lookup n) → Alike c c' v
  | .named n xs, agree => by
    have rest := alikeList_of_names xs fun m member => agree m (by simp [namesOf, member])
    have here : c.lookup n = c'.lookup n := agree n (by simp [namesOf])
    simp [Alike, updated, current, rest, here]
  | .list xs, agree => by
    have rest := alikeList_of_names xs fun m member => agree m (by simpa [namesOf] using member)
    simp [Alike, updated, rest]
  | .table es, agree => by
    have rest := alikeEntries_of_names es fun m member => agree m (by simpa [namesOf] using member)
    simp [Alike, updated, rest]
  | .null, _ | .bool _, _ | .int _, _ | .real _, _ | .text _, _ | .other _, _ => rfl

theorem alikeList_of_names : (vs : List Value) → (∀ n ∈ namesOfList vs, c.lookup n = c'.lookup n) →
    updatedList c vs = updatedList c' vs
  | [], _ => rfl
  | v :: vs, agree => by
    have first := alike_of_names v fun m member => agree m (by simp [namesOfList, member])
    have rest := alikeList_of_names vs fun m member => agree m (by simp [namesOfList, member])
    rw [updatedList, updatedList, first, rest]

theorem alikeEntries_of_names : (es : List (Value × Value)) →
    (∀ n ∈ namesOfEntries es, c.lookup n = c'.lookup n) → updatedEntries c es = updatedEntries c' es
  | [], _ => rfl
  | (k, v) :: es, agree => by
    have first := alike_of_names v fun m member => agree m (by simp [namesOfEntries, member])
    have rest := alikeEntries_of_names es fun m member => agree m (by simp [namesOfEntries, member])
    rw [updatedEntries, updatedEntries, first, rest]

end

end

def narrowsList (m : Nat) (v : Value) : Bool := (narrowing v).any (·.1 == m)

theorem narrowing_ones {x : Nat × Value} (member : x ∈ narrowing v) : x.2 = .int 1 := by
  have ones : ∀ setting, x ∈ narrowedNames setting → x.2 = .int 1 := by
    intro setting member
    cases setting with
    | named n xs =>
      obtain rfl := mem_singleton.mp member
      rfl
    | common | own xs => cases member
  unfold narrowing at member
  split at member
  · rcases mem_append.mp member with strides | pools
    · exact ones _ strides
    · exact ones _ pools
  · cases member

theorem lookup_ones {c : List (Nat × Value)} (ones : ∀ x ∈ c, x.2 = .int 1) (m : Nat) :
    c.lookup m = if c.any (·.1 == m) then some (.int 1) else none := by
  induction c with
  | nil => rfl
  | cons x c ih =>
    obtain ⟨n, v⟩ := x
    obtain rfl : v = .int 1 := ones (n, v) (by simp)
    rw [lookup_cons, ih fun x member => ones x (by simp [member])]
    by_cases same : m = n
    · simp [same]
    · have left : (m == n) = false := beq_false_of_ne same
      have right : (n == m) = false := beq_false_of_ne (Ne.symm same)
      simp only [any_cons, left, right, Bool.false_or]

theorem changesOf_lookup (vs : List Value) (m : Nat) :
    (changesOf vs).lookup m = if vs.any (narrowsList m) then some (.int 1) else none := by
  have gathered : ∀ c : List (Nat × Value), (∀ x ∈ c, x.2 = .int 1) →
      (∀ x ∈ vs.foldl (fun c v => narrowing v ++ c) c, x.2 = .int 1) ∧
      (vs.foldl (fun c v => narrowing v ++ c) c).any (·.1 == m) = (c.any (·.1 == m) || vs.any (narrowsList m)) := by
    induction vs with
    | nil => exact fun c ones => ⟨ones, by simp⟩
    | cons v vs ih =>
      intro c ones
      have more : ∀ x ∈ narrowing v ++ c, x.2 = .int 1 := by
        intro x member
        rcases mem_append.mp member with new | old
        · exact narrowing_ones new
        · exact ones x old
      obtain ⟨all, found⟩ := ih (narrowing v ++ c) more
      refine ⟨all, ?_⟩
      rw [foldl_cons, found, any_append, any_cons, narrowsList, Bool.or_comm ((narrowing v).any _),
        Bool.or_assoc]
  obtain ⟨ones, found⟩ := gathered [] (by simp)
  rw [changesOf, lookup_ones ones, found]
  rfl

theorem finished_padding (l : LayerConfig) : (finished l).padding = l.padding := by
  unfold finished
  split <;> rfl

/-- Two configurations that agree on the lists of a layer give it the same settings, up to the padding that it
shares with others. -/
theorem settled_eq_iff {l : LayerConfig} (alike : LayerAlike (changesOf vs) (changesOf ws) l) :
    settled vs l = settled ws l ↔
      (l.padding = .common → vs.any narrowsCommonPadding = ws.any narrowsCommonPadding) := by
  -- All settings but the padding agree, so that the padding decides.
  have split : ∀ s, resolveLayer s l = { resolveLayer s (unpadded l) with padding := resolve s l.padding } :=
    fun _ => rfl
  have rest := alike.rest (commonPaddingOf vs) (commonPaddingOf ws)
  rcases alike.padding with common | own
  · have padding : ∀ vs, (settled vs l).padding = .own (commonPaddingOf vs) := by
      intro vs
      rw [settled, finished_padding, split, common]
      rfl
    constructor
    · intro same _
      have equal := congrArg LayerConfig.padding same
      rw [padding, padding] at equal
      simp only [commonPaddingOf, ListSetting.own.injEq, cons.injEq, Value.int.injEq] at equal
      cases left : vs.any narrowsCommonPadding <;> cases right : ws.any narrowsCommonPadding <;>
        simp [left, right] at equal ⊢
    · intro narrow
      rw [settled, settled, split, split, rest, common]
      simp only [resolve, commonPaddingOf, narrow common]
  · refine iff_of_true ?_ fun common => ?_
    · rw [settled, settled, split, split, rest, own]
    · have never := own [] [.null]
      simp [common, resolve] at never

/-- Two configurations give a layer the same entries and all layers the same numbers. If each list that the layer
names has its columns set in both or in neither, its settings are the same exactly if it has a padding of its own, or
this holds of the common padding too. -/
theorem layer_settings_eq_iff {limits : Limits} {A B : Value} {a b : NetworkConfig} {sA sB : ConfigState}
    (readA : (readNetwork limits A).run {} = .ok a sA) (readB : (readNetwork limits B).run {} = .ok b sB)
    {vs ws : List Value} (layersA : layerEntries A = some vs) (layersB : layerEntries B = some ws)
    (numbers : sequenceNumbers vs = sequenceNumbers ws) {i : Nat} {v : Value} {n : Int}
    (here : vs[i]? = some v) (there : ws[i]? = some v) (number : (sequenceNumbers vs)[i]? = some n) :
    ∃ la lb, a.layers[indexOf limits vs n]? = some la ∧ b.layers[indexOf limits ws n]? = some lb ∧
      indexOf limits vs n = indexOf limits ws n ∧
      ((∀ m ∈ namesOf v, vs.any (narrowsList m) = ws.any (narrowsList m)) →
        (la = lb ↔ (usesCommonPadding v = true → vs.any narrowsCommonPadding = ws.any narrowsCommonPadding))) := by
  obtain ⟨e, left, right, rfl⟩ := numbered_same numbers here there
  obtain rfl : e.number = n := by simpa [sequenceNumbers, left] using number
  obtain ⟨l, reads, settledA⟩ := readNetwork_layer readA layersA (List.mem_of_getElem? left)
  obtain ⟨l', reads', settledB⟩ := readNetwork_layer readB layersB (List.mem_of_getElem? right)
  obtain ⟨_, _, run⟩ := reads
  obtain ⟨_, _, run'⟩ := reads'
  obtain rfl := readLayer_steady run run'
  have from_entry := readLayer_ok run
  refine ⟨_, _, settledA, settledB, by rw [indexOf, indexOf, placesOf, placesOf, numbers], fun names => ?_⟩
  have lists : Alike (changesOf vs) (changesOf ws) e.entries := alike_of_names _ fun m member => by
    rw [changesOf_lookup, changesOf_lookup, names m member]
  rw [settled_eq_iff (from_entry.alike _ _ lists), from_entry.padding]

def layerWith (settings : List (String × Value)) : Value :=
  .table (([("processors", Value.int 1), ("out_offset", Value.int 0)] ++ settings).map fun (k, v) => (.text k, v))

def networkWith (vs : List Value) : Value :=
  .table [(.text "arch", .text "net"), (.text "dataset", .text "set"), (.text "layers", .list vs)]

def assignedLimits : Limits := { layers := 32, processors := 64, usesProcessors := true }

def pooledLayer : Value := layerWith [("op", .text "Conv2d"), ("max_pool", .named 1 [.int 2, .int 2])]

def planeLayers : List Value := [pooledLayer, layerWith [("op", .text "conv2d")]]

def lineLayers : List Value := [pooledLayer, layerWith [("op", .text "conv1d")]]

def paddedLineLayers : List Value := [pooledLayer, layerWith [("op", .text "conv1d"), ("pad", .int 1)]]

theorem layer_settings_eq_iff_pooled : ∃ a b sA sB la lb,
    (readNetwork assignedLimits (networkWith paddedLineLayers)).run {} = .ok a sA ∧
    (readNetwork assignedLimits (networkWith planeLayers)).run {} = .ok b sB ∧
    a.layers[0]? = some la ∧ b.layers[0]? = some lb ∧ la = lb := by
  have ranA : (result? ((readNetwork assignedLimits (networkWith paddedLineLayers)).run {})).isSome = true := by
    decide +kernel
  have ranB : (result? ((readNetwork assignedLimits (networkWith planeLayers)).run {})).isSome = true := by
    decide +kernel
  obtain ⟨⟨a, sA⟩, ranA⟩ := Option.isSome_iff_exists.mp ranA
  obtain ⟨⟨b, sB⟩, ranB⟩ := Option.isSome_iff_exists.mp ranB
  have readA := result?_eq_some.mp ranA
  have readB := result?_eq_some.mp ranB
  have numbers : sequenceNumbers paddedLineLayers = sequenceNumbers planeLayers := by decide +kernel
  have number : (sequenceNumbers paddedLineLayers)[0]? = some 0 := by decide +kernel
  have index : indexOf assignedLimits paddedLineLayers 0 = 0 := by decide +kernel
  obtain ⟨la, lb, hereA, hereB, same, equal⟩ :=
    layer_settings_eq_iff readA readB rfl rfl numbers (v := pooledLayer) rfl rfl number
  rw [index] at hereA
  rw [← same, index] at hereB
  have names : ∀ m ∈ namesOf pooledLayer, paddedLineLayers.any (narrowsList m) = planeLayers.any (narrowsList m) := by
    decide +kernel
  have narrows : paddedLineLayers.any narrowsCommonPadding = planeLayers.any narrowsCommonPadding := by decide +kernel
  exact ⟨a, b, sA, sB, la, lb, readA, readB, hereA, hereB, (equal names).mpr fun _ => narrows⟩

/-- A one-dimensional layer with the common padding changes the padding of the layer before it. -/
theorem line_changes_padding : ∃ a b sA sB,
    (readNetwork assignedLimits (networkWith lineLayers)).run {} = .ok a sA ∧
    (readNetwork assignedLimits (networkWith planeLayers)).run {} = .ok b sB ∧
    sequenceNumbers lineLayers = sequenceNumbers planeLayers ∧
    lineLayers[0]? = some pooledLayer ∧ planeLayers[0]? = some pooledLayer ∧
    (a.layers[0]?.map fun l => l.padding.toList.map Value.int?) = some [some 1, some 0] ∧
    (b.layers[0]?.map fun l => l.padding.toList.map Value.int?) = some [some 1, some 1] := by
  have ranA : ((result? ((readNetwork assignedLimits (networkWith lineLayers)).run {})).map fun (a, _) =>
      a.layers[0]?.map fun l => l.padding.toList.map Value.int?) = some (some [some 1, some 0]) := by
    decide +kernel
  have ranB : ((result? ((readNetwork assignedLimits (networkWith planeLayers)).run {})).map fun (b, _) =>
      b.layers[0]?.map fun l => l.padding.toList.map Value.int?) = some (some [some 1, some 1]) := by
    decide +kernel
  obtain ⟨⟨a, sA⟩, ranA, paddingA⟩ := Option.map_eq_some_iff.mp ranA
  obtain ⟨⟨b, sB⟩, ranB, paddingB⟩ := Option.map_eq_some_iff.mp ranB
  exact ⟨a, b, sA, sB, result?_eq_some.mp ranA, result?_eq_some.mp ranB, by decide +kernel, rfl, rfl, paddingA,
    paddingB⟩

end CnnForge.Config
