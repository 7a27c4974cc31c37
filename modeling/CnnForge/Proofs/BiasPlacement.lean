import CnnForge.Proofs.BiasSteps
import Mathlib.Data.List.Pairwise

namespace CnnForge

open Outcome List BiasLayer

variable {layers : List BiasLayer} {first i : Nat} {s : BiasSettings} {l : BiasLayer} {w : BiasWrite} {r : BiasRequest}
  {after : BiasPlan}

theorem mem_numberedFrom : (l, i) ∈ numberedFrom layers first ↔ layers[i]? = some l ∧ first ≤ i := by
  rw [numberedFrom, mem_iff_getElem?]
  constructor
  · rintro ⟨k, found⟩
    rw [getElem?_drop, getElem?_zipIdx, Option.map_eq_some_iff] at found
    obtain ⟨l', known, same⟩ := found
    cases same
    rw [Nat.zero_add]
    exact ⟨known, Nat.le_add_right _ _⟩
  · rintro ⟨known, later⟩
    refine ⟨i - first, ?_⟩
    rw [getElem?_drop, getElem?_zipIdx, Nat.add_sub_cancel' later, known]
    simp

theorem numberedFrom_distinct (layers : List BiasLayer) (first : Nat) :
    ((numberedFrom layers first).map Prod.snd).Nodup := by
  rw [numberedFrom, map_drop, zipIdx_map_snd, ← range_eq_range']
  exact nodup_range.sublist (drop_sublist _ _)

theorem requests_layers (s : BiasSettings) (numbered : List (BiasLayer × Nat)) :
    ((numbered.filterMap fun x => x.1.request? s x.2).map (·.layer)).Sublist (numbered.map Prod.snd) := by
  induction numbered with
  | nil => exact .slnil
  | cons x numbered ih =>
    cases asked : x.1.request? s x.2 with
    | none =>
      simp only [filterMap_cons, asked]
      exact ih.cons _
    | some r =>
      obtain ⟨_, _, _, _, _, same⟩ := request?_eq_some asked
      simp only [filterMap_cons, asked, map_cons, show r.layer = x.2 by rw [same]]
      exact ih.cons_cons _

def grantOf (given : List BiasGrant) (layer : Nat) : Option BiasGrant :=
  given.find? fun g => g.request.layer = layer

/-- How the plan of a network comes about: `early` has the layers that are bound to their groups, `middle` the
blocks of all others as well. -/
structure BiasPlan.Placed (plan : BiasPlan) (s : BiasSettings) (layers : List BiasLayer) (first : Nat)
    (early : BiasPlan) (given : List BiasGrant) (middle : BiasPlan) : Prop where
  prepared : early.Prepared s.device layers.length
  grouped : ∀ x ∈ numberedFrom layers first, x.1.Grouped s x.2
  contents : early.writes.toList.map BiasWrite.content =
    (numberedFrom layers first).flatMap fun x => x.1.groupContents s x.2
  reserved : BiasGrant.Reserved s.device early given middle
  served : ∀ x ∈ numberedFrom layers first, x.1.Served s x.2 middle.places (grantOf given x.2)
  tops : plan.tops = middle.tops
  places : plan.places = middle.places
  writes : plan.writes.toList = early.writes.toList ++
    (numberedFrom layers first).flatMap fun x => x.1.blockWrites s.device x.2 (grantOf given x.2)

theorem grantOf_served {early middle : BiasPlan} {given : List BiasGrant}
    (prepared : early.Prepared s.device layers.length) (reserved : BiasGrant.Reserved s.device early given middle)
    (asked : (given.map (·.request)).Perm ((numberedFrom layers first).filterMap fun x => x.1.request? s x.2)) :
    ∀ x ∈ numberedFrom layers first, x.1.Served s x.2 middle.places (grantOf given x.2) := by
  rintro ⟨l, i⟩ member
  have own : ∀ g ∈ given, g.request.layer = i → l.request? s i = some g.request := by
    intro g here same
    have listed := asked.mem_iff.mp (mem_map_of_mem here)
    obtain ⟨⟨l', i'⟩, other, request⟩ := mem_filterMap.mp listed
    obtain ⟨_, _, _, _, _, shape⟩ := request?_eq_some request
    have number : i' = i := by rw [← same, shape]
    subst number
    have layer := (mem_numberedFrom.mp other).1
    rw [(mem_numberedFrom.mp member).1, Option.some.injEq] at layer
    rw [layer]
    exact request
  cases found : grantOf given i with
  | some g =>
    have here := mem_of_find?_eq_some found
    have same : g.request.layer = i := by simpa using find?_some found
    have valid := reserved.valid g here
    exact ⟨own g here same, same ▸ valid.place, valid.memory⟩
  | none =>
    have absent : ∀ g ∈ given, g.request.layer ≠ i := by simpa [grantOf] using found
    refine ⟨?_, ?_⟩
    · cases request : l.request? s i with
      | none => rfl
      | some r =>
        have listed : r ∈ given.map (·.request) :=
          asked.mem_iff.mpr (mem_filterMap.mpr ⟨(l, i), member, request⟩)
        obtain ⟨g, here, rfl⟩ := mem_map.mp listed
        obtain ⟨_, _, _, _, _, shape⟩ := request?_eq_some request
        exact absurd (by rw [shape]) (absent g here)
    · intro group one
      rw [getD_eq_getElem?_getD, reserved.others i absent] at one
      cases place : early.places[i]? with
      | none =>
        rw [place] at one
        cases one
      | some p =>
        rw [place] at one
        exact prepared.shared p (mem_of_getElem? place) group one

theorem placeBias_ok {plan : BiasPlan} {u : Unit} (ran : (placeBias s layers first).run {} = .ok u plan) :
    ∃ early given middle, plan.Placed s layers first early given middle := by
  obtain ⟨_, _, started, ran⟩ := bind_ok.mp ran
  obtain rfl := modify_ok.mp started
  obtain ⟨_, early, bound, ran⟩ := bind_ok.mp ran
  obtain ⟨_, middle, placed, ran⟩ := bind_ok.mp ran
  obtain ⟨kept, new, written, contents⟩ := prepareAll_spec layers.length _ bound
  obtain ⟨prepared, grouped⟩ : early.Prepared s.device layers.length ∧ ∀ x ∈ numberedFrom layers first,
      x.1.Grouped s x.2 := by
    apply kept
    refine ⟨⟨by simp, by simp [BiasPlan.Bounded], by simp, by simp⟩, by simp, ?_⟩
    intro p member g
    obtain ⟨_, _, rfl⟩ := mem_map.mp member
    exact BiasGroup.noConfusion
  have sorted := mergeSort_perm ((numberedFrom layers first).filterMap fun x => x.1.request? s x.2)
    (fun a b => a.key s.device ≤ b.key s.device)
  have distinct := (requests_layers s (numberedFrom layers first)).nodup (numberedFrom_distinct layers first)
  obtain ⟨given, same, reserved⟩ := (BiasGrant.Reserved.start prepared.exclusive).placeAll _
    (by simpa using (sorted.map (·.layer)).nodup_iff.mpr distinct)
    (by
      intro r member
      obtain ⟨⟨l, i⟩, listed, asked⟩ := mem_filterMap.mp (sorted.mem_iff.mp member)
      obtain ⟨_, _, _, _, _, shape⟩ := request?_eq_some asked
      rw [prepared.size, show r.layer = i by rw [shape]]
      exact (List.getElem?_eq_some_iff.mp (mem_numberedFrom.mp listed).1).1) placed
  have served := grantOf_served prepared reserved (same ▸ sorted)
  obtain ⟨tops, places, writes⟩ := writeAll_ok _ served ran
  rw [nil_append] at reserved
  rw [reserved.writes] at writes
  refine ⟨early, given, middle, prepared, grouped, ?_, reserved, served, tops, places, writes⟩
  rw [written, ← contents]
  rfl

namespace BiasPlan.Placed

variable {plan early middle : BiasPlan} {s : BiasSettings} {layers : List BiasLayer} {first : Nat}
  {given : List BiasGrant}

variable (placed : plan.Placed s layers first early given middle)
include placed

theorem of_early (member : w ∈ early.writes.toList) :
    0 ≤ w.group ∧ ∃ v, w.value = Bits.byte v := by
  have listed : w.content ∈ early.writes.toList.map BiasWrite.content := mem_map_of_mem member
  rw [placed.contents] at listed
  obtain ⟨x, _, listed⟩ := mem_flatMap.mp listed
  rw [groupContents] at listed
  split at listed
  · split at listed
    · obtain ⟨byte, _, same⟩ := mem_filterMap.mp listed
      obtain ⟨v, _, same⟩ := Option.map_eq_some_iff.mp same
      simp only [BiasWrite.content, Prod.mk.injEq] at same
      exact ⟨by omega, v, same.2.2.symm⟩
    · cases listed
  · cases listed

theorem of_block {x : BiasLayer × Nat}
    (listed : x ∈ numberedFrom layers first) (member : w ∈ x.1.blockWrites s.device x.2 (grantOf given x.2)) :
    ∃ g ∈ given, g.request.layer = x.2 ∧ w.memory? s.device = some g.memory ∧ g.offset ≤ w.offset ∧
      w.offset < g.offset + g.request.length := by
  have served := placed.served x listed
  cases found : grantOf given x.2 with
  | none =>
    rw [found] at member
    cases member
  | some g =>
    rw [found] at member served
    have same : g.request.layer = x.2 := by simpa using find?_some found
    exact ⟨g, mem_of_find?_eq_some found, same, blockWrites_inside served.1 served.2.2 member⟩

theorem blocks_once :
    (((numberedFrom layers first).flatMap fun x => x.1.blockWrites s.device x.2 (grantOf given x.2)).map
      (BiasWrite.cell s.device)).Nodup := by
  rw [map_flatMap, nodup_flatMap]
  refine ⟨fun x _ => x.1.blockWrites_once s.device x.2 _, ?_⟩
  have distinct := pairwise_map.mp (numberedFrom_distinct layers first)
  apply distinct.imp_of_mem
  intro x y here there different cell in_x in_y
  obtain ⟨w, member, rfl⟩ := mem_map.mp in_x
  obtain ⟨w', member', same⟩ := mem_map.mp in_y
  obtain ⟨g, granted, layer, memory, low, high⟩ := placed.of_block here member
  obtain ⟨g', granted', layer', memory', low', high'⟩ := placed.of_block there member'
  have other : g ≠ g' := by
    rintro rfl
    exact different (layer.symm.trans layer')
  simp only [BiasWrite.cell, Prod.mk.injEq, memory, memory', Option.some.injEq] at same
  have apart := placed.reserved.apart.forall granted granted' other same.1.symm
  omega

theorem exclusive : plan.Exclusive s.device := by
  have below := placed.prepared.exclusive
  refine ⟨by rw [placed.tops, placed.reserved.memories], ?_, ?_, ?_⟩
  · rw [BiasPlan.Bounded, placed.tops]
    exact placed.reserved.bounded
  · rw [placed.writes, map_append, nodup_append]
    refine ⟨below.once, placed.blocks_once, ?_⟩
    intro cell in_early cell' in_block same
    subst same
    obtain ⟨w, member, rfl⟩ := mem_map.mp in_early
    obtain ⟨w', member', same⟩ := mem_map.mp in_block
    obtain ⟨x, listed, member'⟩ := mem_flatMap.mp member'
    obtain ⟨_, m, top, memory, here, under⟩ := below.inside w (Array.mem_toList_iff.mp member)
    obtain ⟨g, granted, _, memory', low, _⟩ := placed.of_block listed member'
    simp only [BiasWrite.cell, Prod.mk.injEq, memory, memory', Option.some.injEq] at same
    obtain ⟨start, here', above⟩ := (placed.reserved.valid g granted).above
    rw [same.1, here, Option.some.injEq] at here'
    omega
  · intro w member
    rw [← Array.mem_toList_iff, placed.writes, mem_append] at member
    rw [placed.tops]
    rcases member with member | member
    · obtain ⟨bound, m, top, memory, here, under⟩ := below.inside w (Array.mem_toList_iff.mp member)
      obtain ⟨top', here, le⟩ := placed.reserved.grown m top here
      exact ⟨bound, m, top', memory, here, by omega⟩
    · obtain ⟨x, listed, member⟩ := mem_flatMap.mp member
      obtain ⟨g, granted, _, memory, _, high⟩ := placed.of_block listed member
      have valid := placed.reserved.valid g granted
      obtain ⟨top, here, le⟩ := valid.below
      have room := valid.room
      exact ⟨by omega, g.memory, top, memory, here, by omega⟩

theorem holds (known : layers[i]? = some l) (later : first ≤ i)
    {bias : List Int} (values : l.bias = some bias) (biased : l.hasBias = true) (single : l.groups = 1)
    (free : s.quadLayer ≠ some i) : ∃ group offset, group ∈ l.allowedGroups.getD s.groupsUsed ∧
      plan.places[i]? = some (.single s.device group offset) ∧ (l.interleaved = true → 4 ∣ offset) ∧
      ∀ x ∈ l.values s.device i bias, ⟨i, group, offset + x.1, Bits.byte x.2⟩ ∈ plan.writes := by
  have listed := mem_numberedFrom.mpr ⟨known, later⟩
  have served := placed.served _ listed
  cases found : grantOf given i with
  | none =>
    rw [found] at served
    have unasked := served.1
    simp [request?, values, biased, single, free] at unasked
  | some g =>
    rw [found] at served
    obtain ⟨_, _, _, _, _, shape⟩ := request?_eq_some served.1
    have valid := placed.reserved.valid g (mem_of_find?_eq_some found)
    have allowed := valid.listed
    have aligned := valid.aligned
    rw [shape] at allowed aligned
    refine ⟨g.group, g.offset, allowed, placed.places ▸ served.2.1, aligned, ?_⟩
    intro x member
    rw [← Array.mem_toList_iff, placed.writes, mem_append]
    right
    rw [mem_flatMap]
    refine ⟨_, listed, ?_⟩
    rw [found, blockWrites, values]
    exact mem_map_of_mem member

end BiasPlan.Placed

def BiasFailure.Other : BiasFailure → Prop
  | .exhausted .. => False
  | _ => True

abbrev Harmless {α : Type} (x : BiasStep α) : Prop := Ends (fun _ => True) BiasFailure.Other (fun _ => True) x

theorem BiasStep.top_harmless (group : Int) : Harmless (top group) := by
  refine .bind Ends.get fun plan _ => ?_
  cases plan.top? group with
  | none => exact .throw trivial
  | some n => exact .pure trivial

theorem BiasStep.addByte_harmless (d : Device) (layer group : Nat) (value : Option Int) :
    Harmless (addByte d layer group value) := by
  unfold addByte
  refine .guard (fun _ => .throw trivial) fun _ _ => ?_
  refine .bind (top_harmless group) fun n _ => ?_
  refine .guard (fun _ => .throw trivial) fun _ _ => ?_
  cases value with
  | none => exact .modify fun _ _ => trivial
  | some v => exact .bind (.modify fun _ _ => trivial) fun _ _ => .modify fun _ _ => trivial

namespace BiasLayer

variable (l : BiasLayer) (s : BiasSettings) (layer : Nat)

theorem placeByGroup_harmless (d : Device) (bias : List Int) : Harmless (l.placeByGroup d layer bias) := by
  have offsets : Harmless (l.groupOffsets d) := by
    refine (Ends.mapM (Q := fun _ => True) _ fun group _ => ?_).mono fun _ _ => trivial
    refine Ends.ite (fun _ => ?_) fun _ => Ends.pure trivial
    refine .bind (BiasStep.top_harmless group) fun n _ => ?_
    exact .bind (.modify fun _ _ => trivial) fun _ _ => .pure trivial
  refine .bind offsets fun _ _ => .bind (.modify fun _ _ => trivial) fun _ _ => ?_
  have ordered : Harmless (BiasStep.lift (l.groupBytes d bias)) := by
    cases l.groupBytes d bias with
    | ok bytes => exact .pure trivial
    | error e => exact .throw trivial
  refine .bind ordered fun bytes _ => .forM _ fun x _ => ?_
  exact BiasStep.addByte_harmless d layer x.1 x.2

theorem prepare_harmless : Harmless (l.prepare s layer) := by
  unfold prepare
  cases l.bias with
  | none => exact .pure trivial
  | some bias =>
    refine .ite (fun _ => .pure trivial) fun _ => ?_
    refine .guard (fun _ => .throw trivial) fun _ _ => ?_
    refine .ite (fun _ => .bind (.modify fun _ _ => trivial) fun _ _ => .pure trivial) fun _ => ?_
    exact .ite (fun _ => .pure trivial) fun _ => l.placeByGroup_harmless layer s.device bias

theorem writeValues_harmless : Harmless (l.writeValues s layer) := by
  unfold writeValues
  cases l.bias with
  | none => exact .pure trivial
  | some bias =>
    refine .ite (fun _ => .pure trivial) fun _ => ?_
    refine .optional (fun _ => .modify fun _ _ => trivial) fun _ => ?_
    refine .bind Ends.get fun plan _ => ?_
    dsimp only
    cases (plan.places.getD layer default).group with
    | none => exact .throw trivial
    | all => exact .throw trivial
    | one group => exact .forM _ fun x _ => .modify fun _ _ => trivial

end BiasLayer

theorem BiasRequest.place_error {d : Device} {before : BiasPlan} {e : BiasFailure}
    (failed : (r.place d).run before = .error e after) : e.Other ∨ ∃ group top, e = .exhausted r after.tops group top ∧
      ∀ g ∈ r.groups, ∃ n, after.top? g = some n ∧ d.biasSize < r.align n + r.length := by
  have read : Harmless (r.groups.mapM BiasStep.top) :=
    (Ends.mapM (Q := fun _ => True) _ fun group _ => BiasStep.top_harmless group).mono fun _ _ => trivial
  rcases bind_error failed with failed | ⟨tops, _, found, failed⟩
  · exact .inl (read.error trivial failed)
  obtain ⟨known, rfl⟩ := BiasStep.tops_ok found
  dsimp only at failed
  cases best : Bits.argMin ((tops.map r.align).map Int.ofNat) with
  | none =>
    rw [best] at failed
    cases failed
    exact .inl trivial
  | some i =>
    rw [best] at failed
    obtain ⟨top, _, used, start, least⟩ := best_spec known best
    obtain ⟨m, memory, here⟩ := Option.bind_eq_some_iff.mp used
    rcases bind_error failed with failed | ⟨_, _, got, failed⟩
    · cases failed
    obtain ⟨rfl, rfl⟩ := get_ok.mp got
    rw [start, memory, Option.getD_some] at failed
    rcases bind_error failed with failed | ⟨_, _, raised, failed⟩
    · cases failed
    obtain rfl := modify_ok.mp raised
    by_cases full : r.align top + r.length > d.biasSize
    · rw [if_pos full] at failed
      cases failed
      refine .inr ⟨_, _, rfl, ?_⟩
      intro g member
      obtain ⟨n, used, le⟩ := least g member
      obtain ⟨m', memory', here'⟩ := Option.bind_eq_some_iff.mp used
      have inside := (List.getElem?_eq_some_iff.mp here).1
      rw [BiasPlan.top?, length_set, memory', Option.bind_some]
      by_cases same : m' = m
      · subst same
        have again := r.le_align (r.align top)
        exact ⟨r.align top, getElem?_set_self inside, by omega⟩
      · exact ⟨n, by rw [getElem?_set_ne (Ne.symm same), here'], by omega⟩
    · rw [if_neg full] at failed
      rcases bind_error failed with failed | ⟨_, _, _, failed⟩ <;> cases failed

theorem placeBias_exhausted {tops : List Nat} {group : Int} {top : Nat}
    (failed : (placeBias s layers first).run {} = .error (.exhausted r tops group top) after) :
    after.tops = tops ∧ (∃ l i, layers[i]? = some l ∧ first ≤ i ∧ l.request? s i = some r) ∧
      ∀ g ∈ r.groups, ∃ n, after.top? g = some n ∧ s.device.biasSize < r.align n + r.length := by
  rcases bind_error failed with failed | ⟨_, _, _, failed⟩
  · cases failed
  rcases bind_error failed with failed | ⟨_, _, _, failed⟩
  · have harmless : Harmless ((numberedFrom layers first).forM fun x => x.1.prepare s x.2) :=
      Ends.forM _ fun x _ => x.1.prepare_harmless s x.2
    exact (harmless.error trivial failed).elim
  rcases bind_error failed with failed | ⟨_, _, _, failed⟩
  · obtain ⟨r', listed, _, failed⟩ := forM_error failed
    rcases BiasRequest.place_error failed with other | ⟨_, _, same, full⟩
    · exact other.elim
    · cases same
      obtain ⟨⟨l, i⟩, member, asked⟩ := mem_filterMap.mp ((mergeSort_perm _ _).mem_iff.mp listed)
      obtain ⟨known, later⟩ := mem_numberedFrom.mp member
      exact ⟨rfl, ⟨l, i, known, later, asked⟩, full⟩
  · have harmless : Harmless ((numberedFrom layers first).forM fun x => x.1.writeValues s x.2) :=
      Ends.forM _ fun x _ => x.1.writeValues_harmless s x.2
    exact (harmless.error trivial failed).elim

end CnnForge
