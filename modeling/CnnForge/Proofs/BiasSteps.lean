import CnnForge.BiasMemory.Plan
import CnnForge.Proofs.Endings
import Mathlib.Data.List.Nodup

namespace CnnForge

open Outcome List BiasWrite BiasStep

variable (n layers : Nat) (numbered : List (BiasLayer × Nat))

def BiasWrite.cell (d : Device) (w : BiasWrite) : Option Nat × Nat := (w.memory? d, w.offset)

def BiasWrite.content (w : BiasWrite) : Nat × Int × Int := (w.layer, w.group, w.value)

def byteContents (layer : Nat) (bytes : List (Nat × Option Int)) : List (Nat × Int × Int) :=
  bytes.filterMap fun x => x.2.map fun v => (layer, (x.1 : Int), Bits.byte v)

def BiasPlan.Bounded (d : Device) (plan : BiasPlan) : Prop := 4 ∣ d.biasSize → ∀ top ∈ plan.tops, top ≤ d.biasSize

/-- Every write has a place of its own, below the top of its memory. -/
structure BiasPlan.Exclusive (d : Device) (plan : BiasPlan) : Prop where
  memories : plan.tops.length = d.groups
  bounded : plan.Bounded d
  once : (plan.writes.toList.map (cell d)).Nodup
  inside : ∀ w ∈ plan.writes, w.offset < d.biasSize ∧
    ∃ m top, w.memory? d = some m ∧ plan.tops[m]? = some top ∧ w.offset < top

namespace BiasStep

variable {before after : BiasPlan}

theorem top_ok {group : Int} {n : Nat} :
    (top group).run before = .ok n after ↔ before.top? group = some n ∧ before = after := by
  simp only [top, bind_ok, get_ok]
  constructor
  · rintro ⟨_, _, ⟨rfl, rfl⟩, found⟩
    cases known : before.top? group with
    | none => simp [known] at found
    | some k => simpa [known] using found
  · rintro ⟨known, rfl⟩
    exact ⟨_, _, ⟨rfl, rfl⟩, by simp [known]⟩

theorem tops_ok {groups : List Int} {tops : List Nat} (ran : (groups.mapM top).run before = .ok tops after) :
    groups.map before.top? = tops.map some ∧ before = after := by
  induction groups generalizing tops after with
  | nil =>
    obtain ⟨rfl, rfl⟩ := pure_ok.mp ran
    exact ⟨rfl, rfl⟩
  | cons group groups ih =>
    rw [mapM_cons] at ran
    obtain ⟨n, _, first, ran⟩ := bind_ok.mp ran
    obtain ⟨known, rfl⟩ := top_ok.mp first
    obtain ⟨rest, _, others, ran⟩ := bind_ok.mp ran
    obtain ⟨same, rfl⟩ := ih others
    obtain ⟨rfl, rfl⟩ := pure_ok.mp ran
    exact ⟨by rw [map_cons, map_cons, known, same], rfl⟩

theorem lift_ok {α : Type} {x : Except Failure α} {a : α} :
    (lift x).run before = .ok a after ↔ x = .ok a ∧ before = after := by
  cases x <;> simp [lift]

theorem addByte_ok {d : Device} {layer group : Nat} {value : Option Int} {u : Unit}
    (ran : (addByte d layer group value).run before = .ok u after) :
    ∃ n, before.tops[group]? = some n ∧ n < d.biasSize ∧ after.tops = before.tops.set group (n + 1) ∧
      after.places = before.places ∧
      after.writes.toList = before.writes.toList ++ (value.map fun v => ⟨layer, group, n, Bits.byte v⟩).toList := by
  unfold addByte at ran
  obtain ⟨_, ran⟩ := refuse_ok ran
  obtain ⟨n, middle, found, ran⟩ := bind_ok.mp ran
  obtain ⟨known, rfl⟩ := top_ok.mp found
  obtain ⟨m, memory, here⟩ := Option.bind_eq_some_iff.mp known
  obtain ⟨room, ran⟩ := refuse_ok ran
  obtain rfl := eq_of_position?_natCast memory
  refine ⟨n, here, by omega, ?_⟩
  cases value with
  | none =>
    obtain rfl := modify_ok.mp ran
    exact ⟨rfl, rfl, by simp⟩
  | some v =>
    obtain ⟨_, _, written, ran⟩ := bind_ok.mp ran
    obtain rfl := modify_ok.mp written
    obtain rfl := modify_ok.mp ran
    exact ⟨rfl, rfl, by simp⟩

end BiasStep

namespace BiasPlan

variable {d : Device} {plan result : BiasPlan}
variable {layer top n m : Nat} {u : Unit}

theorem Exclusive.same (exclusive : plan.Exclusive d) (tops : result.tops = plan.tops)
    (writes : result.writes.toList = plan.writes.toList) : result.Exclusive d := by
  refine ⟨by rw [tops, exclusive.memories], by rw [Bounded, tops]; exact exclusive.bounded,
    by rw [writes]; exact exclusive.once, ?_⟩
  intro w member
  rw [tops]
  exact exclusive.inside w (by rwa [← Array.mem_toList_iff, ← writes, Array.mem_toList_iff])

theorem Bounded.set (bounded : plan.Bounded d) (known : plan.tops[m]? = some top)
    (fits : 4 ∣ d.biasSize → top ≤ d.biasSize → n ≤ d.biasSize) :
    ({ plan with tops := plan.tops.set m n } : BiasPlan).Bounded d := by
  intro quads other member
  rcases mem_or_eq_of_mem_set member with member | rfl
  · exact bounded quads other member
  · exact fits quads (bounded quads top (mem_of_getElem? known))

theorem Exclusive.raise (exclusive : plan.Exclusive d) (known : plan.tops[m]? = some top) (higher : top ≤ n)
    (fits : 4 ∣ d.biasSize → top ≤ d.biasSize → n ≤ d.biasSize) :
    ({ plan with tops := plan.tops.set m n } : BiasPlan).Exclusive d := by
  refine ⟨by rw [length_set, exclusive.memories], exclusive.bounded.set known fits, exclusive.once, ?_⟩
  intro w member
  obtain ⟨bound, m', top', memory, here, below⟩ := exclusive.inside w member
  refine ⟨bound, m', ?_⟩
  by_cases same : m' = m
  · subst same
    obtain rfl : top' = top := by rw [here, Option.some.injEq] at known; exact known
    have inside := (List.getElem?_eq_some_iff.mp here).1
    exact ⟨n, memory, getElem?_set_self inside, by omega⟩
  · exact ⟨top', memory, by rw [getElem?_set_ne (Ne.symm same), here], below⟩

theorem Exclusive.add (exclusive : plan.Exclusive d) {w : BiasWrite} (memory : w.memory? d = some m)
    (known : plan.tops[m]? = some w.offset) (room : w.offset < d.biasSize) :
    ({ plan with tops := plan.tops.set m (w.offset + 1), writes := plan.writes.push w } : BiasPlan).Exclusive d := by
  have raised := exclusive.raise known (Nat.le_succ w.offset) fun _ _ => room
  have inside := (List.getElem?_eq_some_iff.mp known).1
  refine ⟨raised.memories, raised.bounded, ?_, ?_⟩
  · rw [Array.toList_push, map_append, map_singleton, nodup_append]
    refine ⟨exclusive.once, by simp, ?_⟩
    intro cell member other here same
    obtain ⟨w', earlier, rfl⟩ := mem_map.mp member
    obtain ⟨_, m', top, memory', known', below⟩ := exclusive.inside w' (Array.mem_toList_iff.mp earlier)
    simp only [mem_singleton] at here
    subst here
    simp only [cell, Prod.mk.injEq, memory, memory', Option.some.injEq] at same
    obtain ⟨rfl, offset⟩ := same
    rw [known, Option.some.injEq] at known'
    omega
  · intro w' member
    rcases Array.mem_push.mp member with member | rfl
    · exact raised.inside w' member
    · exact ⟨room, m, w'.offset + 1, memory, getElem?_set_self inside, by omega⟩

structure Prepared (d : Device) (layers : Nat) (plan : BiasPlan) : Prop where
  exclusive : plan.Exclusive d
  size : plan.places.length = layers
  shared : ∀ p ∈ plan.places, ∀ g, p.group ≠ .one g

structure Takes (d : Device) (layer : Nat) (bytes : List (Nat × Option Int)) (before after : BiasPlan) : Prop where
  places : after.places = before.places
  memories : after.tops.length = before.tops.length
  groups : ∀ x ∈ bytes, x.1 < before.tops.length
  writes : ∃ new, after.writes.toList = before.writes.toList ++ new ∧
    new.map content = byteContents layer bytes
  exclusive : before.Exclusive d → after.Exclusive d

theorem Takes.refl (d : Device) (layer : Nat) (plan : BiasPlan) : Takes d layer [] plan plan :=
  ⟨rfl, rfl, by simp, ⟨[], by simp [byteContents]⟩, id⟩

theorem Takes.trans {first second : List (Nat × Option Int)} {a b c : BiasPlan} (taken : Takes d layer first a b)
    (next : Takes d layer second b c) : Takes d layer (first ++ second) a c := by
  obtain ⟨new, written, contents⟩ := taken.writes
  obtain ⟨new', written', contents'⟩ := next.writes
  refine ⟨next.places.trans taken.places, next.memories.trans taken.memories, ?_, ⟨new ++ new', ?_, ?_⟩,
    next.exclusive ∘ taken.exclusive⟩
  · intro x member
    rcases mem_append.mp member with member | member
    · exact taken.groups x member
    · exact taken.memories ▸ next.groups x member
  · rw [written', written, append_assoc]
  · rw [map_append, contents, contents', byteContents, byteContents, byteContents, filterMap_append]

theorem Takes.addByte {group : Nat} {value : Option Int}
    (ran : (addByte d layer group value).run plan = .ok u result) :
    Takes d layer [(group, value)] plan result := by
  obtain ⟨n, known, room, tops, places, writes⟩ := addByte_ok ran
  have memory := (List.getElem?_eq_some_iff.mp known).1
  refine ⟨places, by rw [tops, length_set], ?_, ⟨_, writes, ?_⟩, ?_⟩
  · intro x member
    rw [mem_singleton.mp member]
    exact memory
  · cases value <;> rfl
  · intro exclusive
    cases value with
    | none =>
      apply (exclusive.raise known (Nat.le_succ n) fun _ _ => room).same tops
      simpa using writes
    | some v =>
      rw [exclusive.memories] at memory
      have memory : (⟨layer, group, n, Bits.byte v⟩ : BiasWrite).memory? d = some group := position?_natCast memory
      apply (exclusive.add memory known room).same tops
      simpa using writes

theorem Takes.addBytes (bytes : List (Nat × Option Int))
    (ran : (bytes.forM fun x => BiasStep.addByte d layer x.1 x.2).run plan = .ok u result) :
    Takes d layer bytes plan result := by
  induction bytes generalizing plan with
  | nil =>
    obtain ⟨_, rfl⟩ := pure_ok.mp ran
    exact .refl d layer plan
  | cons byte bytes ih =>
    rw [forM_eq_forM, forM_cons] at ran
    obtain ⟨_, middle, first, ran⟩ := bind_ok.mp ran
    exact (addByte first).trans (ih ran)

end BiasPlan

theorem le_roundUpQuad : n ≤ roundUpQuad n := by
  unfold roundUpQuad
  omega

theorem roundUpQuad_le {n size : Nat} (quads : 4 ∣ size) (inside : n ≤ size) : roundUpQuad n ≤ size := by
  unfold roundUpQuad
  omega

theorem dvd_roundUpQuad : 4 ∣ roundUpQuad n := Nat.dvd_mul_left 4 _

namespace BiasLayer

variable {l : BiasLayer} {d : Device} {s : BiasSettings} {layer n : Nat} {bias : List Int} {before after : BiasPlan}
variable {u : Unit}

theorem groupOffsets_keeps (l : BiasLayer) (d : Device) (layer : Nat) :
    Keeps (BiasPlan.Takes d layer []) (l.groupOffsets d) := by
  unfold groupOffsets
  apply Keeps.mapM (R := BiasPlan.Takes d layer []) (.refl d layer) fun _ _ _ => .trans
  intro group member
  apply Keeps.ite
  · intro before offset after ran
    obtain ⟨top, middle, found, ran⟩ := bind_ok.mp ran
    obtain ⟨known, rfl⟩ := top_ok.mp found
    obtain ⟨m, memory, known⟩ := Option.bind_eq_some_iff.mp known
    obtain ⟨_, _, raised, ran⟩ := bind_ok.mp ran
    obtain rfl := modify_ok.mp raised
    obtain ⟨_, rfl⟩ := pure_ok.mp ran
    refine ⟨rfl, length_set, by simp, ⟨[], by simp [byteContents]⟩, ?_⟩
    intro exclusive
    rw [exclusive.memories, position?_natCast (mem_range.mp member), Option.some.injEq] at memory
    subst memory
    apply exclusive.raise known
    · split
      · exact le_roundUpQuad top
      · exact Nat.le_refl top
    · split
      · exact roundUpQuad_le
      · exact fun _ inside => inside
  · exact .pure (.refl d layer) _

theorem placeByGroup_ok (ran : (l.placeByGroup d layer bias).run before = .ok u after) :
    ∃ offsets bytes, l.groupBytes d bias = .ok bytes ∧
      BiasPlan.Takes d layer bytes
        { before with places := before.places.set layer { offsets, group := .all } } after := by
  obtain ⟨offsets, middle, offset, ran⟩ := bind_ok.mp ran
  obtain ⟨_, _, placed, ran⟩ := bind_ok.mp ran
  obtain rfl := modify_ok.mp placed
  obtain ⟨bytes, _, found, ran⟩ := bind_ok.mp ran
  obtain ⟨ordered, rfl⟩ := lift_ok.mp found
  have raised := groupOffsets_keeps l d layer _ _ _ offset
  have taken := BiasPlan.Takes.addBytes bytes ran
  refine ⟨offsets, bytes, ordered, ?_, taken.memories.trans raised.memories, raised.memories ▸ taken.groups, ?_, ?_⟩
  · rw [taken.places, raised.places]
  · obtain ⟨none, same, contents⟩ := raised.writes
    obtain rfl := map_eq_nil_iff.mp contents
    rw [append_nil] at same
    exact same ▸ taken.writes
  · intro exclusive
    exact taken.exclusive ((raised.exclusive (exclusive.same rfl rfl)).same rfl rfl)

def bound (l : BiasLayer) (s : BiasSettings) (layer : Nat) : Bool :=
  l.hasBias && !(l.groups = 1 && s.quadLayer ≠ some layer)

theorem hasBias_eq (given : l.bias = some bias) : l.hasBias = (l.hasGroups && bias.any (· ≠ 0)) := by
  rw [hasBias, given]

theorem prepare_ok (ran : (l.prepare s layer).run before = .ok u after) :
    (l.bound s layer = false ∧ ∃ warnings, after = { before with warnings }) ∨
      (l.bound s layer = true ∧
        ∃ bias, l.bias = some bias ∧ (l.placeByGroup s.device layer bias).run before = .ok u after) := by
  unfold prepare at ran
  cases given : l.bias with
  | none =>
    rw [given] at ran
    obtain ⟨_, rfl⟩ := pure_ok.mp ran
    exact .inl ⟨by simp [bound, hasBias, given], _, rfl⟩
  | some bias =>
    rw [given] at ran
    dsimp only at ran
    rw [bound, hasBias_eq given]
    cases used : l.hasGroups with
    | false =>
      rw [used] at ran
      obtain ⟨_, rfl⟩ := pure_ok.mp ran
      exact .inl ⟨rfl, _, rfl⟩
    | true =>
      rw [used, if_neg (by decide)] at ran
      obtain ⟨_, ran⟩ := refuse_ok ran
      cases differs : bias.any (· ≠ 0) with
      | false =>
        rw [differs] at ran
        obtain ⟨_, _, warned, ran⟩ := bind_ok.mp ran
        obtain rfl := modify_ok.mp warned
        obtain ⟨_, rfl⟩ := pure_ok.mp ran
        exact .inl ⟨rfl, _, rfl⟩
      | true =>
        rw [differs, if_neg (by decide)] at ran
        cases free : decide (l.groups = 1) && decide (s.quadLayer ≠ some layer) with
        | true =>
          rw [free] at ran
          obtain ⟨_, rfl⟩ := pure_ok.mp ran
          exact .inl ⟨rfl, _, rfl⟩
        | false =>
          rw [free, if_neg (by decide)] at ran
          exact .inr ⟨rfl, bias, rfl, ran⟩

def groupContents (l : BiasLayer) (s : BiasSettings) (layer : Nat) : List (Nat × Int × Int) :=
  if l.bound s layer then
    match l.groupBytes s.device (l.bias.getD []) with
    | .ok bytes => byteContents layer bytes
    | .error _ => []
  else []

def Grouped (l : BiasLayer) (s : BiasSettings) (layer : Nat) : Prop :=
  l.bound s layer = true → ∃ bytes, l.groupBytes s.device (l.bias.getD []) = .ok bytes ∧
    ∀ x ∈ bytes, x.1 < s.device.groups

theorem prepare_spec (ran : (l.prepare s layer).run before = .ok u after) :
    (before.Prepared s.device layers → after.Prepared s.device layers ∧ l.Grouped s layer) ∧
      ∃ new, after.writes.toList = before.writes.toList ++ new ∧
        new.map content = l.groupContents s layer := by
  rw [groupContents]
  rcases prepare_ok ran with ⟨free, warnings, rfl⟩ | ⟨bound, bias, given, ran⟩
  · rw [free]
    refine ⟨?_, [], by simp⟩
    intro prepared
    exact ⟨⟨prepared.exclusive.same rfl rfl, prepared.size, prepared.shared⟩, fun bound => by simp [free] at bound⟩
  · obtain ⟨offsets, bytes, ordered, taken⟩ := placeByGroup_ok ran
    rw [bound, given, Option.getD_some, ordered]
    refine ⟨?_, taken.writes⟩
    intro prepared
    have groups : l.Grouped s layer := by
      intro _
      refine ⟨bytes, by rw [given, Option.getD_some, ordered], ?_⟩
      exact prepared.exclusive.memories ▸ taken.groups
    refine ⟨⟨taken.exclusive (prepared.exclusive.same rfl rfl), ?_, ?_⟩, groups⟩
    · rw [taken.places, length_set, prepared.size]
    · intro p member g
      rw [taken.places] at member
      rcases mem_or_eq_of_mem_set member with member | rfl
      · exact prepared.shared p member g
      · exact BiasGroup.noConfusion

theorem prepareAll_spec (ran : (numbered.forM fun x => x.1.prepare s x.2).run before = .ok u after) :
    (before.Prepared s.device layers →
      after.Prepared s.device layers ∧ ∀ x ∈ numbered, x.1.Grouped s x.2) ∧
      ∃ new, after.writes.toList = before.writes.toList ++ new ∧
        new.map content = numbered.flatMap fun x => x.1.groupContents s x.2 := by
  induction numbered generalizing before with
  | nil =>
    obtain ⟨_, rfl⟩ := pure_ok.mp ran
    exact ⟨fun prepared => ⟨prepared, by simp⟩, [], by simp⟩
  | cons x numbered ih =>
    rw [forM_eq_forM, forM_cons] at ran
    obtain ⟨_, middle, first, ran⟩ := bind_ok.mp ran
    obtain ⟨kept, new, written, contents⟩ := prepare_spec layers first
    obtain ⟨kept', new', written', contents'⟩ := ih ran
    refine ⟨?_, new ++ new', ?_, ?_⟩
    · intro prepared
      obtain ⟨prepared, grouped⟩ := kept prepared
      obtain ⟨prepared, others⟩ := kept' prepared
      exact ⟨prepared, forall_mem_cons.mpr ⟨grouped, others⟩⟩
    · rw [written', written, append_assoc]
    · rw [map_append, contents, contents', flatMap_cons]

end BiasLayer

theorem Bits.argMin_go {ys : List Int} {k best : Nat} {value : Int} {xs : List Int}
    (known : xs[best]? = some value) (rest : xs.drop k = ys) (least : ∀ y ∈ xs.take k, value ≤ y) :
    ∃ x, xs[argMin.go ys k best value]? = some x ∧ ∀ y ∈ xs, x ≤ y := by
  induction ys generalizing k best value with
  | nil =>
    refine ⟨value, known, ?_⟩
    intro y member
    apply least
    rw [← take_append_drop k xs, rest, append_nil] at member
    exact member
  | cons y ys ih =>
    have here : xs[k]? = some y := by rw [← head?_drop, rest, head?_cons]
    have next : xs.drop (k + 1) = ys := by rw [← tail_drop, rest, tail_cons]
    have seen : ∀ z ∈ xs.take (k + 1), z = y ∨ value ≤ z := by
      intro z member
      rw [take_add_one, here, mem_append] at member
      rcases member with member | member
      · exact .inr (least z member)
      · exact .inl (by simpa using member)
    rw [argMin.go]
    by_cases less : y < value
    · rw [if_pos less]
      apply ih here next
      intro z member
      rcases seen z member with rfl | above <;> omega
    · rw [if_neg less]
      apply ih known next
      intro z member
      rcases seen z member with rfl | above <;> omega

theorem Bits.argMin_spec {xs : List Int} {i : Nat} (found : argMin xs = some i) :
    ∃ x, xs[i]? = some x ∧ ∀ y ∈ xs, x ≤ y := by
  cases xs with
  | nil => cases found
  | cons x xs =>
    obtain rfl := Option.some.inj found
    apply argMin_go (by simp) (by simp)
    simp

namespace BiasRequest

variable {r : BiasRequest} {d : Device} {before after : BiasPlan}

theorem le_align (r : BiasRequest) (top : Nat) : top ≤ r.align top := by
  unfold align
  split
  · exact le_roundUpQuad top
  · exact Nat.le_refl top

theorem dvd_align (interleaved : r.interleaved = true) (top : Nat) : 4 ∣ r.align top := by
  rw [align, interleaved, if_pos rfl]
  exact dvd_roundUpQuad top

theorem best_spec {tops : List Nat} {i : Nat} (known : r.groups.map before.top? = tops.map some)
    (found : Bits.argMin ((tops.map r.align).map Int.ofNat) = some i) :
    ∃ top, r.groups.getD i 0 ∈ r.groups ∧ before.top? (r.groups.getD i 0) = some top ∧
      (tops.map r.align).getD i 0 = r.align top ∧
      ∀ g ∈ r.groups, ∃ n, before.top? g = some n ∧ r.align top ≤ r.align n := by
  obtain ⟨x, here, least⟩ := Bits.argMin_spec found
  obtain ⟨top, chosen, rfl⟩ : ∃ top, tops[i]? = some top ∧ Int.ofNat (r.align top) = x := by
    simpa using here
  have group : (r.groups.map before.top?)[i]? = some (some top) := by simp [known, chosen]
  obtain ⟨g, listed, at_top⟩ : ∃ g, r.groups[i]? = some g ∧ before.top? g = some top := by simpa using group
  have same : r.groups.getD i 0 = g := by simp [listed]
  rw [same]
  refine ⟨top, mem_of_getElem? listed, at_top, by simp [chosen], ?_⟩
  intro g' member
  have member : before.top? g' ∈ tops.map some := known ▸ mem_map_of_mem member
  obtain ⟨n, used, same⟩ := mem_map.mp member
  refine ⟨n, same.symm, ?_⟩
  have le := least (Int.ofNat (r.align n)) (mem_map_of_mem (mem_map_of_mem used))
  exact Int.ofNat_le.mp le

theorem place_ok {u : Unit} (memories : before.tops.length = d.groups)
    (ran : (r.place d).run before = .ok u after) :
    ∃ group m top, group ∈ r.groups ∧ position? d.groups group = some m ∧ before.tops[m]? = some top ∧
      r.align top + r.length ≤ d.biasSize ∧
      after = { before with tops := before.tops.set m (r.align top + r.length),
                            places := before.places.set r.layer (.single d group (r.align top)) } := by
  unfold place at ran
  obtain ⟨tops, _, read, ran⟩ := bind_ok.mp ran
  obtain ⟨known, rfl⟩ := tops_ok read
  dsimp only at ran
  cases best : Bits.argMin ((tops.map r.align).map Int.ofNat) with
  | none =>
    rw [best] at ran
    exact (throw_ok.mp ran).elim
  | some i =>
    rw [best] at ran
    obtain ⟨top, listed, used, start, _⟩ := best_spec known best
    obtain ⟨m, memory, here⟩ := Option.bind_eq_some_iff.mp used
    obtain ⟨_, _, got, ran⟩ := bind_ok.mp ran
    obtain ⟨rfl, rfl⟩ := get_ok.mp got
    rw [start, memory, Option.getD_some] at ran
    obtain ⟨_, _, raised, ran⟩ := bind_ok.mp ran
    obtain rfl := modify_ok.mp raised
    by_cases full : r.align top + r.length > d.biasSize
    · rw [if_pos full] at ran
      obtain ⟨_, _, _, ran⟩ := bind_ok.mp ran
      obtain ⟨_, _, stopped, _⟩ := bind_ok.mp ran
      exact (throw_ok.mp stopped).elim
    · rw [if_neg full] at ran
      obtain ⟨_, _, placed, ran⟩ := bind_ok.mp ran
      obtain rfl := modify_ok.mp placed
      obtain rfl := modify_ok.mp ran
      rw [memories] at memory
      exact ⟨_, m, top, listed, memory, here, by omega, by rw [set_set]⟩

end BiasRequest

structure BiasGrant where
  request : BiasRequest
  group : Int
  memory : Nat
  offset : Nat

namespace BiasGrant

variable {d : Device} {first plan result : BiasPlan} {given : List BiasGrant} {g h : BiasGrant}

/-- The block is above everything that was in its memory before, and the place of the layer says where it is. -/
structure Valid (d : Device) (first plan : BiasPlan) (g : BiasGrant) : Prop where
  listed : g.group ∈ g.request.groups
  memory : position? d.groups g.group = some g.memory
  above : ∃ top, first.tops[g.memory]? = some top ∧ top ≤ g.offset
  below : ∃ top, plan.tops[g.memory]? = some top ∧ g.offset + g.request.length ≤ top
  room : g.offset + g.request.length ≤ d.biasSize
  aligned : g.request.interleaved = true → 4 ∣ g.offset
  place : plan.places[g.request.layer]? = some (.single d g.group g.offset)

def Apart (g h : BiasGrant) : Prop :=
  g.memory = h.memory → g.offset + g.request.length ≤ h.offset ∨ h.offset + h.request.length ≤ g.offset

instance : Std.Symm Apart := ⟨fun _ _ apart same => (apart same.symm).symm⟩

/-- Requests get blocks one after the other. -/
structure Reserved (d : Device) (first : BiasPlan) (given : List BiasGrant) (plan : BiasPlan) : Prop where
  memories : plan.tops.length = d.groups
  tops : first.tops.length = d.groups
  bounded : plan.Bounded d
  size : plan.places.length = first.places.length
  writes : plan.writes = first.writes
  grown : ∀ m top : Nat, first.tops[m]? = some top → ∃ top', plan.tops[m]? = some top' ∧ top ≤ top'
  valid : ∀ g ∈ given, g.Valid d first plan
  apart : given.Pairwise Apart
  others : ∀ layer, (∀ g ∈ given, g.request.layer ≠ layer) → plan.places[layer]? = first.places[layer]?

theorem Reserved.start (exclusive : plan.Exclusive d) : Reserved d plan [] plan := by
  refine ⟨exclusive.memories, exclusive.memories, exclusive.bounded, rfl, rfl, ?_, by simp, .nil, fun _ _ => rfl⟩
  intro m top known
  exact ⟨top, known, Nat.le_refl top⟩

theorem Reserved.place (reserved : Reserved d first given plan) {r : BiasRequest} {u : Unit}
    (fresh : ∀ g ∈ given, g.request.layer ≠ r.layer) (inside : r.layer < first.places.length)
    (ran : (r.place d).run plan = .ok u result) :
    ∃ g, g.request = r ∧ Reserved d first (given ++ [g]) result := by
  obtain ⟨group, m, top, listed, memory, here, room, rfl⟩ := BiasRequest.place_ok reserved.memories ran
  have start := r.le_align top
  have in_tops := (List.getElem?_eq_some_iff.mp here).1
  have raised : ∀ m' top' : Nat, plan.tops[m']? = some top' →
      ∃ top'', (plan.tops.set m (r.align top + r.length))[m']? = some top'' ∧ top' ≤ top'' := by
    intro m' top' known
    by_cases same : m' = m
    · subst same
      obtain rfl : top' = top := by rw [known, Option.some.injEq] at here; exact here
      exact ⟨_, getElem?_set_self in_tops, by omega⟩
    · exact ⟨top', by rw [getElem?_set_ne (Ne.symm same), known], Nat.le_refl _⟩
  refine ⟨⟨r, group, m, r.align top⟩, rfl, ?_⟩
  refine ⟨by rw [length_set, reserved.memories], reserved.tops, reserved.bounded.set here fun _ _ => room,
    by rw [length_set, reserved.size], reserved.writes, ?_, ?_, ?_, ?_⟩
  · intro m' top' known
    obtain ⟨mid, known, le⟩ := reserved.grown m' top' known
    obtain ⟨last, known, le'⟩ := raised m' mid known
    exact ⟨last, known, by omega⟩
  · intro g member
    rcases mem_append.mp member with member | member
    · obtain ⟨top', known, le⟩ := (reserved.valid g member).below
      obtain ⟨last, known, le'⟩ := raised g.memory top' known
      have valid := reserved.valid g member
      refine ⟨valid.listed, valid.memory, valid.above, ⟨last, known, by omega⟩, valid.room, valid.aligned, ?_⟩
      rw [getElem?_set_ne (Ne.symm (fresh g member)), valid.place]
    · obtain rfl := mem_singleton.mp member
      obtain ⟨low, known⟩ : ∃ low, first.tops[m]? = some low := by
        rw [reserved.memories, ← reserved.tops] at in_tops
        exact ⟨_, getElem?_eq_getElem in_tops⟩
      obtain ⟨mid, known', le⟩ := reserved.grown m low known
      rw [here, Option.some.injEq] at known'
      have above : low ≤ r.align top := by omega
      refine ⟨listed, memory, ⟨low, known, above⟩, ⟨_, getElem?_set_self in_tops, Nat.le_refl _⟩, room,
        fun interleaved => BiasRequest.dvd_align interleaved top, ?_⟩
      rw [getElem?_set_self (by rw [reserved.size]; exact inside)]
  · rw [pairwise_append]
    refine ⟨reserved.apart, by simp, ?_⟩
    intro g member h last same
    obtain rfl := mem_singleton.mp last
    obtain ⟨top', known, le⟩ := (reserved.valid g member).below
    rw [show g.memory = m from same, here, Option.some.injEq] at known
    left
    change g.offset + g.request.length ≤ r.align top
    omega
  · intro layer other
    have apart : r.layer ≠ layer := other ⟨r, group, m, r.align top⟩ (by simp)
    rw [getElem?_set_ne apart]
    exact reserved.others layer fun g member => other g (by simp [member])

theorem Reserved.placeAll (reserved : Reserved d first given plan) (requests : List BiasRequest) {u : Unit}
    (distinct : (given.map (·.request.layer) ++ requests.map (·.layer)).Nodup)
    (inside : ∀ r ∈ requests, r.layer < first.places.length)
    (ran : (requests.forM fun r => r.place d).run plan = .ok u result) :
    ∃ more, more.map (·.request) = requests ∧ Reserved d first (given ++ more) result := by
  induction requests generalizing plan given with
  | nil =>
    obtain ⟨_, rfl⟩ := pure_ok.mp ran
    exact ⟨[], rfl, by rwa [append_nil]⟩
  | cons r requests ih =>
    rw [forM_eq_forM, forM_cons] at ran
    obtain ⟨_, middle, placed, rest⟩ := bind_ok.mp ran
    have fresh : ∀ g ∈ given, g.request.layer ≠ r.layer := by
      intro g member same
      rw [nodup_append] at distinct
      exact distinct.2.2 _ (mem_map_of_mem member) r.layer (by simp) same
    obtain ⟨g, rfl, reserved⟩ := reserved.place fresh (inside r (by simp)) placed
    obtain ⟨more, same, reserved⟩ := ih reserved (by simpa using distinct)
      (fun r member => inside r (by simp [member])) rest
    exact ⟨g :: more, by rw [map_cons, same], by simpa using reserved⟩

end BiasGrant

namespace BiasLayer

variable {l : BiasLayer} {d : Device} {s : BiasSettings} {layer : Nat} {bias : List Int} {before after : BiasPlan}
variable {u : Unit} {grant : Option BiasGrant}

theorem request?_eq_some {r : BiasRequest} (asked : l.request? s layer = some r) :
    ∃ bias, l.bias = some bias ∧ l.hasBias = true ∧ l.groups = 1 ∧ s.quadLayer ≠ some layer ∧ r =
      { layer, groups := l.allowedGroups.getD s.groupsUsed,
        length := bias.length + l.lead s.device + if l.needsGap s.device layer then 1 else 0,
        interleaved := l.interleaved } := by
  obtain ⟨bias, given, asked⟩ := Option.bind_eq_some_iff.mp asked
  dsimp only at asked
  split at asked
  · rename_i free
    simp only [Bool.and_eq_true, decide_eq_true_eq] at free
    exact ⟨bias, given, free.1.1, free.1.2, free.2, (Option.some.inj asked).symm⟩
  · cases asked

def blockWrites (l : BiasLayer) (d : Device) (layer : Nat) : Option BiasGrant → List BiasWrite
  | some g => (l.values d layer (l.bias.getD [])).map fun x => ⟨layer, g.group, g.offset + x.1, Bits.byte x.2⟩
  | none => []

/-- The grant of a layer has its request, and the place of the layer says where the block is. -/
def Served (l : BiasLayer) (s : BiasSettings) (layer : Nat) (places : List BiasPlace) : Option BiasGrant → Prop
  | some g => l.request? s layer = some g.request ∧ places[layer]? = some (.single s.device g.group g.offset) ∧
    position? s.device.groups g.group = some g.memory
  | none => l.request? s layer = none ∧ ∀ group, (places.getD layer default).group ≠ .one group

theorem writes_ok {group : Int} {offset : Nat} (values : List (Nat × Int))
    (ran : (values.forM fun x => write layer group (offset + x.1) x.2).run before = .ok u after) :
    after.tops = before.tops ∧ after.places = before.places ∧ after.writes.toList = before.writes.toList ++
      values.map fun x => ⟨layer, group, offset + x.1, Bits.byte x.2⟩ := by
  induction values generalizing before with
  | nil =>
    obtain ⟨_, rfl⟩ := pure_ok.mp ran
    simp
  | cons x values ih =>
    rw [forM_eq_forM, forM_cons] at ran
    obtain ⟨_, _, written, ran⟩ := bind_ok.mp ran
    obtain rfl := modify_ok.mp written
    obtain ⟨tops, places, writes⟩ := ih ran
    exact ⟨tops, places, by simp [writes]⟩

theorem writeBlock_ok (given : l.bias = some bias) (served : l.Served s layer before.places grant)
    (ran : (l.writeBlock s.device layer bias).run before = .ok u after) :
    after.tops = before.tops ∧ after.places = before.places ∧
      after.writes.toList = before.writes.toList ++ l.blockWrites s.device layer grant := by
  obtain ⟨_, _, got, ran⟩ := bind_ok.mp ran
  obtain ⟨rfl, rfl⟩ := get_ok.mp got
  dsimp only at ran
  cases grant with
  | none =>
    cases place : (before.places.getD layer default).group with
    | one group => exact absurd place (served.2 group)
    | none =>
      rw [place] at ran
      exact (throw_ok.mp ran).elim
    | all =>
      rw [place] at ran
      exact (throw_ok.mp ran).elim
  | some g =>
    have place : before.places.getD layer default = .single s.device g.group g.offset := by
      rw [getD_eq_getElem?_getD, served.2.1, Option.getD_some]
    have inside := position?_lt served.2.2
    rw [place, BiasPlace.single] at ran
    dsimp only at ran
    have start : (replicate s.device.groups (some (g.offset : Int))).getD g.memory none = some (g.offset : Int) := by
      simp [inside]
    rw [served.2.2, Option.getD_some, start] at ran
    obtain ⟨tops, places, writes⟩ := writes_ok _ ran
    refine ⟨tops, places, ?_⟩
    rw [writes, blockWrites, given]
    rfl

theorem writeValues_ok (served : l.Served s layer before.places grant)
    (ran : (l.writeValues s layer).run before = .ok u after) : after.tops = before.tops ∧ after.places = before.places ∧
      after.writes.toList = before.writes.toList ++ l.blockWrites s.device layer grant := by
  have silent : l.request? s layer = none → before = after → after.tops = before.tops ∧ after.places = before.places ∧
      after.writes.toList = before.writes.toList ++ l.blockWrites s.device layer grant := by
    rintro unasked rfl
    cases grant with
    | none => simp [blockWrites]
    | some g => cases unasked.symm.trans served.1
  unfold writeValues at ran
  cases given : l.bias with
  | none =>
    rw [given] at ran
    exact silent (by simp [request?, given]) (pure_ok.mp ran).2
  | some bias =>
    rw [given] at ran
    dsimp only at ran
    split at ran
    · rename_i idle
      refine silent ?_ (pure_ok.mp ran).2
      cases asked : l.request? s layer with
      | none => rfl
      | some r =>
        obtain ⟨_, _, biased, single, free, _⟩ := request?_eq_some asked
        simp [biased, single, free] at idle
    · split at ran
      · obtain ⟨_, _, warned, ran⟩ := bind_ok.mp ran
        obtain rfl := modify_ok.mp warned
        have written := writeBlock_ok given (by exact served) ran
        exact written
      · exact writeBlock_ok given served ran

theorem writeAll_ok {grant : Nat → Option BiasGrant}
    (served : ∀ x ∈ numbered, x.1.Served s x.2 before.places (grant x.2))
    (ran : (numbered.forM fun x => x.1.writeValues s x.2).run before = .ok u after) :
    after.tops = before.tops ∧ after.places = before.places ∧ after.writes.toList = before.writes.toList ++
      numbered.flatMap fun x => x.1.blockWrites s.device x.2 (grant x.2) := by
  induction numbered generalizing before with
  | nil =>
    obtain ⟨_, rfl⟩ := pure_ok.mp ran
    simp
  | cons x numbered ih =>
    rw [forM_eq_forM, forM_cons] at ran
    obtain ⟨_, middle, first, ran⟩ := bind_ok.mp ran
    obtain ⟨tops, places, writes⟩ := writeValues_ok (served x (by simp)) first
    obtain ⟨tops', places', writes'⟩ := ih (fun y member => places ▸ served y (by simp [member])) ran
    exact ⟨tops'.trans tops, places'.trans places, by simp [writes', writes]⟩

theorem values_offsets (l : BiasLayer) (d : Device) (layer : Nat) (bias : List Int) :
    ((l.values d layer bias).map Prod.fst).Nodup ∧
      ∀ x ∈ l.values d layer bias, x.1 < bias.length + l.lead d + if l.needsGap d layer then 1 else 0 := by
  have offsets : ∀ start, (bias.zipIdx.map fun x : Int × Nat => (start + x.2, x.1)).map Prod.fst =
      (range bias.length).map (start + ·) := by
    intro start
    rw [map_map, range_eq_range', ← zipIdx_map_snd, map_map]
    rfl
  have distinct : ∀ start, ((range bias.length).map (start + ·)).Nodup := by
    intro start
    exact nodup_range.map fun a b same => by omega
  refine ⟨?_, ?_⟩
  · rw [values, map_append, offsets, map_replicate]
    split
    · rw [replicate_one, singleton_append, nodup_cons]
      refine ⟨?_, distinct _⟩
      simp only [mem_map, not_exists, not_and]
      intro i _ same
      omega
    · exact distinct _
  · intro x member
    rcases mem_append.mp member with member | member
    · obtain ⟨some_gap, rfl⟩ := mem_replicate.mp member
      dsimp only
      omega
    · obtain ⟨⟨b, i⟩, here, rfl⟩ := mem_map.mp member
      have inside : i < bias.length := by
        have found := mem_zipIdx_iff_getElem?.mp here
        exact (List.getElem?_eq_some_iff.mp found).1
      dsimp only
      omega

theorem blockWrites_inside {g : BiasGrant} (asked : l.request? s layer = some g.request)
    (memory : position? s.device.groups g.group = some g.memory) {w : BiasWrite}
    (member : w ∈ l.blockWrites s.device layer (some g)) :
    w.memory? s.device = some g.memory ∧ g.offset ≤ w.offset ∧ w.offset < g.offset + g.request.length := by
  obtain ⟨bias, given, _, _, _, request⟩ := request?_eq_some asked
  rw [blockWrites, given, Option.getD_some] at member
  obtain ⟨x, here, rfl⟩ := mem_map.mp member
  have bound := (l.values_offsets s.device layer bias).2 x here
  rw [request]
  refine ⟨memory, Nat.le_add_right _ _, ?_⟩
  exact Nat.add_lt_add_left bound _

theorem blockWrites_once (l : BiasLayer) (d : Device) (layer : Nat) (grant : Option BiasGrant) :
    ((l.blockWrites d layer grant).map (cell d)).Nodup := by
  cases grant with
  | none => exact nodup_nil
  | some g =>
    have distinct := (l.values_offsets d layer (l.bias.getD [])).1
    rw [blockWrites, map_map]
    have cells : (l.values d layer (l.bias.getD [])).map
        (cell d ∘ fun x => ⟨layer, g.group, g.offset + x.1, Bits.byte x.2⟩) =
        ((l.values d layer (l.bias.getD [])).map Prod.fst).map fun o => (position? d.groups g.group, g.offset + o) := by
      rw [map_map]
      rfl
    rw [cells]
    apply distinct.map
    intro a b same
    simpa using same

end BiasLayer

end CnnForge
