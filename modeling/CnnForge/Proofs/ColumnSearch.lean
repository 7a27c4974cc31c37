import CnnForge.Device.Catalog
import CnnForge.KernelMemory.Packing
import CnnForge.Proofs.Outcome
import Mathlib

namespace CnnForge

open List

variable {processors : List Nat} {c : Nat}

namespace SearchSpace

variable {s : SearchSpace} {processors left : List Nat} {p column i n : Nat}

/-- Processor `p` has all columns free that the layer takes from `column` on. -/
def Free (s : SearchSpace) (p column : Nat) : Prop :=
  ∀ i, column ≤ i → (i : Int) < column + s.length → s.taken p i = false

/-- A candidate from which all processors have their columns free. -/
def Suits (s : SearchSpace) (processors : List Nat) (column : Nat) : Prop :=
  s.step ∣ column ∧ ∀ p ∈ processors, s.Free p column

def FirstFit (s : SearchSpace) (processors : List Nat) (column : Nat) : Prop :=
  s.Suits processors column ∧ ∀ c < column, ¬ s.Suits processors c

theorem firstTaken_none (h : s.firstTaken p n column = .ok none) :
    ∀ i, column ≤ i → i < column + n → s.taken p i = false := by
  induction n generalizing column with
  | zero => omega
  | succ n ih =>
    unfold firstTaken at h
    split at h
    · split at h
      · cases h
      · rename_i _ untaken
        intro i above below
        by_cases first : i = column
        · subst first
          exact Bool.eq_false_iff.mpr untaken
        · exact ih h i (by omega) (by omega)
    · cases h

theorem firstTaken_some (h : s.firstTaken p n column = .ok (some i)) : i < column + n ∧ s.taken p i = true := by
  induction n generalizing column with
  | zero => cases h
  | succ n ih =>
    unfold firstTaken at h
    split at h
    · split at h
      · rename_i _ taken
        cases h
        exact ⟨by omega, taken⟩
      · have rest := ih h
        exact ⟨by omega, rest.2⟩
    · cases h

theorem firstTaken_error {e : SearchEnd} (h : s.firstTaken p n column = .error e) :
    e = .outside ∧ s.columns < column + n := by
  induction n generalizing column with
  | zero => cases h
  | succ n ih =>
    unfold firstTaken at h
    split at h
    · split at h
      · cases h
      · have rest := ih h
        exact ⟨rest.1, by omega⟩
    · cases h
      exact ⟨rfl, by omega⟩

theorem not_suits (member : p ∈ processors) (taken : s.taken p i = true) (above : column ≤ i)
    (below : (i : Int) < column + s.length) : ¬ s.Suits processors column := by
  intro suits
  have free := suits.2 p member i above below
  rw [taken] at free
  cases free

theorem roundUp_dvd (step n : Nat) : step ∣ roundUp step n := Nat.dvd_mul_left _ _

theorem lt_of_lt_roundUp {step : Nat} (positive : 0 < step) (multiple : step ∣ c) (less : c < roundUp step n) :
    c < n := by
  obtain ⟨k, rfl⟩ := multiple
  unfold roundUp at less
  rw [Nat.mul_comm _ step] at less
  have few : k < (n + step - 1) / step := Nat.lt_of_mul_lt_mul_left less
  have bound := (Nat.le_div_iff_mul_le positive).mp (Nat.succ_le_of_lt few)
  rw [Nat.succ_mul, Nat.mul_comm] at bound
  omega

/-- The processors have the same candidates taken. -/
def Agree (s : SearchSpace) (processors : List Nat) : Prop :=
  ∀ p ∈ processors, ∀ q ∈ processors, ∀ c, s.step ∣ c → s.taken p c = s.taken q c

/-- Visit `v` of a processor comes after `u` at the first candidate that is not taken for it. -/
def Follows (s : SearchSpace) (u v : Nat × Nat) : Prop :=
  u.2 ≤ v.2 ∧ ∀ c, u.2 ≤ c → c < v.2 → s.step ∣ c → s.taken v.1 c = true

/-- The middle of a search: the processors of `visits` had room from the column that stands with each of them, and no
candidate before `column` suits all processors. -/
structure Searching (s : SearchSpace) (processors : List Nat) (visits : List (Nat × Nat)) (left : List Nat)
    (column : Nat) : Prop where
  split : processors = visits.map Prod.fst ++ left
  rooms : ∀ v ∈ visits, s.Free v.1 v.2
  chain : visits.IsChain s.Follows
  pending : ∀ u ∈ visits.getLast?, ∀ p ∈ left.head?, s.Follows u (p, column)
  before : ∀ v ∈ visits, v.2 ≤ column
  multiple : s.step ∣ column
  earlier : ∀ c < column, ¬ s.Suits processors c
  together : s.Agree processors → ∀ v ∈ visits, v.2 = column
  latest : left = [] → processors = [] ∨ ∃ p, visits.getLast? = some (p, column)

namespace Searching

theorem start (s : SearchSpace) (processors : List Nat) : s.Searching processors [] processors 0 :=
  ⟨rfl, by simp, .nil, by simp, by simp, Nat.dvd_zero _, by simp, by simp, .inl⟩

variable {visits : List (Nat × Nat)}

section

variable (state : s.Searching processors visits (p :: left) column)
include state

theorem mem_processors : p ∈ processors := by
  rw [state.split]
  simp

theorem skip (some_columns : 0 < s.length)
    (taken : s.taken p column = true) : s.Searching processors visits (p :: left) (column + s.step) := by
  have next : ∀ c, c < column + s.step → s.step ∣ c → c ≤ column := by
    intro c less multiple
    by_cases above : column < c
    · have distance := Nat.le_of_dvd (by omega) (Nat.dvd_sub multiple state.multiple)
      omega
    · omega
  refine ⟨state.split, state.rooms, state.chain, ?_, ?_, Nat.dvd_add state.multiple (Nat.dvd_refl _), ?_, ?_, nofun⟩
  · intro u last q head
    obtain rfl : p = q := by simpa using head
    obtain ⟨ascending, passed⟩ := state.pending u last p (by simp)
    refine ⟨Nat.le_add_right_of_le ascending, ?_⟩
    intro c above less multiple
    rcases Nat.lt_or_eq_of_le (next c less multiple) with earlier | rfl
    · exact passed c above earlier multiple
    · exact taken
  · intro v member
    exact Nat.le_add_right_of_le (state.before v member)
  · intro c less suits
    rcases Nat.lt_or_eq_of_le (next c less suits.1) with earlier | rfl
    · exact state.earlier c earlier suits
    · exact not_suits state.mem_processors taken (Nat.le_refl c) (by omega) suits
  · intro agree v member
    have room := state.rooms v member
    rw [state.together agree v member] at room
    have inside : v.1 ∈ processors := by
      rw [state.split]
      exact mem_append_left _ (mem_map_of_mem member)
    have free := room column (Nat.le_refl _) (by omega)
    rw [agree v.1 inside p state.mem_processors column state.multiple, taken] at free
    cases free

theorem restart
    (below : (i : Int) < column + s.length) (taken : s.taken p i = true) :
    s.Searching processors [] processors (roundUp s.step (i + 1)) := by
  refine ⟨rfl, by simp, .nil, by simp, by simp, roundUp_dvd _ _, ?_, by simp, .inl⟩
  intro c less suits
  by_cases earlier : c < column
  · exact state.earlier c earlier suits
  · have reached := lt_of_lt_roundUp s.step_pos suits.1 less
    exact not_suits state.mem_processors taken (by omega) (by omega) suits

theorem pass (room : s.Free p column) :
    s.Searching processors (visits ++ [(p, column)]) left column := by
  refine ⟨?_, ?_, ?_, ?_, ?_, state.multiple, state.earlier, ?_, ?_⟩
  · rw [state.split]
    simp
  · intro v member
    rcases mem_append.mp member with earlier | here
    · exact state.rooms v earlier
    · cases mem_singleton.mp here
      exact room
  · rw [isChain_append]
    refine ⟨state.chain, .singleton _, ?_⟩
    intro u last v head
    obtain rfl : (p, column) = v := by simpa using head
    exact state.pending u last p (by simp)
  · intro u last q head
    obtain rfl : (p, column) = u := by simpa using last
    exact ⟨Nat.le_refl column, fun c above less => absurd above (Nat.not_le_of_lt less)⟩
  · intro v member
    rcases mem_append.mp member with earlier | here
    · exact state.before v earlier
    · cases mem_singleton.mp here
      exact Nat.le_refl column
  · intro agree v member
    rcases mem_append.mp member with earlier | here
    · exact state.together agree v earlier
    · cases mem_singleton.mp here
      rfl
  · intro _
    exact .inr ⟨p, by simp⟩

end

theorem none_fits (state : s.Searching processors visits left column) {width : Nat}
    (full : (width : Int) < column + s.length) (suits : s.Suits processors c) : (width : Int) < c + s.length := by
  have reached : column ≤ c := by
    by_cases earlier : c < column
    · exact absurd suits (state.earlier c earlier)
    · omega
  omega

variable (state : s.Searching processors visits [] column)
include state

/-- The column that a search ends with is the first one that suits all processors unless a processor that had room at
an earlier candidate has none here. -/
theorem firstFit_iff :
    s.FirstFit processors column ↔ ∀ v ∈ visits, v.2 < column → s.Free v.1 column := by
  have all : processors = visits.map Prod.fst := by simpa using state.split
  constructor
  · rintro ⟨suits, _⟩ v member _
    apply suits.2
    rw [all]
    exact mem_map_of_mem member
  · intro rooms
    refine ⟨⟨state.multiple, ?_⟩, state.earlier⟩
    intro p member
    rw [all] at member
    obtain ⟨v, visited, rfl⟩ := mem_map.mp member
    by_cases earlier : v.2 < column
    · exact rooms v visited earlier
    · have same : v.2 = column := Nat.le_antisymm (state.before v visited) (by omega)
      rw [← same]
      exact state.rooms v visited

theorem firstFit_of_agree (agree : s.Agree processors) :
    s.FirstFit processors column := by
  rw [state.firstFit_iff]
  intro v member less
  have same := state.together agree v member
  omega

end Searching

def Ended (s : SearchSpace) (processors : List Nat) : Except SearchEnd Nat → Prop
  | .ok column => ∃ visits, s.Searching processors visits [] column
  | .error (.exhausted _) => ∃ p ∈ processors, ∀ c, s.Suits processors c → (s.width p : Int) < c + s.length
  | .error .outside => ∀ c, s.Suits processors c → (s.columns : Int) < c + s.length

theorem search_untaken (inside : column < s.columns) (untaken : ¬ s.taken p column = true) :
    s.search processors (p :: left) column =
      match s.firstTaken p (s.length - 1).toNat (column + 1) with
      | .error e => .error e
      | .ok none => s.search processors left column
      | .ok (some i) =>
        if s.fits p (roundUp s.step (i + 1)) then s.search processors processors (roundUp s.step (i + 1))
        else .error (.exhausted (roundUp s.step (i + 1))) := by
  rw [search, if_pos inside, if_neg untaken]
  split <;> rename_i found <;> rw [found]

theorem search_ended (some_columns : 0 < s.length) (left : List Nat) (column : Nat) (visits : List (Nat × Nat))
    (state : s.Searching processors visits left column) : s.Ended processors (s.search processors left column) := by
  induction left, column using search.induct s processors generalizing visits with
  | case1 column =>
    rw [search]
    exact ⟨visits, state⟩
  | case2 p left column inside taken fits ih =>
    rw [search, if_pos inside, if_pos taken, if_pos fits]
    exact ih visits (state.skip some_columns taken)
  | case3 p left column inside taken full =>
    rw [search, if_pos inside, if_pos taken, if_neg full]
    refine ⟨p, state.mem_processors, fun c suits => ?_⟩
    apply (state.skip some_columns taken).none_fits _ suits
    simpa [fits] using full
  | case4 p left column inside untaken e failed =>
    obtain ⟨rfl, outside⟩ := firstTaken_error failed
    rw [search_untaken inside untaken, failed]
    exact fun c suits => state.none_fits (by omega) suits
  | case5 p left column inside untaken clear ih =>
    rw [search_untaken inside untaken, clear]
    apply ih _ (state.pass _)
    intro i above below
    by_cases first : i = column
    · subst first
      exact Bool.eq_false_iff.mpr untaken
    · exact firstTaken_none clear i (by omega) (by omega)
  | case6 p left column inside untaken i blocked fits ih =>
    obtain ⟨below, taken⟩ := firstTaken_some blocked
    rw [search_untaken inside untaken, blocked]
    simp only [fits, if_true]
    exact ih [] (state.restart (by omega) taken)
  | case7 p left column inside untaken i blocked full =>
    obtain ⟨below, taken⟩ := firstTaken_some blocked
    rw [search_untaken inside untaken, blocked]
    simp only [full]
    refine ⟨p, state.mem_processors, fun c suits => ?_⟩
    apply (state.restart (by omega) taken).none_fits _ suits
    simpa [fits] using full
  | case8 p left column outside =>
    rw [search, if_neg outside]
    exact fun c suits => state.none_fits (by omega) suits

end SearchSpace

/-- The columns of a device among which a layer that takes `length` of them is placed. -/
def Packing.space (st : Packing) (d : Device) (shared : 0 < d.shared) (length : Int) : SearchSpace :=
  { taken := st.memory.taken, width := fun p => d.maskWidth p, columns := d.maskWidthLarge, step := d.shared,
    step_pos := shared, length }

theorem Packing.free_single (st : Packing) (d : Device) (shared : 0 < d.shared) (p column : Nat) :
    (st.space d shared 1).Free p column ↔ st.memory.taken p column = false := by
  constructor
  · intro free
    exact free column (Nat.le_refl _) (Int.lt_succ _)
  · intro untaken i above (below : (i : Int) < column + 1)
    obtain rfl : i = column := by omega
    exact untaken

namespace KernelLayer

theorem findColumn_run {s : PackSettings} (greedy : s.greedy = true) (shared : 0 < s.device.shared) (layer : Nat)
    (length : Int) (present : ¬ ∃ p ∈ processors, s.device.maxProcessors ≤ p) (st : Packing) :
    (findColumn s layer length processors).run st =
      match (st.space s.device shared length).search processors processors 0 with
      | .ok column => .ok (column : Int) st
      | .error (.exhausted offset) => .error (.exhausted layer offset length) st
      | .error .outside => .error (.failure .index) st := by
  have known : (processors.any (· ≥ s.device.maxProcessors)) = false := by simpa using present
  unfold findColumn
  simp only [EStateM.run_bind, EStateM.run_get, greedy, shared, known, if_true, dif_pos, Bool.false_eq_true, if_false]
  change EStateM.run (match (st.space s.device shared length).search processors processors 0 with
    | .ok column => pure (column : Int)
    | .error (.exhausted offset) => throw (.exhausted layer offset length)
    | .error .outside => throw (.failure .index) : Pack Int) st = _
  cases (st.space s.device shared length).search processors processors 0 with
  | ok column => rfl
  | error e => cases e <;> rfl

/-- The greedy search passes no column at which the layer fits: it ends at the first one or before it, and without a
column only if there is none. Of the processors, only those can lack room where it ends that had room at an earlier
candidate. -/
theorem findColumn_first_fit_iff {s : PackSettings} (greedy : s.greedy = true) (shared : 0 < s.device.shared)
    (layer : Nat) {length : Int} (some_columns : 0 < length) (processors : List Nat) (st : Packing) :
    let space := st.space s.device shared length
    (∀ found after, (findColumn s layer length processors).run st = .ok found after →
      ∃ (column : Nat) (visits : List (Nat × Nat)), found = column ∧ s.device.shared ∣ column ∧
        (∀ c < column, ¬ space.Suits processors c) ∧
        processors = visits.map Prod.fst ∧ visits.IsChain space.Follows ∧
        (∀ v ∈ visits, space.Free v.1 v.2 ∧ v.2 ≤ column) ∧
        (processors = [] ∨ ∃ p, visits.getLast? = some (p, column)) ∧
        (space.FirstFit processors column ↔ ∀ v ∈ visits, v.2 < column → space.Free v.1 column) ∧
        (space.Agree processors → space.FirstFit processors column)) ∧
    (∀ number offset needed after,
      (findColumn s layer length processors).run st = .error (.exhausted number offset needed) after →
      number = layer ∧ needed = length ∧
        ∃ p ∈ processors, ∀ c, space.Suits processors c → (s.device.maskWidth p : Int) < c + length) ∧
    (∀ cause after, (findColumn s layer length processors).run st = .error (.failure cause) after →
      (∃ p ∈ processors, s.device.maxProcessors ≤ p) ∨
        ∀ c, space.Suits processors c → (s.device.maskWidthLarge : Int) < c + length) := by
  intro space
  have ended := space.search_ended some_columns processors 0 [] (.start space processors)
  by_cases present : ∃ p ∈ processors, s.device.maxProcessors ≤ p
  · have failed : (findColumn s layer length processors).run st = .error (.failure .index) st := by
      have known : (processors.any (· ≥ s.device.maxProcessors)) = true := by simpa using present
      unfold findColumn
      simp [EStateM.run_bind, greedy, shared, known]
    simp [failed, present]
  · rw [findColumn_run greedy shared layer length present]
    cases result : space.search processors processors 0 with
    | ok column =>
      rw [result] at ended
      obtain ⟨visits, state⟩ := ended
      refine ⟨?_, nofun, nofun⟩
      rintro found after ⟨rfl, rfl⟩
      exact ⟨column, visits, rfl, state.multiple, state.earlier, by simpa using state.split, state.chain,
        fun v member => ⟨state.rooms v member, state.before v member⟩, state.latest rfl, state.firstFit_iff,
        state.firstFit_of_agree⟩
    | error e =>
      rw [result] at ended
      cases e with
      | exhausted offset =>
        refine ⟨nofun, ?_, nofun⟩
        rintro number offset needed after ⟨rfl, rfl⟩
        exact ⟨rfl, rfl, ended⟩
      | outside =>
        refine ⟨nofun, nofun, ?_⟩
        rintro cause after ⟨rfl, rfl⟩
        exact .inr ended

def pairLayer (processors : Nat) : KernelLayer :=
  { kernel := some (Tensor.full [2, 1, 1] 5), kernelSize := ⟨1, 1⟩, quantization := 8, processors,
    outputProcessors := 1, inputChannels := 2, outputChannels := 1, outExpand := 1, outExpandThresh := 1,
    inExpand := 1, inExpandThresh := 2, groups := 1 }

def greedyPacking : PackSettings :=
  { device := Device.max78000, quad := false, greedy := true, legacy := false, start := 0, debug := false }

/-- The column that is found for a third layer of one word, after layers on processors 1 and 2 and on 0 and 2. -/
def thirdColumn? (processors : List Nat) : Option (Int × Packing) :=
  match (packLayers greedyPacking [pairLayer 6, pairLayer 5] 0).run {} with
  | .ok _ packed =>
    match (findColumn greedyPacking 2 1 processors).run packed with
    | .ok found _ => some (found, packed)
    | .error _ _ => none
  | .error _ _ => none

theorem thirdColumn?_eq_some {found : Int} {packed : Packing} (known : thirdColumn? processors = some (found, packed)) :
    ∃ spans after, (packLayers greedyPacking [pairLayer 6, pairLayer 5] 0).run {} = .ok spans packed ∧
      (findColumn greedyPacking 2 1 processors).run packed = .ok found after := by
  unfold thirdColumn? at known
  split at known
  · rename_i spans packed' ran
    split at known
    · rename_i column after searched
      cases known
      exact ⟨spans, after, ran, searched⟩
    · cases known
  · cases known

set_option maxRecDepth 20000 in
/-- Processor 1 has room at column 4 already, processor 2 only at column 8. -/
theorem findColumn_first_fit_later :
    ∃ spans packed after, (packLayers greedyPacking [pairLayer 6, pairLayer 5] 0).run {} = .ok spans packed ∧
      (findColumn greedyPacking 2 1 [1, 2]).run packed = .ok 8 after ∧
      (packed.space greedyPacking.device (by decide) 1).FirstFit [1, 2] 8 := by
  have moved : ((thirdColumn? [1, 2]).map fun x => (x.1, x.2.memory.taken 1 8, x.2.memory.taken 2 8)) =
      some (8, false, false) := by cbv
  obtain ⟨⟨found, packed⟩, known, same⟩ := Option.map_eq_some_iff.mp moved
  obtain ⟨rfl, untaken⟩ : found = 8 ∧ packed.memory.taken 1 8 = false ∧ packed.memory.taken 2 8 = false := by
    simpa using same
  obtain ⟨spans, after, ran, searched⟩ := thirdColumn?_eq_some known
  obtain ⟨column, visits, eight, _, _, all, _, _, _, exactly, _⟩ :=
    (findColumn_first_fit_iff (s := greedyPacking) rfl (by decide) 2 (by decide) [1, 2] packed).1 8 after searched
  obtain rfl : column = 8 := by omega
  refine ⟨spans, packed, after, ran, searched, exactly.mpr ?_⟩
  intro v member _
  have used : v.1 ∈ [1, 2] := by
    rw [all]
    exact List.mem_map_of_mem member
  rw [Packing.free_single]
  rcases List.mem_pair.mp used with first | second
  · rw [first]
    exact untaken.1
  · rw [second]
    exact untaken.2

set_option maxRecDepth 20000 in
/-- Processor 0 has room at column 0, which is taken for processor 1. At column 4 only processor 1 has room. -/
theorem findColumn_overlaps :
    ∃ spans packed after, (packLayers greedyPacking [pairLayer 6, pairLayer 5] 0).run {} = .ok spans packed ∧
      (findColumn greedyPacking 2 1 [0, 1]).run packed = .ok 4 after ∧
      ¬ (packed.space greedyPacking.device (by decide) 1).Free 0 4 := by
  have moved : ((thirdColumn? [0, 1]).map fun x => (x.1, x.2.memory.taken 0 4)) = some (4, true) := by cbv
  obtain ⟨⟨found, packed⟩, known, same⟩ := Option.map_eq_some_iff.mp moved
  obtain ⟨rfl, taken⟩ : found = 4 ∧ packed.memory.taken 0 4 = true := by simpa using same
  obtain ⟨spans, after, ran, searched⟩ := thirdColumn?_eq_some known
  refine ⟨spans, packed, after, ran, searched, ?_⟩
  simp [Packing.free_single, taken]

end KernelLayer

end CnnForge
