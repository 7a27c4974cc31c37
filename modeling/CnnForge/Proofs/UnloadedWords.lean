import CnnForge.Proofs.OutputImage

namespace CnnForge

open Bits OutputLayout OutputBlock Device

variable {l : OutputLayout} {d : Device} {b : OutputBlock} {c n lane : Nat}

theorem Bits.countBelow_eq_self (x : Nat) : countBelow x n = n ↔ ∀ p < n, x.testBit p = true := by
  induction n with
  | zero => simp [countBelow]
  | succ n ih =>
    have le := countBelow_le x n
    rw [countBelow, Nat.forall_lt_succ_right, ← ih]
    cases x.testBit n with
    | false => simp; omega
    | true => simp

namespace OutputLayout

theorem address_gap (l : OutputLayout) (d : Device) (b : OutputBlock) (n : Nat) (gap : Int) :
    l.address d b n gap = l.address d b n + l.size * (n * l.outExpand + b.pass : Nat) * gap * 4 := by
  simp only [address, width]
  push_cast
  grind

/-- All processors before that of channel `c` in its memory are used. -/
def Leading (l : OutputLayout) (c : Nat) : Prop :=
  ∀ p, l.processorOf c / 4 * 4 ≤ p → p < l.processorOf c → l.processors.testBit p = true

theorem Fits.leading_iff (fits : Fits l b) (threshold : count l.processors = l.outExpandThresh) (bound : lane < 4)
    (used : b.lanes.testBit lane = true) :
    l.Leading (b.first + countBelow b.lanes lane) ↔ countBelow b.lanes lane = lane := by
  have aligned := fits.aligned
  rw [Leading, fits.lane_processor threshold bound used, countBelow_eq_self, show (b.processor + lane) / 4 * 4 =
    b.processor by omega]
  constructor
  · intro leading p below
    rw [fits.testBit_lanes (by omega)]
    exact leading _ (by omega) (by omega)
  · intro low p above below
    obtain ⟨i, rfl⟩ := Nat.exists_eq_add_of_le above
    rw [← fits.testBit_lanes (by omega)]
    exact low i (by omega)

theorem pixelReads_wide (wide : l.size = 4) {rank : Nat} (listed : b.usedLanes[rank]? = some lane) :
    (l.pixelReads d b n)[rank]? = some ⟨l.address d b n + 4 * rank, 0⟩ := by
  simp [pixelReads, wide, listed]

theorem pixelReads_narrow (narrow : l.size = 1) {rank : Nat} (listed : b.usedLanes[rank]? = some lane) :
    (l.pixelReads d b n)[rank]? = some ⟨l.address d b n, lane⟩ := by
  simp [pixelReads, narrow, listed]

end OutputLayout

namespace Unload

variable {s : VerifySettings} {a : Int}

/-- The word at `a` is compared with a value that depends on the one of `lane`. -/
def Compares (s : VerifySettings) (l : OutputLayout) (d : Device) (n : Nat) (b : OutputBlock) (lane : Nat)
    (a : Int) : Prop :=
  ∃ (values : List Int) (v : Int) (i : Nat) (w w' : Int × Int × VerifyStyle), values.length = 4 ∧
    (pixelWords s l d n b values)[i]? = some w ∧ (pixelWords s l d n b (values.set lane v))[i]? = some w' ∧
    w.1 = a ∧ w.2.1 ≠ w'.2.1

theorem compares_narrow (narrow : l.size = 1) (bound : lane < 4) :
    Compares s l d n b lane a ↔ a = d.dataBase + l.address d b n s.gap := by
  simp only [Compares, pixelWords, narrow, if_true]
  constructor
  · rintro ⟨values, v, i, w, w', _, found, _, rfl, _⟩
    obtain ⟨rfl, rfl⟩ : i = 0 ∧ _ = w := by simpa [List.getElem?_singleton] using found
    rfl
  · rintro rfl
    refine ⟨[0, 0, 0, 0], 1, 0, _, _, rfl, rfl, rfl, rfl, ?_⟩
    dsimp only
    have cases : lane = 0 ∨ lane = 1 ∨ lane = 2 ∨ lane = 3 := by omega
    rcases cases with rfl | rfl | rfl | rfl <;> decide

theorem compares_wide (wide : l.size = 4) (bound : lane < 4) :
    Compares s l d n b lane a ↔
      lane < min b.count (l.shape.channels - b.first) ∧ a = d.dataBase + l.address d b n s.gap + 4 * lane := by
  have other : ¬(4 : Nat) = 1 := by decide
  simp only [Compares, pixelWords, wide, other, if_false, List.getElem?_map, Option.map_eq_some_iff]
  constructor
  · rintro ⟨values, v, i, w, w', four, ⟨j, found, rfl⟩, ⟨j', found', rfl⟩, rfl, changed⟩
    obtain ⟨below, rfl⟩ := List.getElem?_eq_some_iff.mp found
    obtain ⟨_, rfl⟩ := List.getElem?_eq_some_iff.mp found'
    rw [List.length_range] at below
    simp only [List.getElem_range] at *
    have same : i = lane := by
      apply Decidable.byContradiction
      intro differs
      rw [List.getD_eq_getElem?_getD, List.getD_eq_getElem?_getD, List.getElem?_set_ne (Ne.symm differs)] at changed
      exact changed rfl
    subst same
    exact ⟨by omega, by omega⟩
  · rintro ⟨inside, rfl⟩
    have listed : (List.range (min (min b.count (l.shape.channels - b.first)) 4))[lane]? = some lane :=
      List.getElem?_range (by omega)
    refine ⟨[0, 0, 0, 0], 1, lane, _, _, rfl, ⟨lane, listed, rfl⟩, ⟨lane, listed, rfl⟩, by omega, ?_⟩
    dsimp only
    have cases : lane = 0 ∨ lane = 1 ∨ lane = 2 ∨ lane = 3 := by omega
    rcases cases with rfl | rfl | rfl | rfl <;> decide

theorem compares_read_iff (fits : l.Fits b) (size : l.size = 1 ∨ l.size = 4)
    (threshold : count l.processors = l.outExpandThresh) (expands : 0 < l.outExpand) (bound : lane < 4)
    (used : b.lanes.testBit lane = true) (inside : b.first + countBelow b.lanes lane < l.shape.channels) :
    ∃ read, (l.pixelReads d b n)[countBelow b.lanes lane]? = some read ∧
      (Compares s l d n b lane (d.dataBase + read.address) ↔
        (s.gap = 0 ∨ n = 0 ∧ b.pass = 0) ∧ (l.size = 4 → l.Leading (b.first + countBelow b.lanes lane))) := by
  have listed : b.usedLanes[countBelow b.lanes lane]? = some lane := getElem?_filter_testBit used bound
  have start : n * l.outExpand + b.pass = 0 ↔ n = 0 ∧ b.pass = 0 := by
    rw [Nat.add_eq_zero_iff, Nat.mul_eq_zero]
    omega
  have shift : ((n * l.outExpand + b.pass : Nat) : Int) * s.gap = 0 ↔ s.gap = 0 ∨ n = 0 ∧ b.pass = 0 := by
    rw [Int.mul_eq_zero, Int.natCast_eq_zero, start, or_comm]
  rcases size with narrow | wide
  · refine ⟨_, pixelReads_narrow narrow listed, ?_⟩
    rw [compares_narrow narrow bound, address_gap l d b n s.gap, narrow, ← shift, Int.natCast_one, Int.one_mul]
    rw [and_iff_left fun four => absurd four (by decide)]
    generalize ((n * l.outExpand + b.pass : Nat) : Int) * s.gap = moved
    show d.dataBase + l.address d b n = d.dataBase + (l.address d b n + moved * 4) ↔ moved = 0
    omega
  · refine ⟨_, pixelReads_wide wide listed, ?_⟩
    have rank := countBelow_le b.lanes lane
    have less : countBelow b.lanes lane < b.count := by
      have mono := countBelow_mono b.lanes (show lane + 1 ≤ 4 by omega)
      rw [countBelow, used] at mono
      rw [fits.count_eq]
      simp only [if_true] at mono
      omega
    rw [compares_wide wide bound, fits.leading_iff threshold bound used, address_gap l d b n s.gap, wide, ← shift,
      Int.mul_assoc _ _ s.gap]
    generalize ((n * l.outExpand + b.pass : Nat) : Int) * s.gap = moved
    simp only [forall_const]
    -- a gap moves the word by whole pixels, more than the lanes can
    omega

/-- For every value of the output, the word that it is read from is the one that is compared with it, exactly
if there is no gap or the word is the first of its memory, and for words of their own all lanes before are used. -/
theorem reads_compared_iff (shared : d.shared = 4) (bits : l.bits = 8 ∨ l.bits = 32) (used : l.processors ≠ 0)
    (threshold : count l.processors = l.outExpandThresh) (expands : 0 < l.outExpand) (s : VerifySettings) :
    ∃ bs, l.blocks d = .ok bs ∧
      (∀ c < l.shape.channels, ∃ b ∈ bs, b.first ≤ c ∧ c < b.first + b.count) ∧
      ∀ b ∈ bs, ∀ c < l.shape.channels, b.first ≤ c → c < b.first + b.count → ∀ n < l.shape.pixels,
        ∃ lane read, b.usedLanes[c - b.first]? = some lane ∧ (l.pixelReads d b n)[c - b.first]? = some read ∧
          (Compares s l d n b lane (d.dataBase + read.address) ↔
            (s.gap = 0 ∨ n = 0 ∧ c < l.outExpandThresh) ∧ (l.bits = 32 → l.Leading c)) := by
  obtain ⟨bs, found, covers⟩ := blocks_covers (d := d) shared used threshold
  refine ⟨bs, found, fun c inside => covers.channel (Nat.zero_le c) inside, ?_⟩
  intro b member c inside above below n _
  have fits := covers.fits b member
  obtain ⟨lane, bound, own, rfl⟩ := fits.exists_lane above below
  have pass := fits.pass_eq threshold above below
  have size : l.size = 1 ∧ l.bits ≠ 32 ∨ l.size = 4 ∧ l.bits = 32 := by
    rcases bits with bits | bits <;> simp [OutputLayout.size, bits]
  obtain ⟨read, listed, compared⟩ := compares_read_iff (d := d) (n := n) (s := s) fits (size.imp And.left And.left) threshold
    expands bound own inside
  have positive : 0 < l.outExpandThresh := by
    have some_bit := (firstProcessor_spec (d := d) shared used).2.2
    have le := countBelow_le_count l.processors (l.firstProcessor d + 4)
    omega
  refine ⟨lane, read, ?_, ?_, ?_⟩
  · rw [Nat.add_sub_cancel_left]
    exact getElem?_filter_testBit own bound
  · rwa [Nat.add_sub_cancel_left]
  · rw [compared, ← pass, Nat.div_eq_zero_iff_lt positive]
    rcases size with ⟨one, other⟩ | ⟨four, wide⟩
    · simp [one, other]
    · simp [four, wide]

theorem reads_compared_sparse :
    ∃ bs, sparseLayout.blocks max78000 = .ok bs ∧
      ∀ b ∈ bs, ∀ c < 3, b.first ≤ c → c < b.first + b.count → ∀ n < 2, ∃ lane read,
        b.usedLanes[c - b.first]? = some lane ∧ (sparseLayout.pixelReads max78000 b n)[c - b.first]? = some read ∧
          Compares (takingSettings 0) sparseLayout max78000 n b lane (max78000.dataBase + read.address) := by
  obtain ⟨bs, found, _, each⟩ := reads_compared_iff (d := max78000) (l := sparseLayout) rfl (.inl rfl) (by decide)
    (by decide) (by decide) (takingSettings 0)
  refine ⟨bs, found, ?_⟩
  intro b member c inside above below n pixel
  obtain ⟨lane, read, own, listed, compared⟩ := each b member c inside above below n pixel
  exact ⟨lane, read, own, listed, compared.mpr ⟨.inl rfl, fun wide => absurd wide (by decide)⟩⟩

def singleLayout (processor pixels bits : Nat) : OutputLayout :=
  { processors := 1 <<< processor, shape := ⟨1, 1, pixels⟩, outExpandThresh := 1, bits }

/-- The word of the second pixel with a gap between the words, and that of a processor that is not the first of
its memory. -/
theorem reads_not_compared :
    ((singleLayout 0 2 8).blocks max78000 = .ok [⟨0, 0, 0, 1⟩] ∧
      (singleLayout 0 2 8).pixelReads max78000 ⟨0, 0, 0, 1⟩ 1 = [⟨4, 0⟩] ∧
      ¬Compares (takingSettings 1) (singleLayout 0 2 8) max78000 1 ⟨0, 0, 0, 1⟩ 0 (max78000.dataBase + 4)) ∧
    (singleLayout 1 1 32).blocks max78000 = .ok [⟨0, 0, 0, 2⟩] ∧
      (singleLayout 1 1 32).pixelReads max78000 ⟨0, 0, 0, 2⟩ 0 = [⟨0, 0⟩] ∧
      ¬Compares (takingSettings 0) (singleLayout 1 1 32) max78000 0 ⟨0, 0, 0, 2⟩ 1 max78000.dataBase := by
  refine ⟨⟨by cbv, by decide, ?_⟩, by cbv, by decide, ?_⟩
  · rw [compares_narrow rfl (by decide)]
    decide
  · rw [compares_wide rfl (by decide)]
    decide

end Unload

end CnnForge
