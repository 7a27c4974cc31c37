import CnnForge.Network.Sequence
import CnnForge.Proofs.MeasuredLayers

namespace CnnForge

open Outcome Checked

variable {layers after : Array Layer} {l l' : Layer} {i : Int} {n : Nat}

/-- From `i` on, at most `n` indices below `size` follow each other. -/
def endsWithin (next : Int → Option Int) (size : Nat) : Nat → Int → Bool
  | 0, i => decide (size ≤ i)
  | n + 1, i => decide (size ≤ i) || (next i).all (endsWithin next size n)

def nextOf (layers : Array Layer) (i : Int) : Option Int :=
  ((position? layers.size i).bind (layers[·]?)).map (·.next)

/-- The loop has come to its end, or it fails. -/
def Ended {α : Type} (x : Checked (α × Bool)) : Prop := Gives (fun r => r.2 = false) x

theorem ended_iff {α : Type} {x : Checked (α × Bool)} {ends : Bool} (flag : Gives (fun r => r.2 = !ends) x) :
    Ended x ↔ ends = true ∨ Gives (fun _ => False) x := by
  cases ends with
  | true => simpa [Ended] using flag
  | false =>
    constructor
    · intro ended
      refine .inr (Gives.of_ok fun before r after run => ?_)
      have continues := (flag.result trivial run).1
      rw [(ended.result trivial run).1] at continues
      cases continues
    · rintro (ends | fails)
      · cases ends
      · exact fails.never

theorem elementAt_next (found : elementAt layers i = .ok l) : nextOf layers i = some l.next := by
  unfold elementAt at found
  split at found
  · cases found
    simp [nextOf, *]
  · cases found

theorem size_modifyAt {f : Layer → Layer} (changed : modifyAt layers i f = .ok after) : after.size = layers.size := by
  unfold modifyAt at changed
  split at changed
  · cases changed
    exact Array.size_modify
  · cases changed

theorem nextOf_modifyAt (found : elementAt layers i = .ok l) (same : l'.next = l.next)
    (changed : modifyAt layers i (fun _ => l') = .ok after) : nextOf after = nextOf layers := by
  have size := size_modifyAt changed
  unfold modifyAt at changed
  split at changed
  · rename_i j place
    cases changed
    have own : layers[j]? = some l := by
      simp only [elementAt, place, Option.bind_some] at found
      split at found <;> simp_all
    funext k
    rw [nextOf, nextOf, size]
    cases position? layers.size k with
    | none => rfl
    | some m =>
      by_cases here : j = m
      · subst here
        simp [Array.getElem?_modify, own, same]
      · simp [Array.getElem?_modify, here]
  · cases changed

theorem nextOf_modifyAt_natCast {c j : Nat} (changed : modifyAt layers c (fun _ => l') = .ok after) :
    nextOf after j = if j = c then some l'.next else nextOf layers j := by
  have size := size_modifyAt changed
  unfold modifyAt at changed
  split at changed
  · rename_i m place
    cases changed
    have inside := position?_lt place
    obtain rfl : m = c := eq_of_position?_natCast place
    rw [nextOf, nextOf, size]
    by_cases here : j = m
    · subst here
      simp [position?_natCast inside, Array.getElem?_modify, inside]
    · cases other : position? layers.size j with
      | none => simp [here]
      | some k => simp [Array.getElem?_modify, here, eq_of_position?_natCast other, Ne.symm here]
  · cases changed

namespace SequenceState

variable (s : SequenceSettings)

theorem fillChannels_gives (st : SequenceState) (i : Int) (l : Layer) :
    Gives (fun after => after.next = l.next) (fillChannels s st i l) := by
  unfold fillChannels
  extract_lets finish rest
  have finished : ∀ l', l'.next = l.next → Gives (fun after => after.next = l.next) (finish l') := by
    intro l' same
    refine Ends.pure ?_
    dsimp only
    split <;> exact same
  have rests : ∀ l', l'.next = l.next → Gives (fun after => after.next = l.next) (rest l') := by
    intro l' same
    refine .ite (fun _ => .ite (fun _ => ?_) fun _ => ?_) fun _ => finished l' same
    · exact Gives.rest fun first => Gives.guard fun _ => finished _ same
    · exact Gives.rest fun previous => finished _ same
  split
  · exact Gives.rest fun channels => rests _ rfl
  · exact rests l rfl

theorem fillProcessors_gives (layers : Array Layer) (l : Layer) :
    Gives (fun after => after.next = l.next) (fillProcessors layers l) := by
  unfold fillProcessors
  exact .ite (fun _ => Gives.rest fun _ => .pure rfl) fun _ => .pure rfl

def successor (s : SequenceSettings) (layers : Array Layer) (i : Int) : Option Int :=
  (nextOf layers i).filter fun next => s.stopAfter ≠ some i ∧ next ≠ -1 ∧ next ≤ layers.size

/-- The visit of a layer: its next index stays, and is visited next, or it becomes `-1` where there is none. -/
structure Visited (st : SequenceState) (r : SequenceState × Bool) : Prop where
  layers : ∃ l l', elementAt st.layers st.current = .ok l ∧ modifyAt st.layers st.current (fun _ => l') = .ok r.1.layers ∧
    l'.next = ((successor s st.layers st.current).getD (-1)) ∧
    (s.linkLayer = false → l'.next = -1 ∨ l'.next = st.current + 1)
  last : r.1.last = max st.current st.last
  more : r.2 = (successor s st.layers st.current).isSome
  current : ∀ next, successor s st.layers st.current = some next → r.1.current = next

theorem successor_some {j : Int} : successor s layers i = some j ↔
    nextOf layers i = some j ∧ s.stopAfter ≠ some i ∧ j ≠ -1 ∧ j ≤ layers.size := by
  simp [successor, Option.filter_eq_some_iff]

theorem visit_gives (st : SequenceState) : Gives (Visited s st) (visit s st) := by
  unfold visit
  extract_lets i finish
  refine .bind (gives_lift _) fun own found => ?_
  have finished : ∀ l', l'.next = (successor s st.layers i).getD (-1) →
      (s.linkLayer = false → l'.next = -1 ∨ l'.next = i + 1) → Gives (Visited s st) (finish l') := by
    intro l' next line
    refine .bind (gives_lift _) fun changed modified => ?_
    refine .ite (fun none => .pure ?_) fun goes => .pure ?_
    all_goals
      refine ⟨⟨own, l', found, modified, next, line⟩, rfl, ?_, ?_⟩
      all_goals cases follower : successor s st.layers i <;> simp_all [successor_some, i]
  refine .bind (fillChannels_gives s st i own) fun filled same => ?_
  refine .bind (fillProcessors_gives st.layers filled) fun l same' => ?_
  extract_lets stopped linked
  have next : linked.next = if s.stopAfter = some i then -1 else own.next := by
    simp only [linked, stopped]
    split
    · rfl
    · exact same'.trans same
  have follower : successor s st.layers i = if s.stopAfter ≠ some i ∧ own.next ≠ -1 ∧ own.next ≤ st.layers.size then
      some own.next else none := by
    rw [successor, elementAt_next found]
    simp [Option.filter]
  refine .ite (fun _ => .bind (Q := fun _ => False) (.throw trivial) fun _ never => never.elim) fun supported => ?_
  have line : s.linkLayer = false → linked.next = -1 ∨ linked.next = i + 1 := by
    intro unlinked
    simp only [unlinked, Bool.not_false, Bool.and_true, Bool.and_eq_true, bne_iff_ne, not_and, Decidable.not_not]
      at supported
    exact Decidable.or_iff_not_imp_left.mpr supported
  refine .ite (fun exceeds => Gives.rest fun _ => finished _ ?_ fun _ => .inl rfl) fun within => finished _ ?_ line
  · rw [follower, if_neg]
    · rfl
    · split at next <;> omega
  · rw [follower, next]
    by_cases stop : s.stopAfter = some i
    · simp [stop]
    · rw [if_neg stop] at next ⊢
      by_cases none : own.next = -1
      · simp [none]
      · rw [if_pos ⟨stop, none, by omega⟩]
        rfl

theorem Visited.successor_eq {st : SequenceState} {r : SequenceState × Bool} (visited : Visited s st r)
    (goes : (successor s st.layers st.current).isSome = true) : successor s r.1.layers = successor s st.layers := by
  obtain ⟨l, l', found, changed, next, _⟩ := visited.layers
  obtain ⟨j, follower⟩ := Option.isSome_iff_exists.mp goes
  have own := (successor_some s).mp follower
  rw [elementAt_next found, Option.some.injEq] at own
  have same : l'.next = l.next := by rw [next, follower, own.1]; rfl
  funext i
  rw [successor, successor, nextOf_modifyAt found same changed, size_modifyAt changed]

theorem follow_gives (n : Nat) (st : SequenceState) :
    Gives (fun r => r.2 = !endsWithin (successor s st.layers) st.layers.size n st.current) (follow s n st) := by
  induction n generalizing st with
  | zero =>
    refine .pure ?_
    simp [endsWithin, ← decide_not]
  | succ n ih =>
    rw [endsWithin]
    unfold follow
    refine .ite (fun inside => ?_) fun outside => .pure ?_
    · rw [decide_eq_false (by omega), Bool.false_or]
      refine .bind (visit_gives s st) fun r visited => .ite (fun more => ?_) fun ended => .pure ?_
      · rw [visited.more] at more
        obtain ⟨j, follower⟩ := Option.isSome_iff_exists.mp more
        obtain ⟨_, _, _, changed, _⟩ := visited.layers
        have rest := ih r.1
        rw [visited.successor_eq s more, size_modifyAt changed, visited.current j follower] at rest
        rw [follower]
        exact rest
      · rw [visited.more, Bool.not_eq_true, Option.isSome_eq_false_iff, Option.isNone_iff_eq_none] at ended
        rw [ended]
        rfl
    · rw [decide_eq_true (by omega)]
      rfl

/-- Each layer from the start on, up to `last`, is followed by the next one or by none. -/
def Lined (s : SequenceSettings) (layers : Array Layer) (last : Int) : Prop :=
  ∀ j : Nat, s.start ≤ j → (j : Int) ≤ last → j < layers.size →
    nextOf layers j = some (-1) ∨ nextOf layers j = some (j + 1)

theorem Lined.visit {st : SequenceState} {r : SequenceState × Bool} {c : Nat} (unlinked : s.linkLayer = false)
    (here : st.current = c) (lined : Lined s st.layers (c - 1)) (visited : Visited s st r) :
    Lined s r.1.layers c ∧ (r.2 = true → r.1.current = (c + 1 : Nat)) := by
  obtain ⟨l, l', found, changed, next, line⟩ := visited.layers
  rw [here] at changed line next
  constructor
  · intro j start below inside
    rw [size_modifyAt changed] at inside
    rw [nextOf_modifyAt_natCast changed]
    split
    · rename_i same
      subst same
      exact (line unlinked).imp (congrArg some) (congrArg some)
    · exact lined j start (by omega) inside
  · intro more
    rw [visited.more, here] at more
    obtain ⟨j, follower⟩ := Option.isSome_iff_exists.mp more
    rw [visited.current j (here ▸ follower)]
    rw [follower, Option.getD_some] at next
    rcases line unlinked with none | one
    · exact absurd (next ▸ none) ((successor_some s).mp follower).2.2.1
    · rw [← next, one]
      rfl

theorem Lined.whole {st : SequenceState} {c : Nat} (lined : Lined s st.layers (c - 1))
    (last : st.last = max (s.start : Int) (c - 1)) (outside : st.layers.size ≤ c) :
    Lined s st.layers st.last ∧ (s.start : Int) ≤ st.last :=
  ⟨fun j first _ inside => lined j first (by omega) inside, by omega⟩

theorem follow_lined (unlinked : s.linkLayer = false) (n : Nat) (st : SequenceState) (c : Nat) (here : st.current = c)
    (start : s.start ≤ c) (last : st.last = max (s.start : Int) (c - 1)) (lined : Lined s st.layers (c - 1))
    (enough : st.layers.size ≤ c + n) :
    Gives (fun r => r.2 = false ∧ Lined s r.1.layers r.1.last ∧ (s.start : Int) ≤ r.1.last) (follow s n st) := by
  induction n generalizing st c with
  | zero => exact .pure ⟨decide_eq_false (by omega), lined.whole s last enough⟩
  | succ n ih =>
    unfold follow
    refine .ite (fun inside => ?_) fun outside => .pure ⟨rfl, lined.whole s last (by omega)⟩
    refine .bind (visit_gives s st) fun r visited => ?_
    obtain ⟨lined', goes⟩ := lined.visit s unlinked here visited
    have last' : r.1.last = c := by
      rw [visited.last, here]
      omega
    refine .ite (fun more => ?_) fun ended => .pure ⟨rfl, by rwa [last'], by rw [last']; omega⟩
    obtain ⟨_, _, _, changed, _⟩ := visited.layers
    have size := size_modifyAt changed
    exact ih r.1 (c + 1) (goes more) (by omega) (by omega) (by simpa using lined') (by omega)

theorem ofLayers_lined (unlinked : s.linkLayer = false) (layers : Array Layer) (enough : layers.size ≤ n) :
    Gives (fun r => r.2 = false ∧ Lined s r.1.layers r.1.last ∧ (s.start : Int) ≤ r.1.last)
      ((ofLayers s layers).follow s n) := by
  refine follow_lined s unlinked n _ s.start rfl (Nat.le_refl _)
    (show (s.start : Int) = max (s.start : Int) (s.start - 1) by omega) ?_ ?_
  · intro j first below
    omega
  · simp [ofLayers, defaultNext]
    omega

end SequenceState

namespace Dimensions

variable (s : DimensionSettings)

def successor (layers : Array Layer) (i : Int) : Option Int := (nextOf layers i).filter (· ≠ -1)

theorem checkLater_gives (layers : Array Layer) (i : Int) (l : Layer) :
    Gives (fun after => after.next = l.next) (checkLater layers i l) :=
  Gives.rest fun _ => Gives.rest fun _ => Gives.rest fun _ => .pure rfl

theorem fillInput_gives (layers : Array Layer) (i : Int) (l : Layer) :
    Gives (fun after => after.next = l.next) (fillInput layers i l) := by
  unfold fillInput
  refine .ite (fun _ => .pure rfl) fun _ => Gives.rest fun found => ?_
  obtain ⟨auto, source⟩ := found
  dsimp only
  split
  · exact .pure rfl
  · refine Gives.rest fun _ => Gives.optional fun _ => ?_
    exact .pure rfl

theorem measure_next (layers : Array Layer) (i : Int) :
    Gives (fun after => nextOf after = nextOf layers ∧ after.size = layers.size) (measure s layers i) := by
  unfold measure
  refine .bind (gives_lift _) fun own found => Gives.rest fun _ => ?_
  extract_lets bits quantized finish rest
  have finished : ∀ l, l.next = own.next →
      Gives (fun after => nextOf after = nextOf layers ∧ after.size = layers.size) (finish l) := fun l same =>
    Gives.rest fun _ => (gives_lift _).mono fun after changed =>
      ⟨nextOf_modifyAt found same changed, size_modifyAt changed⟩
  have rests : ∀ l, l.next = own.next →
      Gives (fun after => nextOf after = nextOf layers ∧ after.size = layers.size) (rest l) := by
    intro l same
    refine Gives.optional fun _ => Gives.rest fun _ => ?_
    refine .bind (fillInput_gives layers i l) fun filled same' => Gives.rest fun p => ?_
    extract_lets sized
    refine Gives.rest fun _ => .ite (fun _ => ?_) fun _ => ?_
    · refine .bind (planeOutput_gives s i sized p) ?_
      rintro _ ⟨_, _, rfl, _⟩
      exact finished _ (same'.trans same)
    · refine .bind (lineOutput_gives s i sized p) ?_
      rintro _ ⟨_, rfl, _⟩
      exact finished _ (same'.trans same)
  refine Gives.rest fun _ => .ite (fun _ => ?_) fun _ => rests quantized rfl
  exact .bind (checkLater_gives layers i quantized) fun l same => rests l same

theorem follow_next (n : Nat) (i : Int) (layers : Array Layer) :
    Gives (fun r => r.2 = !endsWithin (successor layers) layers.size n i) (follow s n i layers) := by
  induction n generalizing i layers with
  | zero =>
    refine .pure ?_
    simp [endsWithin, ← decide_not]
  | succ n ih =>
    rw [endsWithin]
    unfold follow
    refine .ite (fun inside => ?_) fun outside => .pure ?_
    · rw [decide_eq_false (by omega), Bool.false_or]
      refine .bind (measure_next s layers i) fun after kept => .bind (gives_lift _) fun l found => ?_
      obtain ⟨same, size⟩ := kept
      have next := elementAt_next found
      rw [same] at next
      refine .ite (fun none => .pure ?_) fun goes => ?_
      · simp [successor, next, none]
      · have rest := ih l.next after
        have own : successor after = successor layers := by
          funext k
          rw [successor, successor, same]
        rw [own, size] at rest
        simpa [successor, next, goes] using rest
    · rw [decide_eq_true (by omega)]
      rfl

theorem endsWithin_of_lined {s : SequenceSettings} (lined : SequenceState.Lined s layers layers.size)
    (n c : Nat) (start : s.start ≤ c) (enough : layers.size ≤ c + n) :
    endsWithin (successor layers) layers.size n c = true := by
  induction n generalizing c with
  | zero => simpa [endsWithin] using enough
  | succ n ih =>
    rw [endsWithin]
    by_cases inside : c < layers.size
    · rcases lined c start (by omega) inside with none | one
      · simp [successor, none]
      · have rest := ih (c + 1) (by omega) (by omega)
        simp [successor, one, Option.filter, show (c : Int) + 1 ≠ -1 by omega]
        exact .inr (by simpa using rest)
    · rw [decide_eq_true (by omega), Bool.true_or]

end Dimensions

/-- The two loops end after as many layers as there are, or fail, exactly if the order of the layers ends or a layer
on the way is refused. Devices that cannot link layers refuse every order that does not end. -/
theorem tracing_ends_iff (s : SequenceSettings) (layers : Array Layer) :
    (Ended ((SequenceState.ofLayers s layers).follow s layers.size) ↔
      endsWithin (SequenceState.successor s (defaultNext layers)) layers.size layers.size s.start = true ∨
        Gives (fun _ => False) ((SequenceState.ofLayers s layers).follow s layers.size)) ∧
    (∀ (t : DimensionSettings) (start : Int) (measured : Array Layer),
      Ended (Dimensions.follow t measured.size start measured) ↔
        endsWithin (Dimensions.successor measured) measured.size measured.size start = true ∨
          Gives (fun _ => False) (Dimensions.follow t measured.size start measured)) ∧
    (s.linkLayer = false → Ended ((SequenceState.ofLayers s layers).follow s layers.size) ∧
      ∀ st lines lines', (traceSequence s layers).run lines = .ok st lines' →
        ∀ (t : DimensionSettings) (measured : Array Layer),
          measured.map (·.next) = (st.layers.extract 0 (st.last.toNat + 1)).map (·.next) →
            Ended (Dimensions.follow t measured.size s.start measured)) := by
  refine ⟨ended_iff ?_, fun t start measured => ended_iff (Dimensions.follow_next t _ start measured), ?_⟩
  · have flag := SequenceState.follow_gives s layers.size (SequenceState.ofLayers s layers)
    simpa [SequenceState.ofLayers, defaultNext] using flag
  intro unlinked
  refine ⟨(SequenceState.ofLayers_lined s unlinked layers (Nat.le_refl _)).mono fun r traced => traced.1, ?_⟩
  intro st lines lines' run t measured same
  have traced : Gives (fun st => SequenceState.Lined s st.layers st.last ∧ (s.start : Int) ≤ st.last)
      (traceSequence s layers) := by
    unfold traceSequence
    refine Gives.guard fun _ => .bind (SequenceState.ofLayers_lined s unlinked layers (by omega)) fun r traced => ?_
    exact Gives.guard fun _ => .pure traced.2
  obtain ⟨⟨lined, start⟩, _⟩ := traced.result trivial run
  have size : measured.size = min (st.last.toNat + 1) st.layers.size := by simpa using congrArg Array.size same
  refine (ended_iff (Dimensions.follow_next t _ _ measured)).mpr (.inl ?_)
  refine Dimensions.endsWithin_of_lined (s := s) ?_ _ _ (Nat.le_refl _) (by omega)
  intro j first _ inside
  have next : nextOf measured j = nextOf st.layers j := by
    have entry := congrArg (·[j]?) same
    simp only [Array.getElem?_map, Array.getElem?_extract] at entry
    rw [nextOf, nextOf, position?_natCast inside, position?_natCast (show j < st.layers.size by omega)]
    simpa [show j < min (st.last.toNat + 1) st.layers.size by omega] using entry
  rw [next]
  exact lined j first (by omega) (by omega)

def repeating : Layer := { processors := 1, next := 0, nextGiven := true, inputChannels := 1, outputChannels := 1 }

def linking : SequenceSettings := { linkLayer := true, inputChannels := 1 }

theorem repeating_refused :
    Ended ((SequenceState.ofLayers {} #[repeating]).follow {} 1) ∧
      ((SequenceState.ofLayers {} #[repeating]).follow {} 1).run [] =
        .error (.described "Layer 0: `next_sequence` is not supported on this device.") [] :=
  ⟨((tracing_ends_iff {} #[repeating]).2.2 rfl).1, rfl⟩

def repeated (previous : Int) : SequenceState :=
  { layers := #[{ repeating with previous, outputProcessors := some 1 }], current := 0, previous := 0, first := 0, last := 0 }

theorem follow_repeated (n : Nat) (previous : Int) :
    ∃ st, ((repeated previous).follow linking n).run [] = .ok (st, true) [] := by
  induction n generalizing previous with
  | zero => exact ⟨_, rfl⟩
  | succ n ih =>
    obtain ⟨st, run⟩ := ih 0
    exact ⟨st, run⟩

/-- Where layers can be linked, this layer is visited again and again. -/
theorem repeating_never_ends : ¬∃ n, Ended ((SequenceState.ofLayers linking #[repeating]).follow linking n) := by
  rintro ⟨n, ended⟩
  obtain ⟨st, run⟩ : ∃ st, ((SequenceState.ofLayers linking #[repeating]).follow linking n).run [] =
      .ok (st, true) [] := by
    cases n with
    | zero => exact ⟨_, rfl⟩
    | succ n => exact follow_repeated n (-1)
  cases (ended.result trivial run).1

end CnnForge
