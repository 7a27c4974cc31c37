import CnnForge.Proofs.OutputImage
import Mathlib.Data.List.Nodup

namespace CnnForge

open Outcome Bits OutputLayout Device OutputBlock Session
open List hiding count

variable {records records' : List (Nat × Mark)} {bs : List OutputBlock} {c c' n n' room : Nat} {α β : Type}

namespace OutputLayout

variable {l : OutputLayout} {d : Device} {b : OutputBlock} {gap : Int}

/-- Values of 32 bits have words of their own, in the order of the processors that share a memory. -/
def wordRank (l : OutputLayout) (c : Nat) : Nat :=
  if l.size = 1 then 0 else countBelow (l.processors >>> (l.processorOf c / 4 * 4)) (l.processorOf c % 4)

def wordAddress (l : OutputLayout) (d : Device) (gap : Int) (c n : Nat) : Int :=
  d.dataBase + l.channelAddress d c n gap + 4 * l.wordRank c

def wordAt (l : OutputLayout) (d : Device) (gap : Int) (c n : Nat) : Nat := (l.wordAddress d gap c n / 4).toNat

/-- An output on no processors has no words. -/
def IsWord (l : OutputLayout) (c n : Nat) : Prop :=
  l.processors ≠ 0 ∧ c < l.shape.channels ∧ n < l.shape.pixels

def SameWord (l : OutputLayout) (c n c' n' : Nat) : Prop :=
  n' = n ∧ if l.size = 1 then l.SameBlock c c' else c' = c

theorem SameWord.join {l : OutputLayout} {c n c' n' k m : Nat}
    (same : l.SameWord c n k m) (same' : l.SameWord c' n' k m) :
    l.SameWord c n c' n' := by
  obtain ⟨rfl, block⟩ := same
  obtain ⟨rfl, block'⟩ := same'
  refine ⟨rfl, ?_⟩
  split
  · rename_i bytes
    rw [if_pos bytes] at block block'
    exact ⟨block'.1.symm.trans block.1, block'.2.symm.trans block.2⟩
  · rename_i words
    rw [if_neg words] at block block'
    exact block'.symm.trans block

/-- A word of the output lies on a word in one of the memories, or on another word of the output. -/
def Overwrites (l : OutputLayout) (d : Device) (gap : Int) (input output : Std.HashMap Nat Mark) : Prop :=
  ∃ c n, l.IsWord c n ∧
    (input[l.wordAt d gap c n]? ≠ none ∨ output[l.wordAt d gap c n]? ≠ none ∨
      ∃ c' n', l.IsWord c' n' ∧ ¬l.SameWord c n c' n' ∧ l.wordAt d gap c' n' = l.wordAt d gap c n)

structure Lies (l : OutputLayout) (d : Device) (gap : Int) (data : Tensor) (room : Nat) : Prop where
  channels : l.shape.channels ≤ data.dim 0
  height : l.shape.height ≤ data.dim 1
  width : l.shape.width ≤ data.dim 2
  words : ∀ c n, l.IsWord c n → 0 ≤ l.wordAddress d gap c n ∧ l.wordAddress d gap c n < 4 * room

/-- The words that a pixel of a block takes, each by its channel or the first one of them. -/
def wordsOf (l : OutputLayout) (place : Nat × OutputBlock) : List (Nat × Nat) :=
  if place.2.lanes = 0 then []
  else if l.size = 1 then [(place.2.first, place.1)]
  else (range (min place.2.count (l.shape.channels - place.2.first))).map fun i => (place.2.first + i, place.1)

theorem mem_wordsOf {place : Nat × OutputBlock} (fits : l.Fits place.2) {w : Nat × Nat} (member : w ∈ l.wordsOf place) :
    w.2 = place.1 ∧ place.2.first ≤ w.1 ∧ w.1 < place.2.first + place.2.count ∧ w.1 < l.shape.channels := by
  have inside := fits.inside
  rw [wordsOf] at member
  split at member
  · cases member
  · rename_i used
    have some_channels := fits.count_pos used
    split at member
    · obtain rfl := mem_singleton.mp member
      exact ⟨rfl, Nat.le_refl _, by omega, inside⟩
    · obtain ⟨i, less, rfl⟩ := mem_map.mp member
      rw [mem_range] at less
      exact ⟨rfl, by omega, by omega, by omega⟩

theorem wordsOf_separate (l : OutputLayout) (place : Nat × OutputBlock) :
    (l.wordsOf place).Pairwise fun w w' => ¬l.SameWord w.1 w.2 w'.1 w'.2 := by
  rw [wordsOf]
  split
  · exact Pairwise.nil
  · split
    · exact pairwise_singleton _ _
    · rename_i words
      rw [pairwise_map]
      refine pairwise_lt_range.imp ?_
      intro i i' less same
      rw [SameWord, if_neg words] at same
      have same := same.2
      omega

theorem Fits.sameBlock (fits : l.Fits b) (threshold : count l.processors = l.outExpandThresh)
    (above : b.first ≤ c) (below : c < b.first + b.count) (above' : b.first ≤ c') (below' : c' < b.first + b.count) :
    l.SameBlock c c' := by
  refine ⟨?_, ?_⟩
  · rw [fits.pass_eq threshold above below, fits.pass_eq threshold above' below']
  · have memory := fits.processor_eq threshold above below
    have memory' := fits.processor_eq threshold above' below'
    omega

theorem Fits.wordAddress_eq (fits : l.Fits b) (shared : d.shared = 4)
    (threshold : count l.processors = l.outExpandThresh)
    (above : b.first ≤ c) (below : c < b.first + b.count) :
    l.wordAddress d gap c n =
      d.dataBase + l.address d b n gap + 4 * (if l.size = 1 then 0 else c - b.first : Nat) := by
  obtain ⟨lane, bound, used, rfl⟩ := fits.exists_lane above below
  have aligned := fits.aligned
  have rank : countBelow (l.processors >>> b.processor) lane = countBelow b.lanes lane := by
    have sum := fits.countBelow_lanes (Nat.le_of_lt bound)
    rw [countBelow_add] at sum
    omega
  rw [wordAddress, wordRank, fits.lane_address shared threshold bound used, fits.lane_processor threshold bound used,
    show (b.processor + lane) / 4 * 4 = b.processor by omega, show (b.processor + lane) % 4 = lane by omega,
    Nat.add_sub_cancel_left, rank]

theorem isWord_of_mem (covers : l.Covers 0 bs) (used : l.processors ≠ 0)
    {w : Nat × Nat} (member : w ∈ (Unload.places l bs).flatMap l.wordsOf) :
    l.IsWord w.1 w.2 := by
  obtain ⟨place, listed, member⟩ := mem_flatMap.mp member
  obtain ⟨pixel, block⟩ := Unload.mem_places.mp listed
  obtain ⟨same, _, _, inside⟩ := mem_wordsOf (covers.fits _ block) member
  exact ⟨used, inside, same ▸ pixel⟩

section

variable (threshold : count l.processors = l.outExpandThresh) (covers : l.Covers 0 bs)
include threshold covers

theorem words_separate :
    ((Unload.places l bs).flatMap l.wordsOf).Pairwise fun w w' => ¬l.SameWord w.1 w.2 w'.1 w'.2 := by
  rw [pairwise_flatMap]
  refine ⟨fun place _ => l.wordsOf_separate place, ?_⟩
  refine (Unload.places_ordered covers).imp_of_mem ?_
  intro place place' listed listed' later w member w' member'
  have fits := covers.fits _ (Unload.mem_places.mp listed).2
  have fits' := covers.fits _ (Unload.mem_places.mp listed').2
  obtain ⟨pixel, above, below, _⟩ := mem_wordsOf fits member
  obtain ⟨pixel', above', below', _⟩ := mem_wordsOf fits' member'
  rintro ⟨same, joined⟩
  have block : place.2.first + place.2.count ≤ place'.2.first := by omega
  split at joined
  · exact fits.not_sameBlock fits' threshold block above below above' below' joined
  · omega

theorem exists_word (shared : d.shared = 4) (gap : Int) (word : l.IsWord c n) :
    ∃ w ∈ (Unload.places l bs).flatMap l.wordsOf, l.SameWord c n w.1 w.2 ∧
      l.wordAt d gap w.1 w.2 = l.wordAt d gap c n := by
  obtain ⟨_, channel, pixel⟩ := word
  obtain ⟨b, member, above, below⟩ := covers.channel (Nat.zero_le c) channel
  have fits := covers.fits b member
  have used : b.lanes ≠ 0 := by
    obtain ⟨lane, _, bit, _⟩ := fits.exists_lane above below
    exact ne_zero_of_testBit bit
  have listed : (n, b) ∈ Unload.places l bs := Unload.mem_places.mpr ⟨pixel, member⟩
  by_cases bytes : l.size = 1
  · have first : b.first < b.first + b.count := by omega
    refine ⟨(b.first, n), mem_flatMap.mpr ⟨(n, b), listed, by simp [wordsOf, used, bytes]⟩, ⟨rfl, ?_⟩, ?_⟩
    · rw [if_pos bytes]
      exact fits.sameBlock threshold above below (Nat.le_refl _) first
    · rw [wordAt, wordAt, fits.wordAddress_eq shared threshold (Nat.le_refl _) first,
        fits.wordAddress_eq shared threshold above below, if_pos bytes, if_pos bytes]
  · refine ⟨(c, n), mem_flatMap.mpr ⟨(n, b), listed, ?_⟩, ⟨rfl, by rw [if_neg bytes]⟩, rfl⟩
    rw [wordsOf, if_neg used, if_neg bytes, mem_map]
    exact ⟨c - b.first, mem_range.mpr (by dsimp only; omega), by rw [Nat.add_sub_cancel' above]⟩

theorem not_overwrites_iff (shared : d.shared = 4) (used : l.processors ≠ 0) (gap : Int)
    (input output : Std.HashMap Nat Mark) :
    ¬l.Overwrites d gap input output ↔
      (((Unload.places l bs).flatMap l.wordsOf).map fun w => l.wordAt d gap w.1 w.2).Nodup ∧
        ∀ w ∈ (Unload.places l bs).flatMap l.wordsOf,
          input[l.wordAt d gap w.1 w.2]? = none ∧ output[l.wordAt d gap w.1 w.2]? = none := by
  constructor
  · intro none
    constructor
    · rw [Nodup, pairwise_map]
      refine (words_separate threshold covers).imp_of_mem ?_
      intro w w' member member' apart same
      exact none ⟨w.1, w.2, isWord_of_mem covers used member,
        .inr (.inr ⟨w'.1, w'.2, isWord_of_mem covers used member', apart, same.symm⟩)⟩
    · intro w member
      have word := isWord_of_mem covers used member
      exact ⟨Classical.byContradiction fun taken => none ⟨w.1, w.2, word, .inl taken⟩,
        Classical.byContradiction fun taken => none ⟨w.1, w.2, word, .inr (.inl taken)⟩⟩
  · rintro ⟨nodup, free⟩ ⟨c, n, word, clash⟩
    obtain ⟨w, member, same, place⟩ := exists_word threshold covers shared gap word
    obtain ⟨free, free'⟩ := free w member
    rw [place] at free free'
    rcases clash with taken | taken | ⟨c', n', word', apart, place'⟩
    · exact taken free
    · exact taken free'
    · -- Both words are in the list, where equal places are one entry.
      obtain ⟨w', member', same', listed⟩ := exists_word threshold covers shared gap word'
      obtain rfl : w' = w := inj_on_of_nodup_map nodup member' member (by rw [listed, place, place'])
      exact apart (same.join same')

end

end OutputLayout

namespace Unload

variable {l : OutputLayout} {d : Device} {s : VerifySettings} {data : Tensor} {check : Verifier} {out : String}
  {I : Bus → Prop} {before middle after : Session} {b : OutputBlock}

/-- The words of an output are checked by their bytes from a lane on. -/
structure WordStyle (style : VerifyStyle) : Prop where
  unmasked : style.mask = none
  lane : 0 ≤ style.lane
  some_bytes : 1 ≤ style.bytes
  word : style.lane + style.bytes ≤ 4

theorem WordStyle.checkOf_run {style : VerifyStyle} (styled : WordStyle style) (address value : Int) (st : Session) :
    ∃ c, (Bus.checkOf address value style).run st = .ok c st := by
  obtain ⟨unmasked, lane, some_bytes, word⟩ := styled
  obtain bytes | bytes | bytes | bytes : style.bytes = 1 ∨ style.bytes = 2 ∨ style.bytes = 3 ∨ style.bytes = 4 := by
    omega
  all_goals
    simp only [Bus.checkOf, Bus.laneMask, unmasked, Bus.byteMask, bytes, Run.check, Bus.toLane,
      if_neg (Int.not_lt.mpr lane)]
    rw [bytes] at word
    simp [word]

/-- A check of words that passes, as long as the bus has `I`, and changes no memory. -/
def Passes (I : Bus → Prop) (check : Verifier) : Prop :=
  ∀ st address value style, I st.bus → WordStyle style → 0 ≤ address → 0 ≤ value →
    ∃ after, (check address value style).run st = .ok () after ∧ SameMemory st after ∧ I after.bus

theorem verifyListed_passes :
    Passes (fun bus => bus.kind = .program ∧ bus.outputMemory = none) @Bus.verifyListed := by
  rintro st address value style ⟨kind, plain⟩ styled above above'
  cases file : st.bus.settings.mainFile with
  | none => exact ⟨st, verifyListed_unwritten style kind file plain above above', .refl st, kind, plain⟩
  | some main =>
    have collects : WordStyle { style with collect := st.bus.settings.embedded } :=
      ⟨styled.unmasked, styled.lane, styled.some_bytes, styled.word⟩
    obtain ⟨c, made⟩ := collects.checkOf_run (address + st.options.apbBase) value st
    have start : (Bus.verifyListed address value style).run st = (do
        if st.bus.settings.embedded then Run.modifyBus fun b => { b with checks := b.checks.push c }
        else
          Run.emit (if style.api then st.bus.settings.apiFile.getD main else main)
            (Bus.Check.statement c style.continues)
        Run.modifyBus fun b => { b with reads := b.reads + 1 } : Run Unit).run st := by
      simp [Bus.verifyListed, Bus.verify, Bus.verifyStatement, kind, plain, file, above, above', Run.check, Run.options,
        made, EStateM.run_bind]
    rw [start]
    cases st.bus.settings.embedded with
    | true => exact ⟨_, rfl, ⟨rfl, rfl, rfl⟩, kind, plain⟩
    | false =>
      have same := (SameMemory.refl st).append (if style.api then st.bus.settings.apiFile.getD main else main)
        (Bus.Check.statement c style.continues)
      refine ⟨_, rfl, ⟨same.images, same.options, same.device⟩, ?_, ?_⟩
      · simpa using kind
      · simpa using plain

/-- A state in which overwriting is an error. -/
structure Watched (I : Bus → Prop) (d : Device) (s : VerifySettings) (out : String) (room : Nat) (st : Session) :
    Prop where
  stops : st.options.noErrorStop = false
  device : st.device = some d
  input : st.room s.input = room
  output : st.room out = room
  -- Only outputs are recorded there, so each mark has a place to report.
  marks : ∀ i : Nat, (st.used out)[i]? ≠ some .loaded
  bus : I st.bus

def Clear (s : VerifySettings) (out : String) (records : List (Nat × Mark)) (st : Session) : Prop :=
  Free records (st.used out) ∧ ∀ r ∈ records, (st.used s.input)[r.1]? = none

structure Gained (s : VerifySettings) (out : String) (records : List (Nat × Mark)) (before after : Session) : Prop where
  words : after.used out = recordAll records (before.used out)
  input : after.used s.input = before.used s.input

theorem clear_append (gained : Gained s out records before middle) :
    Clear s out (records ++ records') before ↔ Clear s out records before ∧ Clear s out records' middle := by
  rw [Clear, Clear, Clear, free_append, gained.words, gained.input]
  simp only [mem_append, or_imp, forall_and]
  constructor
  · rintro ⟨⟨free, free'⟩, apart, apart'⟩
    exact ⟨⟨free, apart⟩, free', apart'⟩
  · rintro ⟨⟨free, apart⟩, free', apart'⟩
    exact ⟨⟨free, free'⟩, apart, apart'⟩

theorem Gained.trans (first : Gained s out records before middle) (second : Gained s out records' middle after) :
    Gained s out (records ++ records') before after := by
  refine ⟨?_, second.input.trans first.input⟩
  rw [second.words, first.words, recordAll, recordAll, recordAll, foldl_append]

theorem Gained.of_same (same : SameMemory before after) : Gained s out [] before after := by
  refine ⟨?_, ?_⟩
  · rw [used, same.images]
    rfl
  · rw [used, same.images]
    rfl

theorem Watched.of_same (watched : Watched I d s out room before) (same : SameMemory before after) (bus : I after.bus) :
    Watched I d s out room after := by
  have rooms : ∀ name, after.room name = before.room name := fun name => by rw [Session.room, same.images, Session.room]
  refine ⟨by rw [same.options, watched.stops], same.device.trans watched.device, (rooms _).trans watched.input,
    (rooms _).trans watched.output, ?_, bus⟩
  rw [used, same.images]
  exact watched.marks

/-- A step returns with the records made if their words are clear, and exits if one is not. -/
def Settles (I : Bus → Prop) (d : Device) (s : VerifySettings) (out : String) (room : Nat) (records : List (Nat × Mark))
    (x : Run α) : Prop :=
  ∀ before, Watched I d s out room before →
    (Clear s out records before ∧
      ∃ a after, x.run before = .ok a after ∧ Watched I d s out room after ∧ Gained s out records before after) ∨
    ¬Clear s out records before ∧ ∃ after, x.run before = .error (.exit 1) after

namespace Settles

theorem bind {x : Run α} {f : α → Run β} (first : Settles I d s out room records x)
    (rest : ∀ a, Settles I d s out room records' (f a)) : Settles I d s out room (records ++ records') (x >>= f) := by
  intro before watched
  rcases first before watched with ⟨clear, a, middle, run, watched', gained⟩ | ⟨taken, after, run⟩
  · rw [EStateM.run_bind, run, clear_append gained]
    rcases rest a middle watched' with ⟨clear', c, after, run', watched'', gained'⟩ | ⟨taken, after, run'⟩
    · exact .inl ⟨⟨clear, clear'⟩, c, after, run', watched'', gained.trans gained'⟩
    · exact .inr ⟨fun both => taken both.2, after, run'⟩
  · refine .inr ⟨?_, after, by rw [EStateM.run_bind, run]⟩
    rintro ⟨free, apart⟩
    exact taken ⟨(free_append.mp free).1, fun r member => apart r (mem_append_left _ member)⟩

theorem of_same {x : Run α} (returns : ∀ before, Watched I d s out room before →
    ∃ a after, x.run before = .ok a after ∧ SameMemory before after ∧ I after.bus) : Settles I d s out room [] x := by
  intro before watched
  obtain ⟨a, after, run, same, bus⟩ := returns before watched
  exact .inl ⟨⟨⟨nodup_nil, by simp⟩, by simp⟩, a, after, run, watched.of_same same bus, .of_same same⟩

theorem pure (a : α) : Settles I d s out room [] (Pure.pure a : Run α) :=
  of_same fun before watched => ⟨a, before, rfl, .refl before, watched.bus⟩

theorem foldlM {f : β → α → Run β} {g : α → List (Nat × Mark)} (xs : List α)
    (each : ∀ x ∈ xs, ∀ a, Settles I d s out room (g x) (f a x)) (a : β) :
    Settles I d s out room (xs.flatMap g) (xs.foldlM f a) := by
  induction xs generalizing a with
  | nil => exact pure a
  | cons x xs ih =>
    rw [flatMap_cons, foldlM_cons]
    exact bind (each x (by simp) a) fun a' => ih (fun y member => each y (mem_cons_of_mem _ member)) a'

theorem forM {f : α → Run PUnit} {g : α → Nat × Mark} (xs : List α)
    (each : ∀ x ∈ xs, Settles I d s out room [g x] (f x)) : Settles I d s out room (xs.map g) (xs.forM f) := by
  induction xs with
  | nil => exact pure _
  | cons x xs ih =>
    rw [forM_eq_forM, forM_cons, map_cons]
    exact bind (each x (by simp)) fun _ => ih fun y member => each y (mem_cons_of_mem _ member)

end Settles

theorem imageWord_run {name : String} {offset : Int} (size : before.room name = room) (above : 0 ≤ offset)
    (below : offset < 4 * room) :
    (imageWord name offset).run before = .ok ((before.used name)[(offset / 4).toNat]?) before := by
  refine imageWord_ok.mpr ⟨rfl, (offset / 4).toNat, ?_, rfl⟩
  rw [size]
  exact position?_word above below

theorem used_mark_other {name other : String} (apart : other ≠ name) (i : Nat) (mark : Mark) :
    (before.mark name i mark).used other = before.used other := by
  simp [used, Session.mark, Std.HashMap.getElem?_modify, apart.symm]

def Guards (word : Option Mark) (x : Run Unit) (before : Session) : Prop :=
  word = none ∧ x.run before = .ok () before ∨ word ≠ none ∧ ∃ after, x.run before = .error (.exit 1) after

theorem guards_word {name : String} {offset : Int} (size : before.room name = room) (above : 0 ≤ offset)
    (below : offset < 4 * room) {f : Option Mark → Run Unit} (free : f none = pure ())
    (taken : ∀ mark, (before.used name)[(offset / 4).toNat]? = some mark →
      ∃ after, (f (some mark)).run before = .error (.exit 1) after) :
    Guards (before.used name)[(offset / 4).toNat]? (imageWord name offset >>= f) before := by
  rw [Guards, EStateM.run_bind, imageWord_run size above below]
  cases found : (before.used name)[(offset / 4).toNat]? with
  | none => exact .inl ⟨rfl, congrArg (EStateM.run · before) free⟩
  | some mark => exact .inr ⟨by simp, taken mark found⟩

theorem Watched.stopIf_run (watched : Watched I d s out room before) (message : String) :
    ∃ after, (Run.stopIf (!before.options.noErrorStop) message).run before = .error (.exit 1) after := by
  rw [watched.stops]
  exact Run.stop_run message before

theorem Watched.mark {offset : Int} {i : Nat} (watched : Watched I d s out room before)
    (here : position? (before.room out) (Bits.down offset 2) = some i) (layer channel row column value : Int) :
    Watched I d s out room (before.mark out i (.output layer channel row column value)) := by
  refine ⟨watched.stops, watched.device, (room_mark ..).trans watched.input, (room_mark ..).trans watched.output, ?_,
    watched.bus⟩
  intro j
  rw [used_mark here, Std.HashMap.getElem?_insert]
  split
  · simp
  · exact watched.marks j

section

variable (recorded : s.output = some out) (refuses : s.overwriteOk = false) (apart : s.input ≠ out)
include recorded refuses apart

theorem Settles.takeWord {offset : Int} (above : 0 ≤ offset) (below : offset < 4 * room)
    (processor channel row column value : Int) :
    Settles I d s out room [((offset / 4).toNat, .output s.layer channel row column value)]
      (takeWord s processor offset channel row column value) := by
  intro before watched
  have start : (Unload.takeWord s processor offset channel row column value).run before =
      (checkInput s (!before.options.noErrorStop) processor offset channel row column >>= fun _ =>
        checkOutput s (!before.options.noErrorStop) out processor offset channel row column >>= fun _ =>
          recordWord out offset (.output s.layer channel row column value)).run before := by
    simp only [Unload.takeWord, checkWord, refuses, recorded, Bool.false_eq_true, if_false,
      bind_assoc, Run.options_bind]
  have input : Guards (before.used s.input)[(offset / 4).toNat]?
      (checkInput s (!before.options.noErrorStop) processor offset channel row column) before := by
    refine guards_word watched.input above below rfl ?_
    rintro (_ | _) _
    · exact watched.stopIf_run _
    · exact watched.stopIf_run _
  have output : Guards (before.used out)[(offset / 4).toNat]?
      (checkOutput s (!before.options.noErrorStop) out processor offset channel row column) before := by
    refine guards_word watched.output above below rfl ?_
    rintro (_ | _) found
    · exact absurd found (watched.marks _)
    · exact watched.stopIf_run _
  have here : position? (before.room out) (Bits.down offset 2) = some (offset / 4).toNat := by
    rw [watched.output]
    exact position?_word above below
  rw [start, EStateM.run_bind]
  rcases input with ⟨clear, run⟩ | ⟨taken, after, run⟩
  · rw [run]
    dsimp only
    rw [EStateM.run_bind]
    rcases output with ⟨clear', run'⟩ | ⟨taken, after, run'⟩
    · rw [run']
      refine .inl ⟨⟨⟨by simp, by simpa using clear'⟩, by simpa using clear⟩, (), _, recordWord_ok.mpr ⟨_, here, rfl⟩,
        watched.mark here .., ?_⟩
      exact ⟨used_mark here _, used_mark_other apart _ _⟩
    · rw [run']
      exact .inr ⟨fun clear => taken (clear.1.2 _ (mem_singleton_self _)), after, rfl⟩
  · rw [run]
    exact .inr ⟨fun clear => taken (clear.2 _ (mem_singleton_self _)), after, rfl⟩

theorem Settles.verifyWord (passes : Passes I check) {w : Int × Int × VerifyStyle} (styled : WordStyle w.2.2)
    (above : 0 ≤ w.1) (below : w.1 < 4 * room) (above' : 0 ≤ w.2.1) (counted : Bool) (processor channel row column : Int) :
    Settles I d s out room [((w.1 / 4).toNat, .output s.layer channel row column w.2.1)] (do
      Unload.takeWord s processor w.1 channel row column w.2.1
      if counted then check w.1 w.2.1 w.2.2) := by
  refine bind (takeWord recorded refuses apart above below processor channel row column w.2.1) fun _ => ?_
  split
  · refine of_same fun before watched => ?_
    obtain ⟨after, run, same, bus⟩ := passes before _ _ w.2.2 watched.bus styled above above'
    exact ⟨(), after, run, same, bus⟩
  · exact pure _

end

def recordsOf (s : VerifySettings) (l : OutputLayout) (d : Device) (data : Tensor) (place : Nat × OutputBlock) :
    List (Nat × Mark) :=
  let (n, b) := place
  let row := n / l.shape.width
  let column := n % l.shape.width
  if b.lanes = 0 then []
  else (pixelWords s l d n b (((laneValues data l b row column).mapM id).getD [])).map fun w =>
    ((w.1 / 4).toNat, .output s.layer b.first row column w.2.1)

theorem mem_recordsOf {r : Nat × Mark} {place : Nat × OutputBlock} (member : r ∈ recordsOf s l d data place) :
    ∃ v, r.2 = .output s.layer place.2.first (place.1 / l.shape.width : Nat) (place.1 % l.shape.width : Nat) v := by
  rw [recordsOf] at member
  split at member
  · cases member
  · obtain ⟨w, _, rfl⟩ := mem_map.mp member
    exact ⟨w.2.1, rfl⟩

theorem pixelWords_addresses (fits : l.Fits b) (shared : d.shared = 4)
    (threshold : count l.processors = l.outExpandThresh)
    (sized : l.size = 1 ∨ l.size = 4) (used : b.lanes ≠ 0) (values : List Int) :
    (pixelWords s l d n b values).map (·.1) = (l.wordsOf (n, b)).map fun w => l.wordAddress d s.gap w.1 w.2 := by
  have some_channels := fits.count_pos used
  rcases sized with bytes | words
  · rw [pixelWords, if_pos bytes, wordsOf, if_neg used, if_pos bytes, map_singleton, map_singleton,
      fits.wordAddress_eq shared threshold (Nat.le_refl _) (by omega), if_pos bytes]
    simp
  · have wide : l.size ≠ 1 := by omega
    have four : b.count ≤ 4 := by
      rw [fits.count_eq]
      exact countBelow_le _ _
    rw [pixelWords, if_neg wide, wordsOf, if_neg used, if_neg wide, map_map, map_map, words, Nat.min_eq_left (by omega)]
    refine map_congr_left fun i member => ?_
    rw [mem_range] at member
    simp only [Function.comp]
    rw [fits.wordAddress_eq shared threshold (Nat.le_add_right _ _) (by omega), if_neg wide, Nat.add_sub_cancel_left]
    omega

theorem lane_count (fits : l.Fits b) (used : b.lanes ≠ 0) :
    ∃ lane : Nat, lowest (l.processors >>> b.processor : Nat) = lane ∧ lane + b.count ≤ 4 := by
  have some_channels := fits.count_pos used
  rw [fits.count_eq, fits.lanes, show (16 : Nat) = 2 ^ 4 from rfl, countBelow_mod _ _ _ (Nat.le_refl 4)] at *
  have positive : l.processors >>> b.processor ≠ 0 := by
    intro zero
    rw [zero] at used
    exact used rfl
  obtain ⟨lane, found, _, below⟩ := lowest_spec positive
  refine ⟨lane, found, ?_⟩
  rcases Nat.le_total lane 4 with inside | outside
  · have split := countBelow_add (l.processors >>> b.processor) lane (4 - lane)
    have rest := countBelow_le (l.processors >>> b.processor >>> lane) (4 - lane)
    rw [Nat.add_sub_cancel' inside] at split
    omega
  · have split := countBelow_add (l.processors >>> b.processor) 4 (lane - 4)
    rw [Nat.add_sub_cancel' outside] at split
    omega

theorem pixelWords_styled (fits : l.Fits b) (used : b.lanes ≠ 0) (values : List Int) :
    ∀ w ∈ pixelWords s l d n b values, WordStyle w.2.2 := by
  intro w member
  rw [pixelWords] at member
  split at member
  · obtain rfl := mem_singleton.mp member
    have some_channels := fits.count_pos used
    have inside := fits.inside
    obtain ⟨lane, found, room⟩ := lane_count fits used
    have kept : (lowest (l.processors >>> b.processor : Nat)).fmod 4 = lane := by
      rw [found, Int.fmod_eq_emod_of_nonneg _ (by decide)]
      omega
    refine ⟨rfl, ?_, ?_, ?_⟩
    all_goals
      simp only [kept]
      omega
  · obtain ⟨i, _, rfl⟩ := mem_map.mp member
    exact ⟨rfl, Int.le_refl 0, by simp, by simp⟩

theorem pixelWords_values {values : List Int} (four : values.length = 4) {w : Int × Int × VerifyStyle}
    (member : w ∈ pixelWords s l d n b values) : 0 ≤ w.2.1 := by
  rw [pixelWords] at member
  split at member
  · obtain rfl := mem_singleton.mp member
    exact packLanes_nonneg four
  · obtain ⟨i, _, rfl⟩ := mem_map.mp member
    exact Int.emod_nonneg _ (by decide)

section

variable (shared : d.shared = 4) (sized : l.size = 1 ∨ l.size = 4) (threshold : count l.processors = l.outExpandThresh)
  (nonempty : l.processors ≠ 0) (lies : l.Lies d s.gap data room) (covers : l.Covers 0 bs)
  (recorded : s.output = some out) (refuses : s.overwriteOk = false) (apart : s.input ≠ out) (passes : Passes I check)
include shared sized threshold nonempty lies covers recorded refuses apart passes

theorem Settles.verifyPixel (listed : (n, b) ∈ places l bs) (used : b.lanes ≠ 0) (counted : Bool) :
    Settles I d s out room (recordsOf s l d data (n, b)) (verifyPixel check s l d data n b counted) := by
  have fits := covers.fits b (mem_places.mp listed).2
  obtain ⟨values, known⟩ := known_of_dims lies.channels lies.height lies.width listed
  rw [recordsOf, if_neg used, known, Unload.verifyPixel, known]
  refine Settles.forM _ fun w member => ?_
  have address : w.1 ∈ (l.wordsOf (n, b)).map fun w => l.wordAddress d s.gap w.1 w.2 := by
    rw [← pixelWords_addresses fits shared threshold sized used values]
    exact mem_map_of_mem member
  obtain ⟨place, word, same⟩ := mem_map.mp address
  obtain ⟨above, below⟩ := lies.words _ _ (isWord_of_mem covers nonempty (mem_flatMap.mpr ⟨_, listed, word⟩))
  rw [same] at above below
  exact verifyWord recorded refuses apart passes (pixelWords_styled fits used values w member) above below
    (pixelWords_values (laneValues_some known).1 member)
    counted _ _ _ _

theorem Settles.verifyCounted (listed : (n, b) ∈ places l bs) (limit : Option Int) (k : Int) :
    Settles I d s out room (recordsOf s l d data (n, b)) (verifyCounted check s l d data limit k n b) := by
  rw [Unload.verifyCounted]
  by_cases used : b.lanes = 0
  · rw [if_pos used, recordsOf, if_pos used]
    exact Settles.pure _
  · rw [if_neg used, ← append_nil (recordsOf s l d data (n, b))]
    refine bind (verifyPixel shared sized threshold nonempty lies covers recorded refuses apart passes listed used _)
      fun _ => of_same fun before watched => ?_
    split
    · split
      · rename_i notes _
        exact ⟨k + 1, before.append notes _, rfl, (SameMemory.refl before).append notes _,
          by rw [append_bus]; exact watched.bus⟩
      · exact ⟨k + 1, before, rfl, .refl before, watched.bus⟩
    · exact ⟨k + 1, before, rfl, .refl before, watched.bus⟩

theorem Settles.verifyDirect (found : l.blocks d = .ok bs) :
    Settles I d s out room ((places l bs).flatMap (recordsOf s l d data)) (verifyDirect check s l data) := by
  intro before watched
  have start : (Unload.verifyDirect check s l data).run before =
      ((places l bs).foldlM (fun k (place : Nat × OutputBlock) =>
        Unload.verifyCounted check s l d data before.options.maxCount k place.1 place.2) 0 >>= fun _ =>
          Pure.pure ()).run before := by
    rw [Unload.verifyDirect, Run.device_bind watched.device, Run.options_bind, if_neg nonempty]
    by_cases empty : l.shape.pixels = 0
    · rw [if_pos empty, places, empty]
      rfl
    · simp only [if_neg empty, found, Run.lift, pure_bind]
      rfl
  rw [start, ← append_nil (flatMap ..)]
  refine bind (foldlM (places l bs) (fun place listed k => ?_) 0) (fun _ => pure _) before watched
  exact verifyCounted shared sized threshold nonempty lies covers recorded refuses apart passes listed _ k

end

section

variable (shared : d.shared = 4) (sized : l.size = 1 ∨ l.size = 4) (threshold : count l.processors = l.outExpandThresh)
  (covers : l.Covers 0 bs)
include shared sized threshold covers

theorem recordsOf_words {place : Nat × OutputBlock} (listed : place ∈ places l bs) :
    (recordsOf s l d data place).map Prod.fst = (l.wordsOf place).map fun w => l.wordAt d s.gap w.1 w.2 := by
  have fits := covers.fits place.2 (mem_places.mp listed).2
  by_cases used : place.2.lanes = 0
  · rw [recordsOf, if_pos used, wordsOf, if_pos used, map_nil, map_nil]
  · have addresses := pixelWords_addresses (s := s) (n := place.1) fits shared threshold sized used
      (((laneValues data l place.2 (place.1 / l.shape.width) (place.1 % l.shape.width)).mapM id).getD [])
    have quarters := congrArg (map fun a : Int => (a / 4).toNat) addresses
    rw [map_map, map_map] at quarters
    rw [recordsOf, if_neg used, map_map]
    exact quarters

theorem recordsOf_places :
    ((places l bs).flatMap (recordsOf s l d data)).map Prod.fst =
      ((places l bs).flatMap l.wordsOf).map fun w => l.wordAt d s.gap w.1 w.2 := by
  rw [map_flatMap, map_flatMap]
  exact flatMap_congr fun place listed => recordsOf_words shared sized threshold covers listed

theorem clear_iff (nonempty : l.processors ≠ 0) : Clear s out ((places l bs).flatMap (recordsOf s l d data)) before ↔
    ¬l.Overwrites d s.gap (before.used s.input) (before.used out) := by
  have each : ∀ P : Nat → Prop, (∀ r ∈ (places l bs).flatMap (recordsOf s l d data), P r.1) ↔
      ∀ w ∈ (places l bs).flatMap l.wordsOf, P (l.wordAt d s.gap w.1 w.2) := by
    intro P
    refine forall_mem_map.symm.trans ?_
    rw [recordsOf_places shared sized threshold covers]
    exact forall_mem_map
  rw [not_overwrites_iff threshold covers shared nonempty, Clear, Free, recordsOf_places shared sized threshold covers,
    each fun i => (before.used out)[i]? = none, each fun i => (before.used s.input)[i]? = none]
  constructor
  · rintro ⟨⟨nodup, free⟩, free'⟩
    exact ⟨nodup, fun w member => ⟨free' w member, free w member⟩⟩
  · rintro ⟨nodup, free⟩
    exact ⟨⟨nodup, fun w member => (free w member).2⟩, fun w member => (free w member).1⟩

theorem Gained.word
    (gained : Gained s out ((places l bs).flatMap (recordsOf s l d data)) before after)
    (clear : Clear s out ((places l bs).flatMap (recordsOf s l d data)) before) (word : l.IsWord c n) :
    ∃ first v, (after.used out)[l.wordAt d s.gap c n]? =
      some (.output s.layer first (n / l.shape.width : Nat) (n % l.shape.width : Nat) v) := by
  obtain ⟨w, member, ⟨pixel, _⟩, here⟩ := exists_word threshold covers shared s.gap word
  obtain ⟨place, listed, member⟩ := mem_flatMap.mp member
  have same := (mem_wordsOf (covers.fits _ (mem_places.mp listed).2) member).1
  have index := mem_map_of_mem (f := fun w => l.wordAt d s.gap w.1 w.2) member
  have records : (recordsOf s l d data place).map Prod.fst = _ := recordsOf_words shared sized threshold covers listed
  rw [← records, here] at index
  obtain ⟨r, made, index⟩ := mem_map.mp index
  obtain ⟨v, mark⟩ := mem_recordsOf made
  obtain ⟨pre, post, split⟩ := append_of_mem (mem_flatMap.mpr ⟨place, listed, made⟩)
  have last : ∀ r' ∈ post, r'.1 ≠ r.1 := by
    intro r' later same
    have nodup := clear.1.1
    rw [split, map_append, map_cons, nodup_append, nodup_cons] at nodup
    exact nodup.2.1.1 (same ▸ mem_map_of_mem later)
  refine ⟨place.2.first, v, ?_⟩
  rw [gained.words, split, ← index, recordAll_last last, mark, ← same, pixel]

theorem Gained.other {i : Nat} (nonempty : l.processors ≠ 0)
    (gained : Gained s out ((places l bs).flatMap (recordsOf s l d data)) before after)
    (other : ∀ c n, l.IsWord c n → l.wordAt d s.gap c n ≠ i) : (after.used out)[i]? = (before.used out)[i]? := by
  rw [gained.words]
  apply recordAll_other
  intro r member same
  have place := mem_map_of_mem (f := Prod.fst) member
  rw [recordsOf_places shared sized threshold covers, same] at place
  obtain ⟨w, member, here⟩ := mem_map.mp place
  exact other _ _ (isWord_of_mem covers nonempty member) here

end

theorem saveResult_bus (s : VerifySettings) (data : Tensor) {u : Unit}
    (run : (saveResult s data).run before = .ok u after) :
    after.bus = before.bus := by
  simp only [saveResult, bind_ok, Run.options_ok] at run
  obtain ⟨_, _, ⟨rfl, rfl⟩, run⟩ := run
  split at run
  · simp only [bind_ok, Run.orFail_ok, Run.createFile, get_ok, Run.lift_ok, modify_ok] at run
    obtain ⟨_, _, ⟨_, rfl⟩, _, _, ⟨_, _, ⟨rfl, rfl⟩, _, _, ⟨_, rfl⟩, rfl⟩, rfl⟩ := run
    rfl
  · rw [(pure_ok.mp run).2]

/-- Overwriting is reported exactly: the check of an output exits iff a word of it lies on one of the layer's input, on
one that is recorded as output, or on another one of its own. If not, the words of the output are recorded. -/
theorem verify_reports_overwrites {check : Verifier} {I : Bus → Prop} {out : String} (shared : d.shared = 4)
    (bits : l.bits = 8 ∨ l.bits = 32) (threshold : count l.processors = l.outExpandThresh)
    (direct : s.interleaved = false)
    (recorded : s.output = some out) (refuses : s.overwriteOk = false) (apart : s.input ≠ out) (passes : Passes I check)
    (data : Tensor) (before : Session) (watched : Watched I d s out room before) (lies : l.Lies d s.gap data room)
    (saved : Returns (saveResult s data) before) :
    ((∃ after, (verify check s l data).run before = .error (.exit 1) after) ↔
      l.Overwrites d s.gap (before.used s.input) (before.used out)) ∧
    (l.processors ≠ 0 → (Returns (verify check s l data) before ↔
      ¬l.Overwrites d s.gap (before.used s.input) (before.used out))) ∧
    ∀ after, (verify check s l data).run before = .ok () after →
      after.used s.input = before.used s.input ∧
      (∀ c n, l.IsWord c n → ∃ first v, (after.used out)[l.wordAt d s.gap c n]? =
        some (.output s.layer first (n / l.shape.width : Nat) (n % l.shape.width : Nat) v)) ∧
      ∀ i : Nat, (∀ c n, l.IsWord c n → l.wordAt d s.gap c n ≠ i) → (after.used out)[i]? = (before.used out)[i]? := by
  obtain ⟨u, middle, saved⟩ := saved
  have same := Steady.same (Stays.saveResult s data) saved
  have watched' := watched.of_same same (by rw [saveResult_bus s data saved]; exact watched.bus)
  have start : (verify check s l data).run before = (verifyDirect check s l data).run middle := by
    rw [verify_direct (.inl direct), EStateM.run_bind, saved]
  have kept : ∀ name, middle.used name = before.used name := fun name => by rw [used, same.images, used]
  rw [Returns, start, ← kept s.input, ← kept out]
  by_cases nonempty : l.processors = 0
  · have failed : (verifyDirect check s l data).run middle = .error .value middle := by
      rw [verifyDirect, Run.device_bind watched'.device, Run.options_bind, if_pos nonempty]
      rfl
    rw [failed]
    refine ⟨⟨?_, ?_⟩, absurd nonempty, by rintro _ ⟨⟩⟩
    · rintro ⟨_, ⟨⟩⟩
    · rintro ⟨_, _, word, _⟩
      exact absurd nonempty word.1
  · obtain ⟨bs, found, covers⟩ := blocks_covers shared nonempty threshold
    have sized := size_of_bits bits
    have clear : Clear s out ((places l bs).flatMap (recordsOf s l d data)) middle ↔ _ :=
      clear_iff shared sized threshold covers nonempty
    rcases Settles.verifyDirect shared sized threshold nonempty lies covers recorded refuses apart passes found middle
      watched' with ⟨free, _, after, run, _, gained⟩ | ⟨taken, after, run⟩
    · rw [run]
      refine ⟨⟨?_, fun taken => absurd taken (clear.mp free)⟩,
        fun _ => ⟨fun _ => clear.mp free, fun _ => ⟨_, _, rfl⟩⟩, ?_⟩
      · rintro ⟨_, ⟨⟩⟩
      · rintro _ ⟨⟩
        exact ⟨gained.input, fun c n word => gained.word shared sized threshold covers free word,
          fun i other => gained.other shared sized threshold covers nonempty other⟩
    · have overwrites := Classical.not_not.mp (mt clear.mpr taken)
      rw [run]
      refine ⟨⟨fun _ => overwrites, fun _ => ⟨after, rfl⟩⟩, fun _ => ⟨?_, fun none => absurd overwrites none⟩, ?_⟩
      · rintro ⟨_, _, ⟨⟩⟩
      · rintro _ ⟨⟩

def checkingSettings (gap : Int) : VerifySettings := { layer := 1, gap, input := "input", output := some "output" }

def pairedMemory : Session :=
  { device := some max78000
    bus := { kind := .program, settings := { mainFile := some (.stream "main") } }
    images := Std.HashMap.ofList [("input", { size := 0x400000 }), ("output", { size := 0x400000 })] }

/-- Two processors take words of their own, unless the gap between pixels reaches from one memory to the next. -/
theorem verify_reports_gap :
    (∃ after, (verify @Bus.verifyListed (checkingSettings 8191) pairLayout (.ofFn [2, 1, 2] fun k => k + 1)).run
      pairedMemory = .error (.exit 1) after) ∧
    Returns (verify @Bus.verifyListed (checkingSettings 0) pairLayout
      (.ofFn [2, 1, 2] fun k => k + 1)) pairedMemory := by
  have images : pairedMemory.images["input"]? = some { size := 0x400000 } ∧
      pairedMemory.images["output"]? = some { size := 0x400000 } := by
    simp [pairedMemory, Std.HashMap.ofList_cons, Std.HashMap.getElem_insert]
  have empty : pairedMemory.used "input" = {} ∧ pairedMemory.used "output" = {} := by
    simp [Session.used, images]
  have watched : ∀ gap, Watched (fun bus => bus.kind = .program ∧ bus.outputMemory = none) max78000
      (checkingSettings gap) "output" 0x400000 pairedMemory := by
    intro gap
    refine ⟨rfl, rfl, ?_, ?_, ?_, rfl, rfl⟩
    · simp [Session.room, checkingSettings, images]
    · simp [Session.room, images]
    · simp [empty]
  have lies : ∀ gap ∈ [0, 8191], pairLayout.Lies max78000 gap (.ofFn [2, 1, 2] fun k => k + 1) 0x400000 := by
    intro gap member
    refine ⟨by decide, by decide, by decide, fun c n word => ?_⟩
    obtain ⟨_, channel, pixel⟩ := word
    have inside : ∀ gap ∈ [0, 8191], ∀ c < 2, ∀ n < 2, 0 ≤ pairLayout.wordAddress max78000 gap c n ∧
        pairLayout.wordAddress max78000 gap c n < 4 * (0x400000 : Nat) := by decide
    exact inside gap member c channel n pixel
  have reports := fun gap member => verify_reports_overwrites (l := pairLayout) (s := checkingSettings gap)
    rfl (.inl rfl) (by decide) rfl rfl rfl (show "input" ≠ "output" by decide) verifyListed_passes
    (.ofFn [2, 1, 2] fun k => k + 1) pairedMemory (watched gap) (lies gap member) ⟨(), pairedMemory, rfl⟩
  constructor
  · refine (reports 8191 (by decide)).1.mpr ⟨0, 1, ⟨by decide, by decide, by decide⟩, .inr (.inr ?_)⟩
    exact ⟨1, 0, ⟨by decide, by decide, by decide⟩, by rintro ⟨⟨⟩, _⟩, by decide⟩
  · refine ((reports 0 (by decide)).2.1 (by decide)).mpr ?_
    rintro ⟨c, n, ⟨_, channel, pixel⟩, clash⟩
    rw [checkingSettings, empty.1, empty.2] at clash
    have words : ∀ c < 2, ∀ n < 2, pairLayout.wordAt max78000 0 c n = 0x100000 + 0x2000 * c + n := by decide
    rcases clash with taken | taken | ⟨c', n', ⟨_, channel', pixel'⟩, apart, same⟩
    · exact taken (by simp)
    · exact taken (by simp)
    · have here := words c channel n pixel
      have there := words c' channel' n' pixel'
      have : pairLayout.shape.channels = 2 ∧ pairLayout.shape.pixels = 2 := ⟨rfl, rfl⟩
      obtain ⟨rfl, rfl⟩ : c' = c ∧ n' = n := by
        simp only at same
        omega
      exact apart ⟨rfl, rfl, rfl⟩

end Unload

end CnnForge
