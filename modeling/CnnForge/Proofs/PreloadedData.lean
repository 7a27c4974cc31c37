import CnnForge.Bus.PreloadFiles
import CnnForge.Proofs.BiasLoading

namespace CnnForge

open Outcome List Accelerator Session

namespace Device

variable {d : Device} {a : Int} {l : DataLocation}

def dataBlocks (d : Device) : Nat := (d.groupSize + d.shared - 1) / d.shared

def memoryWords (d : Device) : Int := Int.fdiv (d.instanceWidth * 4) d.instanceCount

/-- The address of a whole word in the data memory of a block, as input is loaded to. -/
def Loadable (d : Device) (a : Int) : Prop :=
  ∃ group < d.groups, ∃ block < d.dataBlocks, ∃ offset < d.instanceWidth * 16, 4 ∣ offset ∧
    a = d.dataBase + d.groupSpacing * group + d.instanceSize * 16 * block + offset

def Holds (d : Device) (l : DataLocation) : Prop :=
  (0 ≤ l.group ∧ l.group < d.groups) ∧ (0 ≤ l.block ∧ l.block < d.dataBlocks) ∧
    (0 ≤ l.memory ∧ l.memory < d.instanceCount) ∧ 0 ≤ l.word ∧ l.word < d.memoryWords

def addressOf (d : Device) (l : DataLocation) : Int :=
  d.dataBase + d.groupSpacing * l.group + d.instanceSize * 16 * l.block + 4 * (d.memoryWords * l.memory + l.word)

section

variable (device : d = max78000 ∨ d = max78002)
include device

theorem holds_dataLocation (formed : d.Loadable a) :
    d.Holds (d.dataLocation a) ∧ d.addressOf (d.dataLocation a) = a := by
  obtain ⟨group, some_group, block, some_block, offset, inside, whole, rfl⟩ := formed
  rcases device with rfl | rfl <;>
    simp only [max78000, max78002, dataBlocks, Holds, addressOf, dataLocation, memoryWords, Int.fdiv_eq_ediv_of_nonneg,
      Int.fmod_eq_emod_of_nonneg, Nat.cast_ofNat, Nat.cast_one, Int.ediv_one, Int.reduceMul, Int.reduceDiv,
      Int.reduceLE] at * <;>
    omega

theorem dataLocation_addressOf (holds : d.Holds l) :
    d.Loadable (d.addressOf l) ∧ d.dataLocation (d.addressOf l) = l := by
  obtain ⟨group, block, memory, word⟩ := l
  obtain ⟨some_group, some_block, some_memory, some_word⟩ := holds
  refine ⟨⟨group.toNat, ?_, block.toNat, ?_, (4 * (d.memoryWords * memory + word)).toNat, ?_, ?_, ?_⟩, ?_⟩ <;>
    rcases device with rfl | rfl <;>
    simp only [max78000, max78002, dataBlocks, addressOf, dataLocation, memoryWords, DataLocation.mk.injEq,
      Int.fdiv_eq_ediv_of_nonneg, Int.fmod_eq_emod_of_nonneg, Nat.cast_ofNat, Nat.cast_one, Int.ediv_one,
      Int.reduceMul, Int.reduceDiv, Int.reduceLE] at * <;>
    omega

theorem Loadable.nonneg (formed : d.Loadable a) : 0 ≤ a := by
  obtain ⟨group, _, block, _, offset, _, _, rfl⟩ := formed
  rcases device with rfl | rfl <;> simp only [max78000, max78002] <;> omega

theorem dataLocation_injOn {b : Int} (formed : d.Loadable a) (formed' : d.Loadable b)
    (same : d.dataLocation a = d.dataLocation b) : a = b := by
  rw [← (holds_dataLocation device formed).2, same, (holds_dataLocation device formed').2]

end

end Device

def Device.DataLocation.key (l : Device.DataLocation) : Nat × Nat × Nat := (l.group.toNat, l.block.toNat, l.memory.toNat)

theorem Device.Holds.ext {d : Device} {l l' : Device.DataLocation} (holds : d.Holds l) (holds' : d.Holds l')
    (same : l.key = l'.key) (word : l.word = l'.word) : l = l' := by
  obtain ⟨⟨low, _⟩, ⟨low₂, _⟩, ⟨low₃, _⟩, _⟩ := holds
  obtain ⟨⟨low', _⟩, ⟨low₂', _⟩, ⟨low₃', _⟩, _⟩ := holds'
  obtain ⟨group, block, memory, _⟩ := l
  obtain ⟨group', block', memory', _⟩ := l'
  simp only [Device.DataLocation.key, Prod.mk.injEq, Device.DataLocation.mk.injEq] at *
  omega

namespace Preload

def Covers (p : Preload Int) (d : Device) : Prop :=
  p.groups = d.groups ∧ p.processors = d.dataBlocks ∧ p.instances = d.instanceCount

def entriesOf (p : Preload Int) (key : Nat × Nat × Nat) : List (Int × Int) := (p.entries.getD key #[]).toList

variable {p : Preload Int} {d : Device} {l : Device.DataLocation}

theorem locate?_of_holds (covers : p.Covers d) (holds : d.Holds l) :
    p.locate? l.group l.block l.memory = some l.key := by
  have place : ∀ {n : Nat} {i : Int}, 0 ≤ i ∧ i < n → position? n i = some i.toNat := by
    intro n i ⟨low, high⟩
    obtain ⟨k, rfl⟩ := Int.eq_ofNat_of_zero_le low
    exact position?_natCast (by omega)
  rw [locate?, covers.1, covers.2.1, covers.2.2, place holds.1, place holds.2.1, place holds.2.2.1]
  rfl

theorem entriesOf_add (key key' : Nat × Nat × Nat) (word x : Int) :
    (p.add key word x).entriesOf key' = p.entriesOf key' ++ if key = key' then [(word, x)] else [] := by
  simp only [add, entriesOf, Std.HashMap.getD_eq_getD_getElem?, Std.HashMap.getElem?_alter, beq_iff_eq]
  split
  · rename_i same
    subst same
    simp
  · simp

end Preload

namespace Bus

structure DataWrite where
  address : Int
  value : Int
  comment : String := ""
  indent : String := "  "
  noVerify : Bool := false

namespace DataWrite

def perform (w : DataWrite) : Run Unit :=
  writeData w.address w.value { comment := w.comment, indent := w.indent, noVerify := w.noVerify }

def store (base : Int) (w : DataWrite) : Store := ⟨w.address + base, w.value, w.comment⟩

def statement (base : Int) (compare : Bool) (w : DataWrite) : String :=
  s!"{w.indent}{cell (w.address + base)} = {Datum.text w.value};{w.comment}\n" ++
    if compare && !w.noVerify then
      s!"{w.indent}if ({cell (w.address + base)} != {Datum.text w.value}) return CNN_FAIL;\n" else ""

variable {w : DataWrite} {s : Session} {d : Device} {p : Preload Int}

theorem perform_preloaded (kind : s.bus.kind = .program) (device : s.device = some d)
    (stored : s.bus.dataMemory = some p) (covers : p.Covers d) (holds : d.Holds (d.dataLocation w.address)) :
    w.perform.run s = .ok () { s with bus := { s.bus with
      dataMemory := some (p.add (d.dataLocation w.address).key (d.dataLocation w.address).word w.value) } } := by
  simp only [perform, writeData, bind_ok, get_ok]
  refine ⟨s, s, ⟨rfl, rfl⟩, s, s, ⟨rfl, rfl⟩, ?_⟩
  simp only [kind, stored, Option.isSome_some, Option.isNone_none, beq_self_eq_true, Bool.and_self, if_true, bind_ok, get_ok,
    Run.device_ok, Run.orFail_ok, Run.modifyBus, modify_ok]
  refine ⟨d, s, ⟨device, rfl⟩, s, s, ⟨rfl, rfl⟩, (d.dataLocation w.address).key, s, ⟨?_, rfl⟩, ?_⟩
  · rw [stored]
    exact Preload.locate?_of_holds covers holds
  · rw [kind, stored]
    rfl

theorem forM_perform_preloaded {writes : List DataWrite} (kind : s.bus.kind = .program) (device : s.device = some d)
    (stored : s.bus.dataMemory = some p) (covers : p.Covers d)
    (holds : ∀ w ∈ writes, d.Holds (d.dataLocation w.address)) :
    ∃ q : Preload Int, (writes.forM perform).run s = .ok () { s with bus := { s.bus with dataMemory := some q } } ∧
      ∀ key, q.entriesOf key = p.entriesOf key ++ (writes.filter fun w => (d.dataLocation w.address).key = key).map
        fun w => ((d.dataLocation w.address).word, w.value) := by
  induction writes generalizing s p with
  | nil =>
    refine ⟨p, ?_, by simp⟩
    rw [← stored]
    rfl
  | cons w writes ih =>
    obtain ⟨q, run, entries⟩ := ih (s := { s with bus := { s.bus with
      dataMemory := some (p.add (d.dataLocation w.address).key (d.dataLocation w.address).word w.value) } })
      kind device rfl covers fun w member => holds w (mem_cons_of_mem _ member)
    refine ⟨q, bind_ok.mpr ⟨(), _, perform_preloaded kind device stored covers (holds w (by simp)), run⟩, fun key => ?_⟩
    rw [entries, Preload.entriesOf_add, append_assoc, filter_cons]
    by_cases same : (d.dataLocation w.address).key = key <;> simp [same]

/-- A writer of a program that has no memories to fill. -/
structure Direct (o : Options) (settings : BusSettings) (out : Sink) (s : Session) : Prop where
  kind : s.bus.kind = .program
  stored : s.bus.dataMemory = none
  options : s.options = o
  settings : s.bus.settings = settings
  takes : s.TakesText out

variable {o : Options} {settings : BusSettings} {out : Sink}

theorem Direct.emits (direct : Direct o settings out s) (t : String) {f : Bus → Bus}
    (kept : ∀ b, (f b).kind = b.kind ∧ (f b).dataMemory = b.dataMemory ∧ (f b).settings = b.settings) :
    ∃ t', (do Run.emit out t; Run.modifyBus f).run s = .ok () t' ∧ Direct o settings out t' ∧
      t'.text out = s.text out ++ t := by
  obtain ⟨kind, stored, same⟩ := kept (s.append out t).bus
  refine ⟨_, bind_ok.mpr ⟨(), _, Run.emit_ok.mpr rfl, modify_ok.mpr rfl⟩, ⟨?_, ?_, ?_, ?_, ?_⟩, ?_⟩
  · rw [kind, append_bus, direct.kind]
  · rw [stored, append_bus, direct.stored]
  · rw [append_options, direct.options]
  · rw [same, append_bus, direct.settings]
  · exact takesText_bus (takesText_append direct.takes out t) _
  · rw [text_bus, text_append direct.takes]

theorem perform_direct (direct : Direct o settings out s) (library : librarySink settings = some out)
    (value : 0 ≤ w.value) (address : 0 ≤ w.address) :
    ∃ t, w.perform.run s = .ok () t ∧ Direct o settings out t ∧
      t.text out = s.text out ++ w.statement o.apbBase settings.verifyWrites := by
  let counted (b : Bus) : Bus := { b with writes := b.writes + 1 }
  let compared (b : Bus) : Bus := { b with reads := b.reads + 1 }
  let line := s!"{w.indent}if ({cell (w.address + o.apbBase)} != {Datum.text w.value}) return CNN_FAIL;\n"
  obtain ⟨middle, stores, written, text⟩ := direct.emits
    s!"{w.indent}{cell (w.address + o.apbBase)} = {Datum.text w.value};{w.comment}\n" (f := counted) fun _ => ⟨rfl, rfl, rfl⟩
  obtain ⟨t, compares, last, text'⟩ : ∃ t, (if settings.verifyWrites && !w.noVerify then (do
      Run.emit out line; Run.modifyBus compared) else pure ()).run middle = .ok () t ∧ Direct o settings out t ∧
      t.text out = middle.text out ++ if settings.verifyWrites && !w.noVerify then line else "" := by
    split
    · exact written.emits line fun _ => ⟨rfl, rfl, rfl⟩
    · exact ⟨middle, rfl, written, String.append_empty.symm⟩
  refine ⟨t, ?_, last, by rw [text', text, String.append_assoc]; rfl⟩
  unfold perform writeData
  refine bind_ok.mpr ⟨s, s, get_ok.mpr ⟨rfl, rfl⟩, bind_ok.mpr ⟨s, s, get_ok.mpr ⟨rfl, rfl⟩, ?_⟩⟩
  simp only [direct.stored, Option.isSome_none, Bool.and_false, Bool.false_and, Bool.false_eq_true, if_false]
  refine bind_ok.mpr ⟨s, s, get_ok.mpr ⟨rfl, rfl⟩, ?_⟩
  rw [direct.kind]
  unfold writeStatement
  refine bind_ok.mpr ⟨(), s, Run.check_ok.mpr ⟨decide_eq_true value, rfl⟩, bind_ok.mpr ⟨(), s,
    Run.check_ok.mpr ⟨decide_eq_true address, rfl⟩, bind_ok.mpr ⟨o, s, Run.options_ok.mpr ⟨direct.options, rfl⟩,
    bind_ok.mpr ⟨s, s, get_ok.mpr ⟨rfl, rfl⟩, ?_⟩⟩⟩⟩
  rw [direct.settings]
  dsimp only
  rw [library]
  dsimp only
  rw [← bind_assoc]
  exact bind_ok.mpr ⟨(), middle, stores, compares⟩

theorem forM_perform_direct {writes : List DataWrite} (direct : Direct o settings out s)
    (library : librarySink settings = some out) (some_words : ∀ w ∈ writes, 0 ≤ w.value ∧ 0 ≤ w.address) :
    ∃ t, (writes.forM perform).run s = .ok () t ∧
      t.text out = s.text out ++ String.join (writes.map (statement o.apbBase settings.verifyWrites)) := by
  induction writes generalizing s with
  | nil => exact ⟨s, rfl, String.append_empty.symm⟩
  | cons w writes ih =>
    obtain ⟨value, address⟩ := some_words w (by simp)
    obtain ⟨middle, first, direct, text⟩ := perform_direct direct library value address
    obtain ⟨t, rest, text'⟩ := ih direct fun w member => some_words w (mem_cons_of_mem _ member)
    refine ⟨t, bind_ok.mpr ⟨(), middle, first, rest⟩, ?_⟩
    rw [text', text, map_cons, String.join_cons, String.append_assoc]

end DataWrite

open DataWrite Device

/-- A program that writes words to data memory, with or without memories that are filled beforehand. -/
def writing (settings : BusSettings) (preload : Bool) (writes : List DataWrite) : Run Unit := do
  Run.modifyOptions fun o => { o with rtlPreload := preload }
  start .program settings
  writes.forM perform

/-- Settings of a simulation whose input is written to data memory word by word. -/
def LoadsWords (o : Options) (settings : BusSettings) : Prop :=
  settings.embedded = false ∧ settings.embeddedHost = false ∧ settings.fifo = false ∧ settings.fastFifo = false ∧
    o.compactData = false

instance (o : Options) (settings : BusSettings) : Decidable (LoadsWords o settings) :=
  inferInstanceAs (Decidable (_ ∧ _))

variable {d : Device} {s : Session} {settings : BusSettings} {out : Sink}

theorem writing_starts (device : s.device = some d) (words : LoadsWords s.options settings) (takes : s.TakesText out)
    (preload : Bool) (writes : List DataWrite) :
    ∃ t, (writing settings preload writes).run s = (writes.forM perform).run t ∧ t.bus.kind = .program ∧
      t.device = some d ∧ t.bus.settings = settings ∧ t.options.apbBase = s.options.apbBase ∧ t.TakesText out ∧
      t.text out = s.text out ∧
      t.bus.dataMemory = if preload then some ⟨d.groups, d.dataBlocks, d.instanceCount, {}⟩ else none := by
  obtain ⟨embedded, host, fifo, fast, compact⟩ := words
  let chosen : Session := { s with options := { s.options with rtlPreload := preload } }
  have same : chosen.TakesText out ∧ chosen.text out = s.text out := by
    cases out <;> exact ⟨takes, rfl⟩
  obtain ⟨t, ran, facts⟩ : ∃ t, (start .program settings).run chosen = .ok () t ∧ t.bus.kind = .program ∧
      t.device = some d ∧ t.bus.settings = settings ∧ t.options.apbBase = s.options.apbBase ∧ t.TakesText out ∧
      t.text out = s.text out ∧
      t.bus.dataMemory = if preload then some ⟨d.groups, d.dataBlocks, d.instanceCount, {}⟩ else none := by
    refine ⟨_, bind_ok.mpr ⟨d, chosen, Run.device_ok.mpr ⟨device, rfl⟩, bind_ok.mpr ⟨chosen.options, chosen,
      Run.options_ok.mpr ⟨rfl, rfl⟩, modify_ok.mpr rfl⟩⟩, rfl, device, rfl, rfl, takesText_bus same.1 _,
      by rw [text_bus, same.2], ?_⟩
    simp [chosen, embedded, host, fifo, fast, compact, dataBlocks]
  refine ⟨t, ?_, facts⟩
  have chooses : (Run.modifyOptions fun o => { o with rtlPreload := preload }).run s = .ok () chosen := rfl
  rw [writing, EStateM.run_bind, chooses]
  dsimp only
  rw [EStateM.run_bind, ran]

def fileOrder (entries : List (Int × Int)) : List (Int × Int) :=
  entries.mergeSort fun a b => if a.1 ≠ b.1 then a.1 < b.1 else decide (Text.hex 8 a.2 ≤ Text.hex 8 b.2)

theorem preloadText_eq (entries : Array (Int × Int)) :
    preloadText (Text.hex 8) entries =
      String.join ((fileOrder entries.toList).map fun e => s!"@{Text.hex 4 e.1} {Text.hex 8 e.2}\n") := by
  have sorted := map_mergeSort (f := fun e : Int × Int => (e.1, Text.hex 8 e.2)) (l := entries.toList)
    (r := fun a b => if a.1 ≠ b.1 then a.1 < b.1 else decide (Text.hex 8 a.2 ≤ Text.hex 8 b.2))
    (s := fun a b => if a.1 ≠ b.1 then a.1 < b.1 else decide (a.2 ≤ b.2)) fun _ _ _ _ => rfl
  rw [preloadText, ← sorted, map_map]
  rfl

/-- What the words of a memory are after the lines of its file were loaded. -/
def loadFile (p : Preload Int) (key : Nat × Nat × Nat) (memory : RegisterFile) : RegisterFile :=
  execute ((fileOrder (p.entriesOf key)).map fun e => ⟨e.1, e.2, ""⟩) memory

section

variable {p : Preload Int} {writes : List DataWrite} {a : Int} (device : d = max78000 ∨ d = max78002)
  (distinct : (writes.map (·.address)).Nodup) (formed : ∀ w ∈ writes, d.Loadable w.address)
include device distinct formed

/-- The file of a memory leaves at each word what the writes leave at its address. -/
theorem loadFile_eq_execute (loadable : d.Loadable a) (memory : RegisterFile) (base : Int)
    (entries : ∀ key, p.entriesOf key = (writes.filter fun w => (d.dataLocation w.address).key = key).map
      fun w => ((d.dataLocation w.address).word, w.value)) :
    loadFile p (d.dataLocation a).key (fun word => memory (d.addressOf { d.dataLocation a with word } + base))
      (d.dataLocation a).word = execute (writes.map (store base)) memory (a + base) := by
  have lines : ∀ x : Store, x ∈ (fileOrder (p.entriesOf (d.dataLocation a).key)).map (fun e => ⟨e.1, e.2, ""⟩) ↔
      ∃ w ∈ writes, (d.dataLocation w.address).key = (d.dataLocation a).key ∧
        x = ⟨(d.dataLocation w.address).word, w.value, ""⟩ := by
    intro x
    simp only [entries, fileOrder, mem_map, mem_mergeSort, mem_filter, decide_eq_true_eq]
    constructor
    · rintro ⟨_, ⟨w, ⟨member, same⟩, rfl⟩, rfl⟩
      exact ⟨w, member, same, rfl⟩
    · rintro ⟨w, member, same, rfl⟩
      exact ⟨_, ⟨w, ⟨member, same⟩, rfl⟩, rfl⟩
  -- Memory and word tell the address of a write.
  have address : ∀ w ∈ writes, (d.dataLocation w.address).key = (d.dataLocation a).key →
      (d.dataLocation w.address).word = (d.dataLocation a).word → w.address = a := by
    intro w member same word
    have place := (holds_dataLocation device (formed w member)).1.ext (holds_dataLocation device loadable).1 same word
    exact dataLocation_injOn device (formed w member) loadable place
  unfold loadFile
  by_cases found : ∃ w ∈ writes, w.address = a
  · obtain ⟨w, member, rfl⟩ := found
    have own : ∀ w' ∈ writes, w'.address = w.address → w' = w := fun w' member' same =>
      inj_on_of_nodup_map distinct member' member same
    rw [execute_common (v := w.value) ⟨_, (lines _).mpr ⟨w, member, rfl, rfl⟩, rfl⟩,
      execute_common (v := w.value) (a := w.address + base) ⟨_, mem_map_of_mem member, rfl⟩]
    · intro x listed same
      obtain ⟨w', member', rfl⟩ := mem_map.mp listed
      rw [own w' member' ((Int.add_left_inj base).mp same)]
      rfl
    · intro x listed same
      obtain ⟨w', member', key, rfl⟩ := (lines x).mp listed
      rw [own w' member' (address w' member' key same)]
  · rw [execute_untouched, execute_untouched]
    · rw [(holds_dataLocation device loadable).2]
    · intro x listed same
      obtain ⟨w, member, rfl⟩ := mem_map.mp listed
      exact found ⟨w, member, (Int.add_left_inj base).mp same⟩
    · intro x listed same
      obtain ⟨w, member, key, rfl⟩ := (lines x).mp listed
      exact found ⟨w, member, address w member key same⟩

/-- Addresses of data memory and words of the memories stand for each other, and the files of the memories hold what
direct writes leave at the addresses. -/
theorem preload_equals_writes (selected : s.device = some d) (words : LoadsWords s.options settings)
    (library : librarySink settings = some out) (takes : s.TakesText out) (unsigned : ∀ w ∈ writes, 0 ≤ w.value) :
    Set.BijOn d.dataLocation {a | d.Loadable a} {l | d.Holds l} ∧
    Set.InvOn d.addressOf d.dataLocation {a | d.Loadable a} {l | d.Holds l} ∧
    ∃ preloaded p direct, (writing settings true writes).run s = .ok () preloaded ∧
      preloaded.bus.dataMemory = some p ∧ preloaded.text out = s.text out ∧
      (writing settings false writes).run s = .ok () direct ∧ direct.text out = s.text out ++
        String.join (writes.map (statement s.options.apbBase settings.verifyWrites)) ∧
      (∀ key, preloadText (Text.hex 8) (p.entries.getD key #[]) = String.join
        ((fileOrder (p.entriesOf key)).map fun e => s!"@{Text.hex 4 e.1} {Text.hex 8 e.2}\n")) ∧
      ∀ (memory : RegisterFile) (a : Int), d.Loadable a →
        loadFile p (d.dataLocation a).key
          (fun word => memory (d.addressOf { d.dataLocation a with word } + s.options.apbBase)) (d.dataLocation a).word =
        execute (writes.map (store s.options.apbBase)) memory (a + s.options.apbBase) := by
  have inverse : Set.InvOn d.addressOf d.dataLocation {a | d.Loadable a} {l | d.Holds l} :=
    ⟨fun a formed => (holds_dataLocation device formed).2, fun l holds => (dataLocation_addressOf device holds).2⟩
  refine ⟨inverse.bijOn (fun a formed => (holds_dataLocation device formed).1)
    fun l holds => (dataLocation_addressOf device holds).1, inverse, ?_⟩
  obtain ⟨t, starts, kind, known, _, _, _, same, stored⟩ := writing_starts selected words takes true writes
  obtain ⟨p, run, entries⟩ := forM_perform_preloaded kind known stored ⟨rfl, rfl, rfl⟩
    fun w member => (holds_dataLocation device (formed w member)).1
  obtain ⟨t', starts', kind', _, chosen, base, takes', same', stored'⟩ := writing_starts selected words takes false writes
  obtain ⟨direct, run', text⟩ := forM_perform_direct ⟨kind', stored', rfl, chosen, takes'⟩ library
    fun w member => ⟨unsigned w member, (formed w member).nonneg device⟩
  have empty : ∀ key, (⟨d.groups, d.dataBlocks, d.instanceCount, {}⟩ : Preload Int).entriesOf key = [] := fun key => by
    simp [Preload.entriesOf]
  refine ⟨_, p, direct, starts.trans run, rfl, by rw [text_bus, same], starts'.trans run', by rw [text, same', base],
    fun key => preloadText_eq _, fun memory a loadable => ?_⟩
  exact loadFile_eq_execute device distinct formed loadable memory _ fun key => by
    rw [entries, empty, nil_append]

end

def cornerWrites : List DataWrite :=
  [⟨0x1800000, 0x80ff01, "", "  ", false⟩, ⟨0x1800000 + 3 * 0x1000000 + 3 * 0x20000 + 0x13ffc, 7, " // Last", "  ", true⟩,
    ⟨0x1800000 + 0x4000, 0xffffffff, "", "    ", false⟩]

theorem cornerWrites_formed : ∀ w ∈ cornerWrites, max78002.Loadable w.address := by
  simp only [cornerWrites, mem_cons, not_mem_nil, or_false]
  rintro w (rfl | rfl | rfl)
  · exact ⟨0, by decide, 0, by decide, 0, by decide, by decide, by decide⟩
  · exact ⟨3, by decide, 3, by decide, 0x13ffc, by decide, by decide, by decide⟩
  · exact ⟨0, by decide, 0, by decide, 0x4000, by decide, by decide, by decide⟩

def cornerSession : Session := { device := some max78002, options := { apbBase := 0x50000000 } }

theorem preload_equals_writes_corners :
    ∃ preloaded p direct, (writing { mainFile := some (.stream "main") } true cornerWrites).run cornerSession =
        .ok () preloaded ∧ preloaded.bus.dataMemory = some p ∧
      (writing { mainFile := some (.stream "main") } false cornerWrites).run cornerSession = .ok () direct ∧
      loadFile p (0, 0, 1) (fun _ => 0) 0 = 0xffffffff ∧ loadFile p (3, 3, 4) (fun _ => 0) 4095 = 7 := by
  have words : LoadsWords cornerSession.options { mainFile := some (.stream "main") } := by decide
  obtain ⟨_, _, preloaded, p, direct, run, stored, _, run', _, _, same⟩ := preload_equals_writes (.inr rfl) (by decide)
    cornerWrites_formed rfl words rfl trivial (by decide)
  have first : max78002.dataLocation 0x1804000 = ⟨0, 0, 1, 0⟩ := by decide
  have last : max78002.dataLocation 0x4873ffc = ⟨3, 3, 4, 4095⟩ := by decide
  have values := same (fun _ => 0) _ (cornerWrites_formed ⟨0x1804000, 0xffffffff, "", "    ", false⟩ (by simp [cornerWrites]))
  have values' := same (fun _ => 0) _ (cornerWrites_formed ⟨0x4873ffc, 7, " // Last", "  ", true⟩ (by simp [cornerWrites]))
  rw [first] at values
  rw [last] at values'
  exact ⟨preloaded, p, direct, run, stored, run', values, values'⟩

end Bus

end CnnForge
