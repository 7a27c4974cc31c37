import CnnForge.Proofs.CheckRun

namespace CnnForge

open Outcome List Session

variable {b : OutputBlock} {n bytes room : Nat} {value address processor channel row column : Int} {values : List Int}
  {style : VerifyStyle}

/-- A writer of programs that puts text into `main`. -/
structure Writer (main : Sink) (d : Device) (o : Options) (s : Session) : Prop where
  options : s.options = o
  device : s.device = some d
  kind : s.bus.kind = .program
  file : s.bus.settings.mainFile = some main
  plain : s.bus.outputMemory = none
  reserved : s.Reserved main
  takes : s.TakesText main

/-- The statement of a check shows its mask, and ends the test if it fails. -/
structure Check.Shown (c : Check) : Prop where
  mask : c.maskText = if c.mask = 0xffffffff then "" else s!" & 0x{Text.hex (2 * c.bytes).toNat c.mask}"
  stops : c.continues = false

/-- Checks are added: an embedded program collects them, another one has them as statements. -/
structure Adds (main : Sink) (cs : List Check) (before after : Session) : Prop where
  options : after.options = before.options
  device : after.device = before.device
  logPath : after.logPath = before.logPath
  kind : after.bus.kind = before.bus.kind
  settings : after.bus.settings = before.bus.settings
  outputMemory : after.bus.outputMemory = before.bus.outputMemory
  shown : ∀ c ∈ cs, before.options.apbBase ≤ c.address ∧ c.Shown
  checks : after.bus.checks.toList =
    before.bus.checks.toList ++ if before.bus.settings.embedded then cs else []
  text : after.text main = before.text main ++
    if before.bus.settings.embedded then "" else String.join (cs.map (Bus.Check.statement · false))
  others : ∀ k, before.Reserved k → k.place ≠ main.place → after.text k = before.text k
  takes : ∀ k, before.Reserved k → before.TakesText k → after.TakesText k
  room : ∀ name, after.room name = before.room name

namespace Adds

variable {main : Sink} {d : Device} {o : Options} {before middle after : Session} {cs cs' : List Check}

theorem of_quiet (writer : Writer main d o before) (quiet : Quiet before after) : Adds main [] before after := by
  refine ⟨quiet.options, quiet.device, quiet.logPath, by rw [quiet.bus], by rw [quiet.bus], by rw [quiet.bus],
    by simp, ?_, ?_, fun k reserved _ => quiet.text k reserved, quiet.takes, quiet.room⟩
  · simp [quiet.bus]
  · rw [quiet.text main writer.reserved]
    cases before.bus.settings.embedded <;> simp [String.join]

theorem reserved (adds : Adds main cs before after) {k : Sink} (reserved : before.Reserved k) : after.Reserved k := by
  simpa only [Session.Reserved, adds.options, adds.logPath, adds.settings] using reserved

theorem writer (adds : Adds main cs before after) (writer : Writer main d o before) : Writer main d o after :=
  ⟨adds.options.trans writer.options, adds.device ▸ writer.device, adds.kind ▸ writer.kind, adds.settings ▸ writer.file,
    adds.outputMemory ▸ writer.plain, adds.reserved writer.reserved,
    adds.takes main writer.reserved writer.takes⟩

theorem trans (first : Adds main cs before middle) (second : Adds main cs' middle after) :
    Adds main (cs ++ cs') before after := by
  refine ⟨second.options.trans first.options, second.device.trans first.device, second.logPath.trans first.logPath,
    second.kind.trans first.kind, second.settings.trans first.settings,
    second.outputMemory.trans first.outputMemory, ?_, ?_, ?_, ?_, ?_, fun name => (second.room name).trans (first.room name)⟩
  · intro c member
    rcases mem_append.mp member with member | member
    · exact first.shown c member
    · exact first.options ▸ second.shown c member
  · rw [second.checks, first.checks, first.settings]
    cases before.bus.settings.embedded <;> simp
  · rw [second.text, first.text, first.settings]
    cases before.bus.settings.embedded <;> simp [String.append_assoc]
  · intro k reserved other
    rw [second.others k (first.reserved reserved) other, first.others k reserved other]
  · intro k reserved takes
    exact second.takes k (first.reserved reserved) (first.takes k reserved takes)

end Adds

section

variable {main : Sink} {d : Device} {o : Options} {before after : Session} {u : Unit}

theorem byteCheck_shown (address value : Int) (some_bytes : 1 ≤ bytes) (word : bytes ≤ 4) (comment : String) :
    (Bus.byteCheck address value bytes false comment).Shown := by
  by_cases whole : bytes = 4
  · rw [Bus.byteCheck, if_pos whole]
    exact ⟨rfl, rfl⟩
  · have cases : bytes = 1 ∨ bytes = 2 ∨ bytes = 3 := by omega
    rw [Bus.byteCheck, if_neg whole]
    refine ⟨?_, rfl⟩
    rcases cases with rfl | rfl | rfl <;> rfl

theorem byteCheck_address (address value : Int) (bytes : Nat) (continues : Bool) (comment : String) :
    (Bus.byteCheck address value bytes continues comment).address = address := by
  rw [Bus.byteCheck]
  split <;> rfl

theorem Emits.writer {k : Sink} {t : String} (emits : Emits k t before after) (writer : Writer main d o before) :
    Writer main d o after := by
  refine ⟨emits.options.trans writer.options, emits.device.trans writer.device, emits.bus ▸ writer.kind,
    emits.bus ▸ writer.file, emits.bus ▸ writer.plain, ?_, emits.takes main writer.takes⟩
  simpa only [Session.Reserved, emits.options, emits.logPath, emits.bus] using writer.reserved

def Session.addCheck (s : Session) (main : Sink) (c : Check) : Session :=
  let noted := if s.bus.settings.embedded then { s with bus := { s.bus with checks := s.bus.checks.push c } }
    else s.append main (Bus.Check.statement c false)
  { noted with bus := { noted.bus with reads := noted.bus.reads + 1 } }

theorem Adds.addCheck (writer : Writer main d o before) {c : Check} (shown : o.apbBase ≤ c.address ∧ c.Shown) :
    Adds main [c] before (before.addCheck main c) := by
  rw [← writer.options] at shown
  unfold Session.addCheck
  cases embedded : before.bus.settings.embedded with
  | true =>
    refine ⟨rfl, rfl, rfl, rfl, rfl, rfl, by simpa using shown, ?_, ?_, ?_, ?_, fun _ => rfl⟩
    · simp [embedded]
    · simp [embedded]
    · simp
    · intro k _ takes
      exact takesText_bus takes _
  | false =>
    simp only [Bool.false_eq_true, if_false]
    refine ⟨by simp, by simp, by simp, by simp, by simp, by simp, by simpa using shown, ?_, ?_, ?_, ?_,
      room_append before main _⟩
    · simp [embedded]
    · rw [text_bus, text_append writer.takes, embedded]
      simp [String.join]
    · intro k _ other
      rw [text_bus, text_append_other before other]
    · intro k _ takes
      exact takesText_bus (takesText_append takes _ _) _

variable (writer : Writer main d o before) (mask : style.mask = none) (lane : style.lane = 0)
  (continues : style.continues = false)
include writer mask lane continues

theorem verifyListed_ok (api : style.api = false) :
    (Bus.verifyListed address value style).run before = .ok u after ↔
      0 ≤ value ∧ 0 ≤ address ∧ 1 ≤ style.bytes ∧ style.bytes ≤ 4 ∧
        before.addCheck main (Unload.wordCheck o.apbBase (address, value, style)) = after := by
  obtain rfl := writer.options
  have made : ({ style with collect := before.bus.settings.embedded } : VerifyStyle).mask = none := mask
  simp only [Bus.verifyListed, Bus.verify, Bus.verifyStatement, bind_ok, get_ok, Run.check_ok, Run.options_ok, and_assoc,
    exists_and_left, exists_eq_left', writer.kind, writer.plain, writer.file, Option.isSome_none, Bool.false_and,
    Bool.false_eq_true, if_false, Bus.checkOf_ok made lane, decide_eq_true_eq, exists_const]
  simp only [api, continues, Bool.false_eq_true, if_false, Unload.wordCheck, addCheck]
  cases before.bus.settings.embedded <;> simp [Run.modifyBus, Run.emit]

theorem verifyListed_adds (api : style.api = false)
    (run : (Bus.verifyListed address value style).run before = .ok u after) :
    Adds main [Unload.wordCheck o.apbBase (address, value, style)] before after := by
  obtain ⟨_, above, some_bytes, word, rfl⟩ := (verifyListed_ok writer mask lane continues api).mp run
  refine .addCheck writer ⟨?_, byteCheck_shown _ _ ?_ ?_ _⟩
  · rw [Unload.wordCheck, byteCheck_address]
    exact Int.le_add_of_nonneg_left above
  · exact Int.pos_iff_toNat_pos.mp some_bytes
  · exact Int.toNat_le.mpr word

end

namespace Unload

variable {main : Sink} {d : Device} {o : Options} {before after : Session} {u : Unit} {s : VerifySettings}
  {l : OutputLayout} {data : Tensor}

theorem size_of_bits (bytes : l.bits = 8 ∨ l.bits = 32) : l.size = 1 ∨ l.size = 4 := by
  rcases bytes with bytes | bytes <;> simp [OutputLayout.size, bytes]

section

variable (packed : l.Packed d) (fits : l.Fits b)

include packed fits

theorem pixelWords_style : ∀ w ∈ pixelWords s l d n b values,
    w.2.2.mask = none ∧ w.2.2.lane = 0 ∧ w.2.2.continues = false ∧ w.2.2.api = false := by
  intro w member
  simp only [pixelWords, packed.lowest_lane fits] at member
  split at member
  · rw [mem_singleton] at member
    subst member
    exact ⟨rfl, rfl, rfl, rfl⟩
  · obtain ⟨i, _, rfl⟩ := mem_map.mp member
    exact ⟨rfl, rfl, rfl, rfl⟩

theorem pixelWords_word (size : l.size = 1 ∨ l.size = 4) (four : values.length = 4) : ∀ w ∈ pixelWords s l d n b values,
    d.dataBase + l.address d b n s.gap ≤ w.1 ∧ w.1 ≤ d.dataBase + l.address d b n s.gap + 12 ∧ 0 ≤ w.2.1 ∧
      1 ≤ w.2.2.bytes ∧ w.2.2.bytes ≤ 4 := by
  have inside := fits.inside
  have count := packed.count_eq fits
  have less := Nat.mod_lt b.first packed.some_channels
  intro w member
  simp only [pixelWords] at member
  rcases size with size | size
  · rw [if_pos size, mem_singleton] at member
    subst member
    obtain ⟨value, packed_value, _⟩ := packLanes_bytes four (Nat.le_refl 4) 0
    dsimp only
    omega
  · rw [if_neg (by omega), size] at member
    obtain ⟨i, below, rfl⟩ := mem_map.mp member
    rw [mem_range] at below
    dsimp only
    rw [Bits.low_eq_emod]
    omega

theorem word_adds {w : Int × Int × VerifyStyle} (member : w ∈ pixelWords s l d n b values) (writer : Writer main d o before)
    (run : (do takeWord s processor w.1 channel row column w.2.1; Bus.verifyListed w.1 w.2.1 w.2.2 : Run Unit).run
      before = .ok u after) :
    Adds main [wordCheck o.apbBase w] before after := by
  obtain ⟨mask, lowest, continues, api⟩ := pixelWords_style packed fits w member
  obtain ⟨_, middle, taken, checked⟩ := bind_ok.mp run
  have first := Adds.of_quiet writer (Quiet.takeWord _ _ _ _ _ _ _ _ _ _ taken)
  have second := verifyListed_adds (first.writer writer) mask lowest continues api checked
  simpa only [nil_append] using first.trans second

theorem verifyCounted_adds {count count' : Int} (writer : Writer main d o before)
    (run : (verifyCounted @Bus.verifyListed s l d data none count n b).run before = .ok count' after) :
    Adds main (checksAt o.apbBase s l d data (n, b)) before after ∧ Known l data (n, b) := by
  simp only [verifyCounted, packed.lanes_ne_zero fits, if_false, Option.map_none, Option.getD_none, reduceCtorEq, bind_ok,
    pure_ok, verifyPixel, Run.orFail_ok, if_true] at run
  obtain ⟨_, _, ⟨values, _, ⟨found, rfl⟩, run⟩, _, _, ⟨_, rfl⟩, _, rfl⟩ := run
  refine ⟨?_, values, found⟩
  simp only [checksAt, found, map_eq_flatMap]
  rw [forM_eq_foldlM] at run
  refine (foldlM_collects (P := fun _ => True) (fun s writer => .of_quiet writer (.refl s)) .trans _ ?_ writer run).1
  intro _ w member before u after writer run
  have adds := word_adds packed fits member writer run
  exact ⟨adds.writer writer, adds, trivial⟩

end

theorem verifyOutput_run (direct : s.interleaved = false) (before : Session) :
    let b := before.bus.settings
    let s' : VerifySettings := { s with notes := b.mainFile, embedded := b.embedded, testName := b.testName }
    (verifyOutput s l data).run before =
      (saveResult s' data >>= fun _ => verifyDirect @Bus.verifyListed s' l data).run before := by
  intro b s'
  have off : s'.interleaved = false := direct
  rw [← verify_direct (.inl off)]
  rfl

theorem verifyOutput_adds (packed : l.Packed d) (bytes : l.bits = 8 ∨ l.bits = 32) (writer : Writer main d o before)
    (unlimited : o.maxCount = none) (direct : s.interleaved = false)
    (run : (verifyOutput s l data).run before = .ok u after) :
    ∃ cs, Adds main cs before after ∧
      ∀ memory, cs.all (Check.passes memory) = true ↔ l.InMemory d o.apbBase s.gap data memory := by
  rw [verifyOutput_run direct] at run
  obtain ⟨_, middle, saved, run⟩ := bind_ok.mp run
  have first := Adds.of_quiet writer (Quiet.saveResult rfl saved)
  have opened := first.writer writer
  obtain ⟨bs, found, covers⟩ := packed.covers
  obtain ⟨count, checked⟩ := (verifyDirect_ok opened.device run).2 bs found
  rw [opened.options, unlimited] at checked
  obtain ⟨second, known⟩ := foldlM_collects (P := Known l data)
    (fun s writer => Adds.of_quiet writer (.refl s)) Adds.trans _ (fun count place member before count' after writer run => by
      obtain ⟨adds, known⟩ := verifyCounted_adds packed (covers.fits _ (mem_places.mp member).2) writer run
      exact ⟨adds.writer writer, adds, known⟩) opened checked
  exact ⟨_, first.trans second, fun memory => places_pass packed (size_of_bits bytes) o.apbBase covers memory known⟩

theorem verifyDirect_returns (packed : l.Packed d) (bytes : l.bits = 8 ∨ l.bits = 32)
    (stored : l.Stored d s.gap data room) (writer : Writer main d o before) (overwrites : s.overwriteOk = true)
    (enough : ∀ name, s.output = some name → room ≤ before.room name) :
    Returns (verifyDirect @Bus.verifyListed s l data) before := by
  obtain ⟨bs, found, covers⟩ := packed.covers
  -- Each step needs the writer and the room that there is for the output.
  let I (st : Session) := Writer main d o st ∧ ∀ name, st.room name = before.room name
  have kept : ∀ {a b cs}, I a → Adds main cs a b → I b := fun ⟨writer, room⟩ adds =>
    ⟨adds.writer writer, fun name => (adds.room name).trans (room name)⟩
  have ends : Ends I (fun _ => False) (fun _ => True) (verifyDirect @Bus.verifyListed s l data) := by
    refine verifyDirect_ends (fun st inv => inv.1.device) (fun none => packed.processors_ne_zero none) ?_ ?_
    · intro out _
      refine .modify fun st inv => ⟨(Emits.append st out _).writer inv.1, fun name => ?_⟩
      rw [room_append, inv.2]
    · rw [found]
      rintro ⟨n, b⟩ place _ counted
      obtain ⟨inside, listed⟩ := mem_places.mp place
      have fits := covers.fits b listed
      obtain ⟨above, below⟩ := stored.words b.first fits.inside n inside
      rw [packed.first_address fits] at above below
      refine verifyPixel_ends (fun missing => missing (known_of_stored stored place)) (fun values known w member => ?_) counted
      obtain ⟨low, high, value, some_bytes, word⟩ :=
        pixelWords_word packed fits (size_of_bits bytes) (laneValues_some known).1 w member
      obtain ⟨mask, lane, continues, api⟩ := pixelWords_style packed fits w member
      constructor
      · refine takeWord_ends overwrites (fun a b inv quiet => kept inv (.of_quiet inv.1 quiet)) (by omega) ?_
        intro st name inv recorded
        have bound := enough name recorded
        rw [inv.2 name]
        omega
      · intro st inv
        have place : 0 ≤ w.1 := by omega
        have run := (verifyListed_ok (u := ()) inv.1 mask lane continues api).mpr ⟨value, place, some_bytes, word, rfl⟩
        rw [run]
        exact ⟨trivial, kept inv (verifyListed_adds inv.1 mask lane continues api run)⟩
  obtain ⟨_, after, run, _⟩ := ends.returns ⟨writer, fun _ => rfl⟩
  exact ⟨_, after, run⟩

theorem verifyOutput_returns (packed : l.Packed d) (bytes : l.bits = 8 ∨ l.bits = 32)
    (stored : l.Stored d s.gap data room) (writer : Writer main d o before) (unsaved : o.resultNumpy = none)
    (direct : s.interleaved = false) (overwrites : s.overwriteOk = true)
    (enough : ∀ name, s.output = some name → room ≤ before.room name) : Returns (verifyOutput s l data) before := by
  rw [Returns, verifyOutput_run direct]
  apply Returns.step (saveResult_unsaved (by rw [writer.options, unsaved]) _ _)
  exact verifyDirect_returns packed bytes stored writer overwrites enough

end Unload

end CnnForge
