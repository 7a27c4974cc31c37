import CnnForge.Accelerator.Generate
import CnnForge.Proofs.AddedChecks

namespace CnnForge

open Outcome List Returns Bus Run Bus.Check

/-- A known-answer test: comparisons one by one, or a table and a loop that walks it. -/
inductive KnownAnswerTest where
  | statements (checks : List Check) (shown : ∀ c ∈ checks, c.Shown)
  | table (words : List Int)

namespace KnownAnswerTest

def body : KnownAnswerTest → String
  | statements checks _ => String.join (checks.map (statement · false))
  | table _ => tableLoop false

def definition : KnownAnswerTest → String
  | statements _ _ => ""
  | table words => CSource.arrayDefine "SAMPLE_OUTPUT" .hexWord 8 words

def passes (memory : Int → BitVec 32) : KnownAnswerTest → Bool
  | statements checks _ => checks.all (Check.passes memory)
  | table words => tablePasses memory words

/-- A function with the test is added to the program, and its table to the header. -/
structure Written (test : KnownAnswerTest) (main : Sink) (o : Options) (comment : String) (before after : Session) :
    Prop where
  function : after.text main = before.text main ++ (comment ++
    CSource.functionHeader o { lead := "", function := "check_output" } ++ test.body ++ CSource.functionFooter "CNN_OK")
  table : ∀ k, before.bus.settings.sampleOutputHeader = some k → after.text k = before.text k ++ test.definition

end KnownAnswerTest

section

variable {main : Sink} {d : Device} {o : Options} {before after : Session} {u : Unit}

section

variable (writer : Writer main d o before)
include writer

theorem Writer.clear :
    Writer main d o { before with bus := { before.bus with checks := #[] } } :=
  ⟨writer.options, writer.device, writer.kind, writer.file, writer.plain, writer.reserved,
    Session.takesText_bus writer.takes _⟩

theorem output_run (t : String) :
    (output t false).run before = .ok () (before.append main t) := by
  simp [output, writer.kind, writer.file, emit]

theorem functionHeader_run (frame : CSource.FunctionFrame) :
    (functionHeader frame false).run before = .ok () (before.append main (CSource.functionHeader o frame)) := by
  simp [functionHeader, ifProgram, writer.kind, writer.file, options, writer.options, emit]

theorem functionFooter_run (value : String) :
    (functionFooter value false).run before = .ok () (before.append main (CSource.functionFooter value)) := by
  simp [functionFooter, ifProgram, writer.kind, writer.file, emit]

end

theorem emitStatements_emits {checks : List Check} (run : (emitStatements main false checks).run before = .ok u after) :
    Emits main (String.join (checks.map (statement · false))) before after := by
  induction checks generalizing before with
  | nil =>
    obtain ⟨_, rfl⟩ := pure_ok.mp run
    exact .nothing main before
  | cons c checks ih =>
    obtain ⟨_, middle, ran, rest⟩ := bind_ok.mp run
    simp only [bind_ok, check_ok, emit_ok] at ran
    obtain ⟨_, _, ⟨_, rfl⟩, rfl⟩ := ran
    have sum := (Emits.append before main _).trans (ih rest)
    rwa [map_cons, String.join_cons]

theorem emitTable_ok {header : Sink} {continues : Bool} {checks : List Check} {text : String}
    (define : CSource.arrayDefine "SAMPLE_OUTPUT" .hexWord 8 (checkTable checks) = text)
    (takes : before.TakesText header ∧ before.TakesText main) (apart : header.place ≠ main.place)
    (run : (emitTable main header continues checks).run before = .ok u after) :
    after.text main = before.text main ++ tableLoop continues ∧ after.text header = before.text header ++ text ∧
      ∀ d o, Writer main d o before → Writer main d o after := by
  simp only [emitTable, bind_ok, check_ok, emit_ok, define] at run
  obtain ⟨_, _, ⟨_, rfl⟩, _, _, rfl, rfl⟩ := run
  have first := Emits.append before header text
  have second := Emits.append (before.append header text) main (tableLoop continues)
  refine ⟨?_, ?_, fun _ _ writer => second.writer (first.writer writer)⟩
  · rw [second.text (first.takes main takes.2), first.others main apart.symm]
  · rw [second.others header apart, first.text takes.1]

theorem finishChecks_ok (writer : Writer main d o before) (unlimited : o.maxCount = none) (base : 0 < o.apbBase)
    (headers : ∀ k, before.bus.settings.sampleOutputHeader = some k → before.TakesText k ∧ k.place ≠ main.place)
    (shown : ∀ c ∈ before.bus.checks.toList, o.apbBase ≤ c.address ∧ c.Shown)
    (run : finishChecks.run before = .ok u after) :
    ∃ test : KnownAnswerTest, after.text main = before.text main ++ test.body ∧
      (∀ k, before.bus.settings.sampleOutputHeader = some k → after.text k = before.text k ++ test.definition) ∧
      Writer main d o after ∧
      ∀ memory, test.passes memory = before.bus.checks.toList.all (Check.passes memory) := by
  simp only [finishChecks, bind_ok] at run
  obtain ⟨_, _, ⟨rfl, rfl⟩, _, _, ⟨rfl, rfl⟩, run⟩ := run
  have sorted : ∀ memory, (before.bus.checks.toList.mergeSort le).all (Check.passes memory) =
      before.bus.checks.toList.all (Check.passes memory) := by
    intro memory
    rw [Bool.eq_iff_iff, all_eq_true, all_eq_true]
    simp only [mem_mergeSort]
  have member : ∀ c ∈ before.bus.checks.toList.mergeSort le, o.apbBase ≤ c.address ∧ c.Shown := by
    intro c listed
    exact shown c (mem_mergeSort.mp listed)
  generalize before.bus.checks.toList.mergeSort le = checks at run sorted member
  cases checks with
  | nil =>
    obtain ⟨_, rfl⟩ := pure_ok.mp run
    refine ⟨.statements [] (by simp), ?_, ?_, writer, fun memory => sorted memory⟩
    · simp [KnownAnswerTest.body]
    · simp [KnownAnswerTest.definition]
  | cons first rest =>
    have stops := (member first (by simp)).2.stops
    simp only [writer.file, require, bind_ok, orFail_ok, stops] at run
    obtain ⟨_, _, ⟨same, rfl⟩, run⟩ := run
    obtain rfl := Option.some.inj same
    cases header : before.bus.settings.sampleOutputHeader with
    | none =>
      simp only [header, bind_ok, modifyBus, modify_ok] at run
      obtain ⟨_, middle, emitted, rfl⟩ := run
      have emits := emitStatements_emits emitted
      refine ⟨.statements (first :: rest) (fun c listed => (member c listed).2), ?_, by simp,
        (emits.writer writer).clear, sorted⟩
      rw [Session.text_bus, emits.text writer.takes]
      rfl
    | some k =>
      obtain ⟨takes, apart⟩ := headers k header
      simp only [header, bind_ok, modifyBus, modify_ok, options_ok] at run
      obtain ⟨_, _, ⟨rfl, rfl⟩, _, middle, emitted, rfl⟩ := run
      rw [writer.options, unlimited, limitChecks] at emitted
      obtain ⟨text, definition, kept⟩ := emitTable_ok rfl ⟨takes, writer.takes⟩ apart emitted
      refine ⟨.table (checkTable (first :: rest)), ?_, ?_, (kept d o writer).clear, ?_⟩
      · rw [Session.text_bus, text]
        rfl
      · rintro _ ⟨⟩
        rw [Session.text_bus, definition]
        rfl
      · intro memory
        rw [← sorted memory]
        apply checkTable_passes memory (by simp)
        intro c listed
        have above := (member c listed).1
        omega

theorem finishChecks_nothing (none : before.bus.checks = #[]) (run : finishChecks.run before = .ok u after) :
    before = after := by
  simp only [finishChecks, bind_ok, get_ok] at run
  obtain ⟨_, _, ⟨rfl, rfl⟩, _, _, ⟨rfl, rfl⟩, run⟩ := run
  simp only [none, mergeSort_nil] at run
  exact (pure_ok.mp run).2

theorem finishChecks_returns (writer : Writer main d o before) (unlimited : o.maxCount = none)
    (shown : ∀ c ∈ before.bus.checks.toList, o.apbBase ≤ c.address ∧ c.Shown) : Returns finishChecks before := by
  apply step (get_ok.mpr ⟨rfl, rfl⟩)
  apply step (get_ok.mpr ⟨rfl, rfl⟩)
  have stops : ∀ c ∈ before.bus.checks.toList.mergeSort le, c.continues = false := by
    intro c listed
    exact (shown c (mem_mergeSort.mp listed)).2.stops
  generalize before.bus.checks.toList.mergeSort le = checks at stops
  cases checks with
  | nil => exact pure ()
  | cons first rest =>
    apply step (orFail_ok.mpr ⟨writer.file, rfl⟩)
    rw [stops first (by simp)]
    split
    · apply bind _ fun _ _ _ => modify _
      apply forM (I := fun _ => True) _ _ trivial
      intro c listed st _
      refine ⟨?_, fun _ _ _ => trivial⟩
      apply step (check_ok (u := ()) |>.mpr ⟨by simp [stops c listed], rfl⟩)
      exact modify _
    · apply step (options_ok.mpr ⟨writer.options, rfl⟩)
      rw [unlimited, limitChecks]
      apply bind _ fun _ _ _ => modify _
      have all : (first :: rest).all (·.continues == false) = true := by
        rw [all_eq_true]
        intro c listed
        simp [stops c listed]
      apply step (check_ok (u := ()) |>.mpr ⟨all, rfl⟩)
      exact bind (modify _) fun _ _ _ => modify _

/-- A writer that makes a complete test of the output, and nothing else, as the program reads it itself. -/
structure TestWriter (main : Sink) (d : Device) (o : Options) (s : Session) : Prop extends Writer main d o s where
  fresh : s.bus.checks = #[]
  unlimited : o.maxCount = none
  direct : o.mlator = false
  output_only : o.debugSnoop = false
  base : 0 < o.apbBase
  headers : ∀ k, s.bus.settings.sampleOutputHeader = some k → s.Reserved k ∧ s.TakesText k ∧ k.place ≠ main.place

theorem Emits.testWriter {t : String} (emits : Emits main t before after) (writer : TestWriter main d o before) :
    TestWriter main d o after := by
  refine ⟨emits.writer writer.toWriter, emits.bus ▸ writer.fresh, writer.unlimited, writer.direct, writer.output_only,
    writer.base, ?_⟩
  intro k header
  obtain ⟨reserved, takes, apart⟩ := writer.headers k (emits.bus ▸ header)
  refine ⟨?_, emits.takes k takes, apart⟩
  simpa only [Session.Reserved, emits.options, emits.logPath, emits.bus] using reserved

theorem TestWriter.checks_shown {cs : List Check} (writer : TestWriter main d o before) (adds : Adds main cs before after) :
    ∀ c ∈ after.bus.checks.toList, o.apbBase ≤ c.address ∧ c.Shown := by
  intro c listed
  have checks := adds.checks
  rw [writer.fresh] at checks
  rw [checks] at listed
  cases embedded : before.bus.settings.embedded with
  | false => simp [embedded] at listed
  | true =>
    simp only [embedded, if_true, nil_append] at listed
    exact writer.options ▸ adds.shown c listed

theorem finishChecks_adds {middle : Session} {cs : List Check} (writer : TestWriter main d o before)
    (adds : Adds main cs before middle) (run : finishChecks.run middle = .ok u after) :
    ∃ test : KnownAnswerTest, after.text main = before.text main ++ test.body ∧
      (∀ k, before.bus.settings.sampleOutputHeader = some k → after.text k = before.text k ++ test.definition) ∧
      Writer main d o after ∧ ∀ memory, test.passes memory = cs.all (Check.passes memory) := by
  have checks := adds.checks
  have text := adds.text
  rw [writer.fresh] at checks
  have others : ∀ k, before.bus.settings.sampleOutputHeader = some k → middle.text k = before.text k := by
    intro k header
    obtain ⟨reserved, _, apart⟩ := writer.headers k header
    exact adds.others k reserved apart
  cases embedded : before.bus.settings.embedded with
  | false =>
    simp only [embedded, Bool.false_eq_true, if_false, nil_append, Array.toList_eq_nil_iff] at checks text
    obtain rfl := finishChecks_nothing checks run
    refine ⟨.statements cs (fun c listed => (adds.shown c listed).2), text, ?_, adds.writer writer.toWriter, fun _ => rfl⟩
    intro k header
    rw [others k header, KnownAnswerTest.definition, String.append_empty]
  | true =>
    simp only [embedded, if_true, nil_append, String.append_empty] at checks text
    have headers : ∀ k, middle.bus.settings.sampleOutputHeader = some k → middle.TakesText k ∧ k.place ≠ main.place := by
      intro k header
      obtain ⟨reserved, takes, apart⟩ := writer.headers k (adds.settings ▸ header)
      exact ⟨adds.takes k reserved takes, apart⟩
    obtain ⟨test, body, definition, kept, passes⟩ :=
      finishChecks_ok (adds.writer writer.toWriter) writer.unlimited writer.base headers
        (writer.checks_shown adds) run
    refine ⟨test, text ▸ body, ?_, kept, fun memory => checks ▸ passes memory⟩
    intro k header
    rw [definition k (adds.settings ▸ header), others k header]

end

namespace Accelerator

variable {main : Sink} {d : Device} {o : Options} {before after : Session} {u : Unit} {t : OutputFolder} {p : Plan}
  {i : Nat} {l : PlannedLayer} {out : Tensor} {size : List Int}

section

variable (writer : TestWriter main d o before) (packed : (outputLayout l size).Packed d)
  (bytes : (outputLayout l size).bits = 8 ∨ (outputLayout l size).bits = 32)
include writer packed bytes

theorem writeChecks_returns
    (stored : (outputLayout l size).Stored d l.writeGap out (before.room outputImage)) (overwrites : o.overwriteOk = true)
    (unlogged : o.logIntermediate = false) (unsaved : o.resultNumpy = none) :
    Returns (writeChecks t p i l out size) before := by
  have commented := Emits.append before main (testComment i t.name)
  have opened := Emits.append (before.append main (testComment i t.name)) main
    (CSource.functionHeader o { lead := "", function := "check_output" })
  have start := (commented.trans opened).testWriter writer
  apply step (device_ok.mpr ⟨writer.device, rfl⟩)
  apply step (options_ok.mpr ⟨writer.options, rfl⟩)
  apply step (output_run writer.toWriter _)
  apply step (functionHeader_run (commented.writer writer.toWriter) _)
  simp only [writer.direct, Bool.and_false, Bool.false_and, Bool.false_eq_true, if_false, unlogged, writer.output_only]
  apply Returns.bind
  · apply Unload.verifyOutput_returns packed bytes stored start.toWriter unsaved rfl (by simp [overwrites])
    intro name recorded
    obtain rfl := Option.some.inj recorded
    simp
  intro _ middle checked
  obtain ⟨cs, adds, _⟩ := Unload.verifyOutput_adds packed bytes start.toWriter writer.unlimited rfl checked
  apply bind (finishChecks_returns (adds.writer start.toWriter) writer.unlimited (start.checks_shown adds))
  intro _ after finished
  obtain ⟨_, _, _, kept, _⟩ := finishChecks_adds start adds finished
  exact ⟨_, _, functionFooter_run kept _⟩

theorem writeChecks_tests
    (run : (writeChecks t p i l out size).run before = .ok u after) :
    ∃ test : KnownAnswerTest, test.Written main o (testComment i t.name) before after ∧
      ∀ memory, test.passes memory = true ↔ (outputLayout l size).InMemory d o.apbBase l.writeGap out memory := by
  simp only [writeChecks, bind_ok, device_ok, options_ok] at run
  obtain ⟨_, _, ⟨selected, rfl⟩, _, _, ⟨rfl, rfl⟩, _, a, commented, _, b, opened, run⟩ := run
  rw [writer.options, writer.direct] at run
  simp only [Bool.and_false, Bool.false_and, Bool.false_eq_true, if_false, writer.output_only] at run
  split at run
  · simp at run
  simp only [bind_ok] at run
  obtain ⟨_, c, checked, _, e, finished, closed⟩ := run
  rw [output_run writer.toWriter] at commented
  obtain ⟨⟩ := commented
  have commented := Emits.append before main (testComment i t.name)
  rw [functionHeader_run (commented.writer writer.toWriter)] at opened
  obtain ⟨⟩ := opened
  have start := commented.trans (Emits.append _ main (CSource.functionHeader o { lead := "", function := "check_output" }))
  have opened_writer := start.testWriter writer
  obtain ⟨cs, adds, passes⟩ := Unload.verifyOutput_adds packed bytes opened_writer.toWriter writer.unlimited rfl checked
  obtain ⟨test, body, definition, kept, same⟩ := finishChecks_adds opened_writer adds finished
  rw [functionFooter_run kept] at closed
  obtain ⟨⟩ := closed
  have stop := Emits.append e main (CSource.functionFooter "CNN_OK")
  refine ⟨test, ⟨?_, ?_⟩, ?_⟩
  · rw [stop.text kept.takes, body, start.text writer.takes]
    simp only [String.append_assoc]
  · intro k header
    have apart := (writer.headers k header).2.2
    rw [stop.others k apart, definition k (start.bus ▸ header), start.others k apart]
  · intro memory
    rw [same, passes]

end

/-- The test is written, and its function succeeds exactly on the memories that hold the output. -/
theorem writeChecks_exact (t : OutputFolder) (p : Plan) (i : Nat) (l : PlannedLayer) (out : Tensor) (size : List Int)
    (writer : TestWriter main d o before) (packed : (outputLayout l size).Packed d)
    (bytes : (outputLayout l size).bits = 8 ∨ (outputLayout l size).bits = 32) :
    (o.overwriteOk = true → o.logIntermediate = false → o.resultNumpy = none →
      (outputLayout l size).Stored d l.writeGap out (before.room outputImage) →
      ∃ after, (writeChecks t p i l out size).run before = .ok () after) ∧
    ∀ after, (writeChecks t p i l out size).run before = .ok () after →
      ∃ test : KnownAnswerTest, test.Written main o (testComment i t.name) before after ∧
        ∀ memory, test.passes memory = true ↔
          (outputLayout l size).InMemory d o.apbBase l.writeGap out memory := by
  constructor
  · intro overwrites unlogged unsaved stored
    obtain ⟨_, after, run⟩ := writeChecks_returns writer packed bytes stored overwrites unlogged unsaved
    exact ⟨after, run⟩
  · intro after run
    exact writeChecks_tests writer packed bytes run

def twoPassLayer : PlannedLayer :=
  { processors := 1, outputProcessors := some 0xf, outExpand := 2, outExpandThresh := 4, outputOffset := 0x2000,
    writeGap := 1 }

def tableSession : Session :=
  { device := some Device.max78000
    options := { apbBase := 0x50000000, overwriteOk := true }
    bus :=
      { kind := .program
        settings :=
          { mainFile := some (.stream "main"), sampleOutputHeader := some (.stream "header"), embedded := true } }
    images := Std.HashMap.ofList [(outputImage, { size := 0x400000 })] }

theorem tableSession_writer : TestWriter (.stream "main") Device.max78000 tableSession.options tableSession := by
  refine ⟨⟨rfl, rfl, rfl, rfl, rfl, ⟨nofun, nofun⟩, trivial⟩, rfl, rfl, rfl, rfl, by decide, ?_⟩
  intro k header
  obtain rfl := Option.some.inj header
  exact ⟨⟨nofun, nofun⟩, trivial, by decide⟩

theorem writeChecks_two_passes_exact :
    ∃ after,
      (writeChecks default default 0 twoPassLayer (.ofFn [5, 1, 2] fun k => 3 * k - 8) [5, 1, 2]).run tableSession =
        .ok () after ∧
      ∃ test : KnownAnswerTest,
        test.Written (.stream "main") tableSession.options (testComment 0 "") tableSession after ∧
        ∀ memory, test.passes memory = true ↔
          (outputLayout twoPassLayer [5, 1, 2]).InMemory Device.max78000 0x50000000 1
            (.ofFn [5, 1, 2] fun k => 3 * k - 8) memory := by
  have room : tableSession.room outputImage = 0x400000 := by
    simp [Session.room, tableSession, Std.HashMap.ofList_singleton]
  obtain ⟨returns, tests⟩ := writeChecks_exact default default 0 twoPassLayer
    (.ofFn [5, 1, 2] fun k => 3 * k - 8) [5, 1, 2] tableSession_writer ⟨rfl, by decide, rfl⟩ (.inl rfl)
  obtain ⟨after, ran⟩ := returns rfl rfl rfl (room ▸ ⟨by decide, by decide, by decide, by decide⟩)
  exact ⟨after, ran, tests after ran⟩

end Accelerator

end CnnForge
