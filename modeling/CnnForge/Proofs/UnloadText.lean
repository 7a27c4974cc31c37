import CnnForge.Proofs.CheckRun
import CnnForge.Proofs.CopyMachine
import CnnForge.Unload.Generator

namespace CnnForge

open Outcome

/-- A session in which the function that unloads the output can be added to `out`. -/
structure UnloadWriter (out : Sink) (d : Device) (o : Options) (s : Session) : Prop where
  options : s.options = o
  device : s.device = some d
  reserved : s.Reserved out
  takes : s.TakesText out
  checked : o.blockMode = false ∨ o.mlator = false

namespace Unload

variable {out : Sink} {d : Device} {o : Options} {l : OutputLayout} {before after : Session}

theorem warn_run (before : Session) (message : String) :
    ∃ after, (Run.warn message).run before = .ok () after ∧ Quiet before after := by
  have ends : Ends (Quiet before) (fun _ => False) (fun _ => True) (Run.warn message) := (Quiet.logFree before).diagnose _ _
  obtain ⟨_, after, run, _, quiet⟩ := ends.returns (.refl before)
  exact ⟨after, run, quiet⟩

theorem usesInterleaver_direct (before : Session) (checked : o.blockMode = false ∨ o.mlator = false)
    (direct : o.mlator = false ∨ l.bits ≠ 8) :
    ∃ after, (usesInterleaver o l).run before = .ok false after ∧ Quiet before after := by
  have check : (!o.blockMode || !o.mlator) = true := by
    rcases checked with off | off <;> simp [off]
  have start : (Run.check (!o.blockMode || !o.mlator)).run before = .ok () before := Run.check_ok.mpr ⟨check, rfl⟩
  by_cases off : o.mlator = false
  · by_cases hint : l.bits = 8 ∧ o.embeddedCode = true ∧ l.shape.pixels % 4 = 0
    · obtain ⟨after, run, quiet⟩ := warn_run before "Use --mlator to optimize cnn_unload() for 8-bit output values."
      refine ⟨after, bind_ok.mpr ⟨(), before, start, ?_⟩, quiet⟩
      rw [if_pos (by simp [off, hint])]
      exact bind_ok.mpr ⟨(), after, run, by rw [if_pos (by simp [off])]; rfl⟩
    · refine ⟨before, bind_ok.mpr ⟨(), before, start, ?_⟩, .refl before⟩
      rw [if_neg (by simpa [off, and_assoc] using hint), if_pos (by simp [off])]
      rfl
  · have wide : l.bits ≠ 8 := by
      rcases direct with unused | wide
      · exact absurd unused off
      · exact wide
    have on : o.mlator = true := by simpa using off
    obtain ⟨after, run, quiet⟩ := warn_run before "ignoring --mlator for 32-bit output."
    refine ⟨after, bind_ok.mpr ⟨(), before, start, ?_⟩, quiet⟩
    rw [if_neg (by simp [on]), if_neg (by simp [on]), if_pos wide]
    exact bind_ok.mpr ⟨(), after, run, rfl⟩

def functionText (d : Device) (o : Options) (l : OutputLayout) (unchanged : Bool) (program : List UnloadStatement) :
    String :=
  let buffer := if l.bits = 32 then "out_buf" else "out_buf32"
  s!"// Custom unload for this network: {l.bits}-bit data, shape: {shapeText l.shape unchanged}\n"
    ++ CSource.functionHeader o { function := "unload", arguments := s!"uint32_t *{buffer}" }
    ++ declarations l false (if o.embeddedCode then o.mlatorChunk else 1)
    ++ ((if program.any UnloadStatement.isLoop then "  int i;\n" else "")
    ++ ((if program = [] then "" else "\n" ++ String.join (program.map (·.text (o.apbBase + d.dataBase))))
    ++ CSource.functionFooter))

def blockProgram (l : OutputLayout) (d : Device) (o : Options) (bs : List OutputBlock) : List UnloadStatement :=
  program l (if o.embeddedCode then o.wideChunk else 0) (if o.embeddedCode then o.narrowChunk else 0) (l.reads d bs)

theorem optional_emits (s : Session) (out : Sink) (t : String) (c : Prop) [Decidable c] :
    Emits out (if c then t else "") s (if c then s.append out t else s) := by
  split
  · exact .append s out t
  · exact .nothing out s

theorem optional_run {s : Session} {t : String} {c : Prop} [Decidable c] {next : Run Unit}
    (rest : next.run (if c then s.append out t else s) = .ok () after) :
    (if c then Run.emit out t >>= fun _ => next else next).run s = .ok () after := by
  split at rest
  · rename_i holds
    rw [if_pos holds]
    exact bind_ok.mpr ⟨(), _, rfl, rest⟩
  · rename_i fails
    rw [if_neg fails]
    exact rest

theorem generate_writes (writer : UnloadWriter out d o before) (direct : o.mlator = false ∨ l.bits ≠ 8)
    {bs : List OutputBlock} (listed : l.blocks d = .ok bs) (unchanged : Bool) :
    ∃ after, (generate (some out) l unchanged).run before = .ok () after ∧
      after.text out = before.text out ++ functionText d o l unchanged (blockProgram l d o bs) := by
  obtain ⟨start, decided, quiet⟩ := usesInterleaver_direct before writer.checked direct
  have takes := quiet.takes out writer.reserved writer.takes
  generalize found : blockProgram l d o bs = program
  let buffer := if l.bits = 32 then "out_buf" else "out_buf32"
  let header := s!"// Custom unload for this network: {l.bits}-bit data, shape: {shapeText l.shape unchanged}\n"
    ++ CSource.functionHeader o { function := "unload", arguments := s!"uint32_t *{buffer}" }
    ++ declarations l false (if o.embeddedCode then o.mlatorChunk else 1)
  let statements := "\n" ++ String.join (program.map (·.text (o.apbBase + d.dataBase)))
  let headed := start.append out header
  let looped := if program.any UnloadStatement.isLoop = true then headed.append out "  int i;\n" else headed
  let filled := if (!program.isEmpty) = true then looped.append out statements else looped
  have emits : Emits out (functionText d o l unchanged program) start (filled.append out CSource.functionFooter) := by
    have all := (Emits.append start out header).trans ((optional_emits headed out _ _).trans
      ((optional_emits looped out statements _).trans (.append filled out CSource.functionFooter)))
    have same : (if (!program.isEmpty) = true then statements else "") = if program = [] then "" else statements := by
      cases program <;> rfl
    rw [same] at all
    exact all
  refine ⟨filled.append out CSource.functionFooter, ?_, ?_⟩
  · refine bind_ok.mpr ⟨d, before, Run.device_ok.mpr ⟨writer.device, rfl⟩, ?_⟩
    refine bind_ok.mpr ⟨o, before, Run.options_ok.mpr ⟨writer.options, rfl⟩, ?_⟩
    refine bind_ok.mpr ⟨false, start, decided, ?_⟩
    refine bind_ok.mpr ⟨out, start, Run.orFail_ok.mpr ⟨rfl, rfl⟩, ?_⟩
    refine bind_ok.mpr ⟨(), headed, rfl, ?_⟩
    refine bind_ok.mpr ⟨bs, headed, Run.lift_ok.mpr ⟨listed, rfl⟩, ?_⟩
    subst found
    exact optional_run (optional_run rfl)
  · rw [emits.text takes, quiet.text out writer.reserved]

end Unload

end CnnForge
