import CnnForge.Device.Catalog
import CnnForge.Proofs.UnloadText

namespace CnnForge.Unload

open Outcome List

variable {out out' : Sink} {d : Device} {o o' : Options} {l : OutputLayout} {before before' : Session}

section

open WordRun UnloadOp

variable {reads : List OutputRead} {runs : List ByteRun}

theorem printable_copyWords (chunk : Int) {runs : List WordRun} (some_words : ∀ r ∈ runs, r.words ≠ 0) :
    Printable (copyWords chunk runs) ↔ ∀ r ∈ runs, 0 ≤ r.stride := by
  induction runs with
  | nil => simp [copyWords]
  | cons r runs ih =>
    have rest := ih (fun r member => some_words r (mem_cons_of_mem _ member))
    rw [copyWords, flatMap_cons, printable_append, printable_cons,
      printable_unrolled chunk _ (some_words r (by simp))]
    simp only [mem_cons, forall_eq_or_imp]
    rw [← rest]
    simp [UnloadStatement.strides, UnloadOp.strides, copyWords]

theorem words_copyRuns (all addresses : List Int) : ∀ r ∈ copyRuns all addresses, r.words ≠ 0 := by
  fun_induction copyRuns all addresses with
  | case1 => simp
  | case2 a rest near further ih =>
    intro r member
    rcases mem_cons.mp member with rfl | later
    · exact Nat.succ_ne_zero _
    · exact ih r later

theorem printable_storeBytes (chunk : Int) (pixels : Nat) (some_words : ∀ r ∈ runs, r.words ≠ 0) :
    Printable (storeBytes chunk pixels runs) ↔ ∀ r ∈ runs, 0 ≤ r.stride := by
  induction runs with
  | nil => simp [storeBytes]
  | cons r rest ih =>
    have later := ih (fun r member => some_words r (mem_cons_of_mem _ member))
    have body : (∀ op ∈ wordBody r.stride pixels r.lanes, ∀ stride ∈ op.strides, 0 ≤ stride) ↔ 0 ≤ r.stride := by
      rw [wordBody]
      split <;> simp [strides, or_imp, forall_and]
    have skips : Printable (if pixels ≠ 1 ∧ rest ≠ [] ∧ r.lanes.length > 1 then
        [UnloadStatement.skip (pixels * (r.lanes.length - 1))] else []) := by
      split <;> simp [UnloadStatement.strides]
    rw [storeBytes, printable_append, printable_append, printable_cons,
      printable_unrolled chunk _ (some_words r (by simp)), body, later]
    simp [skips, UnloadStatement.strides]

theorem mem_wordLanes {lane : Nat} (member : lane ∈ wordLanes reads) : ∃ r ∈ reads, r.lane = lane := by
  cases reads with
  | nil => simp [wordLanes] at member
  | cons r rest =>
    rw [wordLanes] at member
    rcases mem_cons.mp member with rfl | later
    · exact ⟨r, by simp, rfl⟩
    · obtain ⟨r', among, same⟩ := mem_map.mp later
      exact ⟨r', mem_cons_of_mem _ ((takeWhile_sublist _).subset among), same⟩

theorem mem_byteRuns {run : ByteRun} (member : run ∈ byteRuns reads) :
    (∀ lane ∈ run.lanes, ∃ r ∈ reads, r.lane = lane) ∧ run.words ≠ 0 := by
  fun_induction byteRuns reads with
  | case1 => simp at member
  | case2 r rest lanes words more ih =>
    rcases mem_cons.mp member with rfl | later
    · exact ⟨fun lane used => mem_wordLanes used, Nat.succ_ne_zero _⟩
    · obtain ⟨used, some_words⟩ := ih later
      refine ⟨?_, some_words⟩
      intro lane among
      obtain ⟨r', here, same⟩ := used lane among
      exact ⟨r', mem_cons_of_mem _ (mem_of_mem_drop here), same⟩

end

section

variable (memory : Int → BitVec 32) (chunk chunk' : Int)

theorem execute_copyWords_alike (runs : List WordRun) (s : CopyState) :
    execute memory (copyWords chunk runs) s = execute memory (copyWords chunk' runs) s := by
  induction runs generalizing s with
  | nil => rfl
  | cons r runs ih =>
    simp only [copyWords, flatMap_cons, execute_append, execute_cons, execute_unrolled]
    exact ih _

theorem execute_storeBytes_alike (pixels : Nat) (runs : List ByteRun) (s : CopyState) :
    execute memory (storeBytes chunk pixels runs) s = execute memory (storeBytes chunk' pixels runs) s := by
  induction runs generalizing s with
  | nil => rfl
  | cons r runs ih =>
    simp only [storeBytes, execute_append, execute_cons, execute_unrolled]
    exact ih _

end

theorem program_alike (l : OutputLayout) (wide narrow wide' narrow' : Int) (reads : List OutputRead) :
    (∀ memory s, execute memory (program l wide narrow reads) s = execute memory (program l wide' narrow' reads) s) ∧
      (Printable (program l wide narrow reads) ↔ Printable (program l wide' narrow' reads)) := by
  unfold program
  split
  · exact ⟨fun _ _ => rfl, Iff.rfl⟩
  · split
    · have filled := words_copyRuns (reads.map (·.address)) (reads.map (·.address))
      refine ⟨fun memory s => execute_copyWords_alike memory wide wide' _ s, ?_⟩
      rw [printable_copyWords _ filled, printable_copyWords _ filled]
    · have filled : ∀ r ∈ byteRuns reads, r.words ≠ 0 := fun r member => (mem_byteRuns member).2
      refine ⟨fun memory s => ?_, ?_⟩
      · rw [execute_append, execute_append, execute_storeBytes_alike memory narrow narrow']
      · rw [printable_append, printable_append, printable_storeBytes _ _ filled, printable_storeBytes _ _ filled]

theorem generate_fails (writer : UnloadWriter out d o before) (direct : o.mlator = false ∨ l.bits ≠ 8) {e : Failure}
    (refused : l.blocks d = .error e) (unchanged : Bool) :
    ∃ after, (generate (some out) l unchanged).run before = .error e after := by
  obtain ⟨start, decided, _⟩ := usesInterleaver_direct before writer.checked direct
  rw [generate, Run.device_bind writer.device, Run.options_bind, writer.options, EStateM.run_bind, decided]
  simp only [refused]
  exact ⟨_, rfl⟩

/-- Functions that are unrolled in other steps make the same reads and the same stores, in the same order. -/
theorem generate_unrolled_alike (l : OutputLayout) (unchanged : Bool) (writer : UnloadWriter out d o before)
    (writer' : UnloadWriter out' d o' before') (direct : o.mlator = false ∨ l.bits ≠ 8)
    (alike : ∃ narrow wide : Int, o' = { o with narrowChunk := narrow, wideChunk := wide }) :
    (∀ e, l.blocks d = .error e → (∃ after, (generate (some out) l unchanged).run before = .error e after) ∧
      ∃ after', (generate (some out') l unchanged).run before' = .error e after') ∧
    ∀ bs, l.blocks d = .ok bs → ∃ after after' program program',
      (generate (some out) l unchanged).run before = .ok () after ∧
      after.text out = before.text out ++ functionText d o l unchanged program ∧
      (generate (some out') l unchanged).run before' = .ok () after' ∧
      after'.text out' = before'.text out' ++ functionText d o' l unchanged program' ∧
      (Printable program ↔ Printable program') ∧
      ∀ memory s, execute memory program s = execute memory program' s := by
  have direct' : o'.mlator = false ∨ l.bits ≠ 8 := by
    obtain ⟨_, _, rfl⟩ := alike
    exact direct
  constructor
  · intro e refused
    exact ⟨generate_fails writer direct refused unchanged, generate_fails writer' direct' refused unchanged⟩
  · intro bs listed
    obtain ⟨after, run, text⟩ := generate_writes writer direct listed unchanged
    obtain ⟨after', run', text'⟩ := generate_writes writer' direct' listed unchanged
    obtain ⟨same, printable⟩ := program_alike l (if o.embeddedCode then o.wideChunk else 0)
      (if o.embeddedCode then o.narrowChunk else 0) (if o'.embeddedCode then o'.wideChunk else 0)
      (if o'.embeddedCode then o'.narrowChunk else 0) (l.reads d bs)
    exact ⟨after, after', _, _, run, text, run', text', printable, same⟩

def sevenPixels : OutputLayout := { processors := 0x37, shape := ⟨5, 1, 7⟩, outExpandThresh := 5 }

def unrolledSession (chunk : Int) : Session :=
  { device := some Device.max78000, options := { embeddedCode := true, narrowChunk := chunk } }

theorem unrolledSession_writer (chunk : Int) :
    UnloadWriter (.stream "main") Device.max78000 (unrolledSession chunk).options (unrolledSession chunk) :=
  ⟨rfl, rfl, ⟨nofun, nofun⟩, trivial, .inl rfl⟩

theorem generate_unrolled_by_three : ∃ after after' program program',
    (generate (some (.stream "main")) sevenPixels false).run (unrolledSession 3) = .ok () after ∧
    after.text (.stream "main") = (unrolledSession 3).text (.stream "main") ++
      functionText Device.max78000 (unrolledSession 3).options sevenPixels false program ∧
    (generate (some (.stream "main")) sevenPixels false).run (unrolledSession (-1)) = .ok () after' ∧
    after'.text (.stream "main") = (unrolledSession (-1)).text (.stream "main") ++
      functionText Device.max78000 (unrolledSession (-1)).options sevenPixels false program' ∧
    (Printable program ↔ Printable program') ∧
    ∀ memory s, execute memory program s = execute memory program' s := by
  have listed : sevenPixels.blocks Device.max78000 = .ok [⟨0, 0, 0, 7⟩, ⟨4, 0, 3, 3⟩] := by cbv
  exact (generate_unrolled_alike sevenPixels false (unrolledSession_writer 3) (unrolledSession_writer (-1)) (.inl rfl)
    ⟨-1, 0, rfl⟩).2 _ listed

end CnnForge.Unload
