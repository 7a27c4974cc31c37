import CnnForge.Proofs.BusSteps
import CnnForge.Proofs.OutputChecks

namespace CnnForge

open Outcome Unload Run

variable {before after : Session} {name : String} {offset : Int} {m : Mark}

/-- A sink that is neither the log nor the file with the result. -/
def Session.Reserved (s : Session) (k : Sink) : Prop :=
  (∀ path, s.logPath = some path → k.place ≠ (Sink.file path).place) ∧
    ∀ name folder, s.options.resultNumpy = some name → s.bus.settings.testName = some folder →
      k.place ≠ (Sink.file (resultPath s.options.baseFolder folder name)).place

def Session.room (s : Session) (name : String) : Nat := (s.images[name]?.map (·.size)).getD 0

@[simp] theorem Session.room_append (s : Session) (k : Sink) (t : String) (name : String) :
    (s.append k t).room name = s.room name := by
  cases k <;> rfl

def Session.mark (s : Session) (name : String) (i : Nat) (mark : Mark) : Session :=
  { s with images := s.images.modify name fun m => { m with words := m.words.insert i mark } }

theorem Session.room_mark (s : Session) (name : String) (i : Nat) (mark : Mark) (other : String) :
    (s.mark name i mark).room other = s.room other := by
  simp only [room, Session.mark, Std.HashMap.getElem?_modify]
  split
  · rename_i same
    rw [beq_iff_eq] at same
    subst same
    cases s.images[name]? <;> rfl
  · rfl

theorem Unload.recordWord_ok {u : Unit} : (recordWord name offset m).run before = .ok u after ↔
    ∃ i, position? (before.room name) (Bits.down offset 2) = some i ∧ before.mark name i m = after := by
  simp only [recordWord, bind_ok, get_ok, orFail_ok, modify_ok]
  constructor
  · rintro ⟨_, _, ⟨rfl, rfl⟩, i, _, ⟨here, rfl⟩, rfl⟩
    exact ⟨i, here, rfl⟩
  · rintro ⟨i, here, rfl⟩
    exact ⟨_, _, ⟨rfl, rfl⟩, i, _, ⟨here, rfl⟩, rfl⟩

namespace Stays

variable {R : Session → Session → Prop}

theorem imageWord (name : String) (offset : Int) : Stays R (imageWord name offset) := by
  refine bind get fun s => bind (orFail (by decide) _) fun image => lift ?_
  rw [MemoryImage.get]
  split
  · trivial
  · exact .throw (by decide)

variable (free : ∀ first, LogFree (R first)) (s : Unload.VerifySettings) (processor offset channel row column : Int)

include free

theorem checkInput (fatal : Bool) : Stays R (checkInput s fatal processor offset channel row column) := by
  refine bind (imageWord _ _) fun word => ?_
  split
  · exact pure _
  · exact stopIf free _ _
  · exact stopIf free _ _

theorem checkWord : Stays R (checkWord s processor offset channel row column) := by
  refine ite (pure _) (bind options fun o => bind (checkInput free _ _ _ _ _ _ _) fun _ => ?_)
  split
  · refine bind (imageWord _ _) fun word => ?_
    split
    · exact pure _
    · exact throw (by decide)
    · exact stopIf free _ _
  · exact pure _

end Stays

structure Quiet (before after : Session) : Prop where
  options : after.options = before.options
  device : after.device = before.device
  logPath : after.logPath = before.logPath
  bus : after.bus = before.bus
  text : ∀ k, before.Reserved k → after.text k = before.text k
  takes : ∀ k, before.Reserved k → before.TakesText k → after.TakesText k
  room : ∀ name, after.room name = before.room name

namespace Quiet

theorem of_same (options : after.options = before.options) (device : after.device = before.device)
    (logPath : after.logPath = before.logPath) (bus : after.bus = before.bus) (files : after.files = before.files)
    (streams : after.streams = before.streams) (room : ∀ name, after.room name = before.room name) :
    Quiet before after := by
  refine ⟨options, device, logPath, bus, ?_, ?_, room⟩
  · intro k _
    cases k with
    | file path => simp only [Session.text, files]
    | stream name => simp only [Session.text, streams]
  · intro k _ takes
    cases k with
    | file path => simpa only [Session.TakesText, files] using takes
    | stream name => trivial

theorem refl (s : Session) : Quiet s s := of_same rfl rfl rfl rfl rfl rfl fun _ => rfl

theorem reserved (quiet : Quiet before after) {k : Sink} (reserved : before.Reserved k) : after.Reserved k := by
  simpa only [Session.Reserved, quiet.options, quiet.logPath, quiet.bus] using reserved

theorem trans (a b c : Session) (first : Quiet a b) (second : Quiet b c) : Quiet a c := by
  refine ⟨second.options.trans first.options, second.device.trans first.device, second.logPath.trans first.logPath,
    second.bus.trans first.bus, ?_, ?_, fun name => (second.room name).trans (first.room name)⟩
  · intro k reserved
    rw [second.text k (first.reserved reserved), first.text k reserved]
  · intro k reserved takes
    exact second.takes k (first.reserved reserved) (first.takes k reserved takes)

theorem logFree (first : Session) : LogFree (Quiet first) := by
  constructor
  · intro s _ _ quiet
    exact trans _ _ _ quiet (of_same rfl rfl rfl rfl rfl rfl fun _ => rfl)
  · intro s path t logged quiet
    refine trans _ _ _ quiet ⟨by simp, by simp, by simp, by simp, ?_, ?_, Session.room_append s _ t⟩
    · intro k reserved
      exact s.text_append_other (reserved.1 path logged) t
    · intro k _ takes
      exact Session.takesText_append takes _ t

theorem mark (s : Session) (name : String) (i : Nat) (mark : Mark) : Quiet s (s.mark name i mark) :=
  of_same rfl rfl rfl rfl rfl rfl (s.room_mark name i mark)

theorem takeWord (s : Unload.VerifySettings) (processor offset channel row column value : Int) :
    Keeps Quiet (takeWord s processor offset channel row column value) := by
  refine .bind trans ((Stays.checkWord logFree _ _ _ _ _ _).keeps refl) fun _ => ?_
  split
  · intro before u after run
    obtain ⟨i, _, rfl⟩ := recordWord_ok.mp run
    exact mark _ _ _ _
  · exact .pure refl _

theorem of_files (path : String) (options : after.options = before.options) (device : after.device = before.device)
    (logPath : after.logPath = before.logPath) (bus : after.bus = before.bus) (streams : after.streams = before.streams)
    (room : ∀ name, after.room name = before.room name)
    (files : ∀ p, p ≠ normalPath path → after.files.files[p]? = before.files.files[p]?)
    (apart : ∀ k, before.Reserved k → k.place ≠ (Sink.file path).place) : Quiet before after := by
  have same : ∀ path', before.Reserved (.file path') →
      after.files.files[normalPath path']? = before.files.files[normalPath path']? := by
    intro path' reserved
    apply files
    intro here
    exact apart _ reserved (by simp [Sink.place, here])
  refine ⟨options, device, logPath, bus, ?_, ?_, room⟩
  · intro k reserved
    cases k with
    | file path' => simp only [Session.text, same path' reserved]
    | stream name => simp only [Session.text, streams]
  · intro k reserved takes
    cases k with
    | file path' => simpa only [Session.TakesText, same path' reserved] using takes
    | stream name => trivial

theorem addFolder_files (t : FileTree) (path : String) : (t.addFolder path).files = t.files := by
  simp only [FileTree.addFolder]
  generalize List.range (pathParts path).length = items
  induction items generalizing t with
  | nil => rfl
  | cons i items ih => exact ih _

theorem saveResult {s : Unload.VerifySettings} {data : Tensor} {u : Unit}
    (named : s.testName = before.bus.settings.testName) (run : (saveResult s data).run before = .ok u after) :
    Quiet before after := by
  simp only [Unload.saveResult, bind_ok, options_ok] at run
  obtain ⟨_, _, ⟨rfl, rfl⟩, run⟩ := run
  split at run
  · rename_i name wanted
    simp only [bind_ok, orFail_ok, createFile, get_ok, lift_ok, modify_ok] at run
    obtain ⟨folder, _, ⟨known, rfl⟩, _, _, ⟨_, _, ⟨rfl, rfl⟩, t, _, ⟨created, rfl⟩, rfl⟩, rfl⟩ := run
    refine of_files (resultPath before.options.baseFolder folder name) rfl rfl rfl rfl rfl (fun _ => rfl) ?_ ?_
    · intro p other
      have written : t.files[p]? = before.files.files[p]? := by
        simp only [FileTree.create] at created
        cases writable : before.files.checkWritable
            (resultPath before.options.baseFolder folder name) with
        | error e => simp [writable, bind, Except.bind] at created
        | ok _ =>
          simp only [writable, bind, Except.bind, pure, Except.pure, Except.ok.injEq] at created
          rw [← created]
          simp [Std.HashMap.getElem?_insert, Ne.symm other]
      simp only [FileTree.add, Std.HashMap.getElem?_insert, beq_iff_eq, Ne.symm other, if_false, addFolder_files]
      exact written
    · intro k reserved
      exact reserved.2 name folder wanted (named ▸ known)
  · obtain ⟨_, rfl⟩ := pure_ok.mp run
    exact refl before

end Quiet

namespace Unload

variable {s : VerifySettings} {l : OutputLayout} {d : Device} {data : Tensor} {check : Verifier} {n : Nat} {b : OutputBlock}
  {bs : List OutputBlock} {u : Unit} {processor channel row column value : Int} {I : Session → Prop} {E : Failure → Prop}

theorem saveResult_unsaved (unsaved : before.options.resultNumpy = none) (s : VerifySettings) (data : Tensor) :
    (saveResult s data).run before = .ok () before := by
  rw [saveResult, options_bind, unsaved]
  rfl

theorem verify_direct (direct : s.interleaved = false ∨ s.embedded = true) :
    verify check s l data = (saveResult s data >>= fun _ => verifyDirect check s l data) := by
  have off : (s.interleaved && !s.embedded) = false := by
    rcases direct with off | off <;> simp [off]
  simp only [verify, off, Bool.false_and, Bool.false_eq_true, if_false]

theorem verifyDirect_ok (selected : before.device = some d)
    (run : (verifyDirect check s l data).run before = .ok u after) : l.processors ≠ 0 ∧
      ∀ bs, l.blocks d = .ok bs → ∃ count, ((places l bs).foldlM (fun count (n, b) =>
        verifyCounted check s l d data before.options.maxCount count n b) 0).run before = .ok count after := by
  rw [verifyDirect, device_bind selected, options_bind] at run
  obtain ⟨used, run⟩ := refuse_ok run
  refine ⟨used, fun bs found => ?_⟩
  by_cases empty : l.shape.pixels = 0
  · rw [if_pos empty] at run
    have none : places l bs = [] := by simp [places, empty]
    rw [none]
    exact ⟨0, by rw [(pure_ok.mp run).2]; rfl⟩
  · simp only [empty, if_false, bind_ok, lift_ok, found, Except.ok.injEq, pure_ok] at run
    obtain ⟨_, _, ⟨rfl, rfl⟩, count, _, checked, _, rfl⟩ := run
    exact ⟨count, checked⟩

theorem position?_word {room : Nat} (above : 0 ≤ offset) (below : offset < 4 * room) :
    position? room (Bits.down offset 2) = some (offset / 4).toNat := by
  have word : Bits.down offset 2 = offset / 4 := Int.shiftRight_eq_div_pow offset 2
  have positive : ¬ offset / 4 < 0 := by omega
  have inside : 0 ≤ offset / 4 ∧ offset / 4 < room := by omega
  simp only [position?, word, positive, inside, and_self, if_true, if_false]

theorem takeWord_ends (overwrites : s.overwriteOk = true) (kept : ∀ a b, I a → Quiet a b → I b) (above : 0 ≤ offset)
    (below : ∀ st name, I st → s.output = some name → offset < 4 * st.room name) :
    Ends I E (fun _ => True) (takeWord s processor offset channel row column value) := by
  have skipped : Ends I E (fun _ => True) (checkWord s processor offset channel row column) := by
    rw [checkWord, if_pos overwrites]
    exact .pure trivial
  refine .bind skipped fun _ _ => ?_
  split
  · rename_i name recorded
    intro st inv
    rw [(recordWord_ok (u := ())).mpr ⟨_, position?_word above (below st name inv recorded), rfl⟩]
    exact ⟨trivial, kept _ _ inv (.mark ..)⟩
  · exact .pure trivial

theorem verifyPixel_ends (missing : ¬Known l data (n, b) → E .index)
    (words : ∀ values, (laneValues data l b (n / l.shape.width) (n % l.shape.width)).mapM id = some values →
      ∀ w ∈ pixelWords s l d n b values,
        Ends I E (fun _ => True) (takeWord s b.processor w.1 b.first (n / l.shape.width : Nat) (n % l.shape.width : Nat) w.2.1) ∧
        Ends I E (fun _ => True) (check w.1 w.2.1 w.2.2)) (counted : Bool) :
    Ends I E (fun _ => True) (verifyPixel check s l d data n b counted) := by
  have found : Ends I E (fun values => (laneValues data l b (n / l.shape.width) (n % l.shape.width)).mapM id = some values)
      (orFail .index ((laneValues data l b (n / l.shape.width) (n % l.shape.width)).mapM id)) := by
    refine ends_orFail (fun _ => id) fun none => missing ?_
    rintro ⟨values, known⟩
    cases none.symm.trans known
  refine .bind found fun values known => .forM _ fun w member => ?_
  obtain ⟨taken, checked⟩ := words values known w member
  exact .bind taken fun _ _ => .ite (fun _ => checked) fun _ => .pure trivial

theorem verifyDirect_ends (selected : ∀ st, I st → st.device = some d) (unused : l.processors = 0 → E .value)
    (notes : ∀ out, s.notes = some out → Ends I E (fun _ => True) (emit out "  // Truncated further checks...\n"))
    (pixels : Yields E (fun bs => ∀ place ∈ places l bs, place.2.lanes ≠ 0 → ∀ counted,
      Ends I E (fun _ => True) (verifyPixel check s l d data place.1 place.2 counted)) (l.blocks d)) :
    Ends I E (fun _ => True) (verifyDirect check s l data) := by
  refine .bind (ends_device selected) ?_
  rintro _ rfl
  refine .bind ends_options fun o _ => .guard (fun none => .throw (unused none)) fun _ _ => ?_
  refine .ite (fun _ => .pure trivial) fun _ => .bind (ends_lift pixels) fun bs each => ?_
  refine .bind (Q := fun _ => True) (.foldlM _ (fun place member count _ => ?_) trivial) fun _ _ => .pure trivial
  refine .ite (fun _ => .pure trivial) fun lanes => .bind (each place member lanes _) fun _ _ => ?_
  refine .ite (fun _ => ?_) fun _ => .pure trivial
  split
  · exact .bind (notes _ ‹_›) fun _ _ => .pure trivial
  · exact .pure trivial

end Unload

end CnnForge
