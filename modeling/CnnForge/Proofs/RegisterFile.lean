import CnnForge.Accelerator.Startup
import CnnForge.Proofs.Endings

namespace CnnForge.Accelerator

attribute [local instance (2000)] instPowNat

open Outcome List Session Run Accelerator

structure Store where
  address : Int
  value : Int
  note : String

abbrev RegisterFile := Int → Int

namespace Store

/-- A store keeps the lowest 32 bits of its value. -/
def execute (file : RegisterFile) (s : Store) : RegisterFile :=
  fun a => if a = s.address then s.value % 2 ^ 32 else file a

def statement (compare : Bool) (s : Store) : String :=
  let value := Bus.Datum.text s.value
  s!"  {Bus.cell s.address} = {value};{s.note}\n"
    ++ (if compare then s!"  if ({Bus.cell s.address} != {value}) return CNN_FAIL;\n" else "")

end Store

def execute (stores : List Store) (file : RegisterFile) : RegisterFile := stores.foldl Store.execute file

theorem execute_cons (s : Store) (stores : List Store) (file : RegisterFile) :
    execute (s :: stores) file = execute stores (s.execute file) := rfl

theorem execute_untouched {stores : List Store} {a : Int} (untouched : ∀ s ∈ stores, s.address ≠ a)
    (file : RegisterFile) : execute stores file a = file a := by
  induction stores generalizing file with
  | nil => rfl
  | cons s stores ih =>
    have other : a ≠ s.address := fun same => untouched s (by simp) same.symm
    rw [execute_cons, ih fun s member => untouched s (by simp [member]), Store.execute, if_neg other]

/-- A writer of a program whose library part goes to `out`, apart from the log. -/
structure WritesProgram (d : Device) (o : Options) (out : Sink) (s : Session) : Prop where
  kind : s.bus.kind = .program
  device : s.device = some d
  options : s.options = o
  zeros : s.bus.settings.writeZeroRegisters = o.writeZeroRegisters
  compares : s.bus.settings.verifyWrites = o.verifyWrites
  sink : ∃ main, s.bus.settings.mainFile = some main ∧ s.bus.settings.apiFile.getD main = out ∧
    (s.bus.settings.apiFile.isSome = true → o.embeddedCode = true)
  takes : s.TakesText out
  log : ∀ path, s.logPath = some path → out.place ≠ (Sink.file path).place

namespace WritesProgram

variable {d : Device} {o : Options} {out : Sink} {s : Session}

theorem librarySink (writer : WritesProgram d o out s) : Bus.librarySink s.bus.settings = some out := by
  obtain ⟨main, known, goes, _⟩ := writer.sink
  rw [Bus.librarySink, known]
  cases api : s.bus.settings.apiFile with
  | none => simpa [api] using goes
  | some k => simpa [api] using goes

theorem append (writer : WritesProgram d o out s) (k : Sink) (t : String) : WritesProgram d o out (s.append k t) where
  kind := by rw [append_bus, writer.kind]
  device := by rw [append_device, writer.device]
  options := by rw [append_options, writer.options]
  zeros := by rw [append_bus, writer.zeros]
  compares := by rw [append_bus, writer.compares]
  sink := by rw [append_bus]; exact writer.sink
  takes := takesText_append writer.takes k t
  log := by rw [append_logPath]; exact writer.log

end WritesProgram

def Adds (d : Device) (o : Options) (out : Sink) (t : String) (P : Prop) (x : Run Unit) : Prop :=
  ∀ before u after, WritesProgram d o out before → x.run before = .ok u after →
    WritesProgram d o out after ∧ after.text out = before.text out ++ t ∧ P

namespace Adds

variable {d : Device} {o : Options} {out : Sink} {t t' : String} {P Q : Prop} {x y : Run Unit}

theorem nothing : Adds d o out "" True (pure ()) := by
  intro before u after writer run
  obtain ⟨_, rfl⟩ := pure_ok.mp run
  exact ⟨writer, String.append_empty.symm, trivial⟩

theorem mono (adds : Adds d o out t P x) (weaker : P → Q) : Adds d o out t Q x := by
  intro before u after writer run
  obtain ⟨kept, text, holds⟩ := adds before u after writer run
  exact ⟨kept, text, weaker holds⟩

theorem seq (first : Adds d o out t P x) (rest : Adds d o out t' Q y) :
    Adds d o out (t ++ t') (P ∧ Q) (x >>= fun _ => y) := by
  intro before u after writer run
  obtain ⟨_, middle, ran, next⟩ := bind_ok.mp run
  obtain ⟨kept, text, holds⟩ := first before _ middle writer ran
  obtain ⟨kept', text', holds'⟩ := rest middle u after kept next
  exact ⟨kept', by rw [text', text, String.append_assoc], holds, holds'⟩

theorem seq_silent (first : Adds d o out t P x) (rest : Adds d o out "" Q y) :
    Adds d o out t (P ∧ Q) (x >>= fun _ => y) := by
  have both := first.seq rest
  rwa [String.append_empty] at both

theorem silent_seq (first : Adds d o out "" P x) (rest : Adds d o out t Q y) :
    Adds d o out t (P ∧ Q) (x >>= fun _ => y) := by
  have both := first.seq rest
  rwa [String.empty_append] at both

theorem reads {α : Type} {f : α → Run Unit} {r : Run α} {a : α}
    (reads : ∀ s, WritesProgram d o out s → r.run s = .ok a s) (rest : Adds d o out t P (f a)) :
    Adds d o out t P (r >>= f) := by
  intro before u after writer run
  obtain ⟨a', middle, ran, next⟩ := bind_ok.mp run
  rw [reads before writer] at ran
  cases ran
  exact rest before u after writer next

theorem get {f : Session → Run Unit} (rest : ∀ s, WritesProgram d o out s → Adds d o out t P (f s)) :
    Adds d o out t P (get >>= f) := by
  intro before u after writer run
  obtain ⟨s, middle, ran, next⟩ := bind_ok.mp run
  obtain ⟨rfl, rfl⟩ := get_ok.mp ran
  exact rest before writer before u after writer next

theorem options {f : Options → Run Unit} (rest : Adds d o out t P (f o)) : Adds d o out t P (options >>= f) :=
  reads (fun _ writer => options_ok.mpr ⟨writer.options, rfl⟩) rest

theorem device {f : Device → Run Unit} (rest : Adds d o out t P (f d)) : Adds d o out t P (device >>= f) :=
  reads (fun _ writer => device_ok.mpr ⟨writer.device, rfl⟩) rest

theorem check {b : Bool} {message : String} : Adds d o out "" (b = true) (check b message) := by
  intro before u after writer run
  obtain ⟨holds, rfl⟩ := check_ok.mp run
  exact ⟨writer, String.append_empty.symm, holds⟩

theorem emit (t : String) : Adds d o out t True (emit out t) := by
  intro before u after writer run
  obtain rfl := emit_ok.mp run
  exact ⟨writer.append out t, text_append writer.takes t, trivial⟩

theorem modifyBus {f : Bus → Bus} (kind : ∀ b, (f b).kind = b.kind) (settings : ∀ b, (f b).settings = b.settings) :
    Adds d o out "" True (modifyBus f) := by
  intro before u after writer run
  rw [Run.modifyBus, modify_ok] at run
  subst run
  refine ⟨⟨(kind _).trans writer.kind, writer.device, writer.options, ?_, ?_, ?_,
    takesText_bus writer.takes _, writer.log⟩, by simp, trivial⟩
  · rw [settings, writer.zeros]
  · rw [settings, writer.compares]
  · rw [settings]
    exact writer.sink

theorem of_logFree {x : Run Unit} (ends : ∀ {I : Session → Prop}, LogFree I → Ends I (fun _ => True) (fun _ => True) x) :
    Adds d o out "" True x := by
  intro before u after writer run
  have free : LogFree fun s => WritesProgram d o out s ∧ s.text out = before.text out := by
    constructor
    · rintro s _ _ ⟨⟨kind, device, options, zeros, compares, sink, takes, log⟩, same⟩
      exact ⟨⟨kind, device, options, zeros, compares, sink, takes, log⟩, same⟩
    · rintro s path t logged ⟨writer, same⟩
      exact ⟨writer.append _ _, (s.text_append_other (writer.log path logged) t).trans same⟩
  obtain ⟨_, kept, text⟩ := (ends free).result ⟨writer, rfl⟩ run
  exact ⟨kept, by rw [text, String.append_empty], trivial⟩

theorem warn (message : String) : Adds d o out "" True (warn message) := of_logFree fun free => free.diagnose _ _

theorem counted {f : Bus → Bus} (kind : ∀ b, (f b).kind = b.kind) (settings : ∀ b, (f b).settings = b.settings)
    (line : String) : Adds d o out line True (Run.emit out line >>= fun _ => Run.modifyBus f) :=
  mono (seq_silent (emit line) (modifyBus kind settings)) fun _ => trivial

theorem write {address value place : Int} {note : String} {absolute : Bool}
    (full : place = if absolute then address else address + o.apbBase) :
    Adds d o out (Store.statement o.verifyWrites ⟨place, value, note⟩) (0 ≤ value)
      (Bus.write address value { comment := note, noVerify := false, absolute }) := by
  subst full
  unfold Bus.write
  refine get fun s writer => ?_
  rw [writer.kind]
  unfold Bus.writeStatement
  dsimp only
  refine mono (silent_seq check (silent_seq check (options (get (P := True) fun s writer => ?_))))
    fun holds => by simpa using holds.1
  rw [writer.librarySink, writer.compares]
  dsimp only
  rw [← bind_assoc]
  refine mono (seq (counted (by intro _; rfl) (by intro _; rfl) _) (Q := True) ?_) fun _ => trivial
  cases o.verifyWrites with
  | true => exact counted (by intro _; rfl) (by intro _; rfl) _
  | false => exact nothing

variable {d : Device} {o : Options} {out : Sink}

theorem functionHeader (frame : CSource.FunctionFrame) :
    Adds d o out (CSource.functionHeader o frame) True (Bus.functionHeader frame) := by
  unfold Bus.functionHeader Bus.ifProgram
  refine get fun s writer => ?_
  rw [writer.kind]
  refine get fun s writer => ?_
  dsimp only
  rw [if_pos rfl, writer.librarySink]
  exact options (emit _)

end Adds

end CnnForge.Accelerator
