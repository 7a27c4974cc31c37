import CnnForge.Proofs.BiasLoading
import CnnForge.Proofs.InputBlocks

namespace CnnForge.DataMemory

open Outcome Accelerator List Bus Session DataMemory Run

variable {s : Session} {embedded : Bool} {α : Type} {g : Bus → Bus} {x : InputWord}

/-- How data is written: with which device and options, by which writer, to a memory of how many words. The text
at `sink` is followed. -/
structure Setup where
  device : Device
  options : Options
  settings : BusSettings
  room : Nat
  sink : Sink

structure Writing (w : Setup) (s : Session) : Prop where
  device : s.device = some w.device
  options : s.options = w.options
  kind : s.bus.kind = .program
  settings : s.bus.settings = w.settings
  room : s.bus.image.size = w.room
  stored : s.bus.dataMemory = none
  idle : s.bus.buffer.count = 0
  takes : s.TakesText w.sink
  log : ∀ path, s.logPath = some path → w.sink.place ≠ (Sink.file path).place

def share (k target : Sink) (t : String) : String := if target = k then t else ""

theorem share_append (k target : Sink) (t t' : String) : share k target t ++ share k target t' = share k target (t ++ t') := by
  unfold share
  split
  · rfl
  · exact String.append_empty

theorem share_empty (k target : Sink) : share k target "" = "" := ite_self ""

def Separable (k target : Sink) : Prop := target = k ∨ k.place ≠ target.place

variable {w : Setup} {target main : Sink} {E : Prop}

theorem Writing.append (writing : Writing w s) (target : Sink) (t : String) : Writing w (s.append target t) where
  device := by rw [append_device, writing.device]
  options := by rw [append_options, writing.options]
  kind := by rw [append_bus, writing.kind]
  settings := by rw [append_bus, writing.settings]
  room := by rw [append_bus, writing.room]
  stored := by rw [append_bus, writing.stored]
  idle := by rw [append_bus, writing.idle]
  takes := takesText_append writing.takes target t
  log := by rw [append_logPath]; exact writing.log

theorem text_share (takes : s.TakesText w.sink) (apart : Separable w.sink target) (t : String) :
    (s.append target t).text w.sink = s.text w.sink ++ share w.sink target t := by
  unfold share
  rcases apart with rfl | apart
  · rw [if_pos rfl, text_append takes]
  · have other : target ≠ w.sink := by
      rintro rfl
      exact apart rfl
    rw [if_neg other, text_append_other s apart, String.append_empty]

/-- `x` adds `t` to the followed text, takes `records` and gives a result with `Q`. It only fails if `E` holds, or if
overwriting is refused and not all records are free. -/
def Loads {α : Type} (E : Prop) (w : Setup) (t : String) (records : List (Nat × Mark)) (Q : α → Prop)
    (x : Run α) : Prop :=
  ∀ before, Writing w before →
    (∀ e after, x.run before = .error e after →
      E ∨ w.options.noErrorStop = false ∧ ¬Free records before.bus.image.words) ∧
    ∀ a after, x.run before = .ok a after → Writing w after ∧ after.text w.sink = before.text w.sink ++ t ∧
      Taken (w.options.noErrorStop = false) records before.bus.image.words after.bus.image.words ∧ Q a

def KeepsImage (b b' : Bus) : Prop :=
  b'.kind = b.kind ∧ b'.settings = b.settings ∧ b'.image = b.image ∧ b'.dataMemory = b.dataMemory ∧
    (b.buffer.count = 0 → b'.buffer.count = 0)

namespace Loads

variable {α β : Type} {t t' : String} {records records' : List (Nat × Mark)} {P Q : α → Prop} {R : β → Prop}
  {x : Run α} {f : α → Run β}

theorem of_ok (ran : ∀ s, Writing w s → ∃ a after, x.run s = .ok a after ∧ Writing w after ∧
    after.text w.sink = s.text w.sink ++ t ∧ after.bus.image.words = s.bus.image.words ∧ Q a) :
    Loads E w t [] Q x := by
  intro before writing
  obtain ⟨a, after, run, kept, text, words, holds⟩ := ran before writing
  rw [run]
  constructor
  · intro e last failed
    cases failed
  · intro a last same
    cases same
    exact ⟨kept, text, ⟨words, fun _ => ⟨nodup_nil, by simp⟩⟩, holds⟩

theorem pure {a : α} (holds : Q a) : Loads E w "" [] Q (pure a) :=
  of_ok fun s writing => ⟨a, s, rfl, writing, String.append_empty.symm, rfl, holds⟩

theorem bind (first : Loads E w t records P x) (rest : ∀ a, P a → Loads E w t' records' R (f a)) :
    Loads E w (t ++ t') (records ++ records') R (x >>= f) := by
  intro before writing
  obtain ⟨error, result⟩ := first before writing
  constructor
  · intro e after failed
    rcases bind_error failed with failed | ⟨a, middle, ran, failed⟩
    · refine (error e after failed).imp id fun ⟨stops, used⟩ => ⟨stops, fun free => ?_⟩
      exact used (free_append.mp free).1
    · obtain ⟨kept, _, taken, holds⟩ := result a middle ran
      refine ((rest a holds middle kept).1 e after failed).imp id fun ⟨stops, used⟩ => ⟨stops, fun free => ?_⟩
      rw [taken.words] at used
      exact used (free_append.mp free).2
  · intro c after run
    obtain ⟨a, middle, ran, next⟩ := bind_ok.mp run
    obtain ⟨kept, text, taken, holds⟩ := result a middle ran
    obtain ⟨kept', text', taken', holds'⟩ := (rest a holds middle kept).2 c after next
    exact ⟨kept', by rw [text', text, String.append_assoc], taken.trans taken', holds'⟩

theorem imp (loads : Loads E w t records P x) (implies : ∀ a, P a → Q a) : Loads E w t records Q x := by
  intro before writing
  refine ⟨(loads before writing).1, fun a after run => ?_⟩
  obtain ⟨kept, text, taken, holds⟩ := (loads before writing).2 a after run
  exact ⟨kept, text, taken, implies a holds⟩

theorem silent (first : Loads E w "" [] P x) (rest : ∀ a, P a → Loads E w t records R (f a)) :
    Loads E w t records R (x >>= f) := by
  have both := first.bind rest
  rwa [String.empty_append, nil_append] at both

theorem ending (first : Loads E w t records P x) (rest : ∀ a, P a → Loads E w "" [] R (f a)) :
    Loads E w t records R (x >>= f) := by
  have both := first.bind rest
  rwa [String.append_empty, append_nil] at both

theorem adds (first : Loads E w t records P x) (rest : ∀ a, P a → Loads E w t' [] R (f a)) :
    Loads E w (t ++ t') records R (x >>= f) := by
  have both := first.bind rest
  rwa [append_nil] at both

theorem claims (first : Loads E w "" records P x) (rest : ∀ a, P a → Loads E w t [] R (f a)) :
    Loads E w t records R (x >>= f) := by
  have both := first.adds rest
  rwa [String.empty_append] at both

theorem reads {a : α} (reads : ∀ s, Writing w s → x.run s = .ok a s)
    (rest : Loads E w t records R (f a)) : Loads E w t records R (x >>= f) := by
  have first : Loads E w "" [] (· = a) x :=
    of_ok fun s writing => ⟨a, s, reads s writing, writing, String.append_empty.symm, rfl, rfl⟩
  refine first.silent fun a' same => ?_
  rw [same]
  exact rest

theorem get {f : Session → Run β} (rest : ∀ s, Writing w s → Loads E w t records R (f s)) :
    Loads E w t records R (get >>= f) := by
  intro before writing
  exact rest before writing before writing

theorem options {f : Options → Run β} (rest : Loads E w t records R (f w.options)) :
    Loads E w t records R (options >>= f) :=
  reads (fun _ writing => options_ok.mpr ⟨writing.options, rfl⟩) rest

theorem device {f : Device → Run β} (rest : Loads E w t records R (f w.device)) :
    Loads E w t records R (device >>= f) :=
  reads (fun _ writing => device_ok.mpr ⟨writing.device, rfl⟩) rest

theorem throw {e : Failure} (fails : E) : Loads E w t records Q (throw e) :=
  fun _ _ => ⟨fun _ _ _ => .inl fails, fun _ _ run => (throw_ok.mp run).elim⟩

theorem check {holds : Bool} {message : String} {f : Unit → Run β} (fails : holds = false → E)
    (rest : holds = true → Loads E w t records R (f ())) :
    Loads E w t records R (check holds message >>= f) := by
  cases holds with
  | true => exact reads (fun _ _ => rfl) (rest rfl)
  | false => exact silent (P := fun _ => False) (throw (fails rfl)) fun _ never => never.elim

theorem changes {g : Session → Session} (kept : ∀ s, Writing w s → Writing w (g s) ∧
    (g s).text w.sink = s.text w.sink ++ t ∧ (g s).bus.image.words = s.bus.image.words) :
    Loads E w t [] (fun _ => True) (modify g : Run PUnit) := by
  refine of_ok fun s writing => ?_
  obtain ⟨after, text, words⟩ := kept s writing
  exact ⟨⟨⟩, _, modify_ok.mpr rfl, after, text, words, trivial⟩

theorem emit (apart : Separable w.sink target) (t : String) :
    Loads E w (share w.sink target t) [] (fun _ => True) (emit target t) :=
  changes fun s writing => ⟨writing.append target t, text_share writing.takes apart t, by rw [append_bus]⟩

theorem modifyBus (kept : ∀ b, KeepsImage b (g b)) : Loads E w "" [] (fun _ => True) (modifyBus g) := by
  refine changes fun s writing => ?_
  obtain ⟨kind, settings, image, stored, idle⟩ := kept s.bus
  exact ⟨⟨writing.device, writing.options, kind.trans writing.kind, settings.trans writing.settings,
    (congrArg _ image).trans writing.room, stored.trans writing.stored, idle writing.idle,
    takesText_bus writing.takes _, writing.log⟩, by simp, congrArg _ image⟩

theorem of_logFree {x : Run Unit} (ends : ∀ {I : Session → Prop}, LogFree I → Ends I (fun _ => False) (fun _ => True) x) :
    Loads E w "" [] (fun _ => True) x := by
  refine of_ok fun s writing => ?_
  have free : LogFree fun s' => Writing w s' ∧ s'.text w.sink = s.text w.sink ∧ s'.bus.image.words = s.bus.image.words := by
    constructor
    · rintro s' _ _ ⟨⟨device, options, kind, settings, room, stored, idle, takes, log⟩, same, words⟩
      exact ⟨⟨device, options, kind, settings, room, stored, idle, takes, log⟩, same, words⟩
    · rintro s' path t logged ⟨writing, same, words⟩
      exact ⟨writing.append _ t, (s'.text_append_other (writing.log path logged) t).trans same, by rwa [append_bus]⟩
  obtain ⟨u, after, run, _, kept, text, words⟩ := (ends free).returns ⟨writing, rfl, rfl⟩
  exact ⟨u, after, run, kept, by rw [text, String.append_empty], words, trivial⟩

theorem put (line : String) : Loads E w "" [] (fun _ => True) (put line) := of_logFree fun free => free.put line

theorem warn (message : String) : Loads E w "" [] (fun _ => True) (warn message) := of_logFree fun free => free.diagnose _ _

theorem stop {Q : Unit → Prop} (fails : E) (message : String) : Loads E w t records Q (stop message) := by
  refine fun before _ => ⟨fun _ _ _ => .inl fails, fun _ _ run => ?_⟩
  obtain ⟨_, stopped⟩ := stop_run message before
  cases stopped.symm.trans run

theorem mapM {t : α → String} {r : α → Nat × Mark} {g : α → β} (items : List α)
    (step : ∀ a ∈ items, Loads E w (t a) [r a] (· = g a) (f a)) :
    Loads E w (String.join (items.map t)) (items.map r) (· = items.map g) (items.mapM f) := by
  induction items with
  | nil => exact pure rfl
  | cons item items ih =>
    rw [mapM_cons, map_cons, String.join_cons, map_cons, ← singleton_append]
    refine bind (step item (by simp)) fun c here => ?_
    refine ending (ih fun a member => step a (by simp [member])) fun cs rest => ?_
    rw [here, rest]
    exact pure rfl

theorem output (file : w.settings.mainFile = some main) (apart : Separable w.sink main) (t : String) :
    Loads E w (share w.sink main t) [] (fun _ => True) (output t) := by
  unfold Bus.output
  refine get fun s writing => ?_
  simp only [writing.kind, writing.settings, file]
  exact emit apart t

theorem counted (apart : Separable w.sink target) (kept : ∀ b, KeepsImage b (g b)) (line : String) :
    Loads E w (share w.sink target line) [] (fun _ => True) (Run.emit target line >>= fun _ => Run.modifyBus g) :=
  ending (emit apart line) fun _ _ => modifyBus kept

theorem writeData (library : librarySink w.settings = some main) (apart : Separable w.sink main) {address v : Int}
    (fails : ¬(0 ≤ v ∧ 0 ≤ address) → E) :
    Loads E w (share w.sink main (Store.statement w.settings.verifyWrites ⟨address + w.options.apbBase, v, ""⟩)) []
      (fun _ => True) (writeData address v) := by
  unfold Bus.writeData
  refine get fun s writing => get fun s' writing' => ?_
  simp only [writing.kind, writing'.stored, Option.isSome_none, Bool.and_false, Bool.false_and, Bool.false_eq_true, if_false]
  unfold write
  refine get fun s writing => ?_
  rw [writing.kind]
  unfold writeStatement
  dsimp only
  refine check (fun wrong => fails ?_) fun value => check (fun wrong => fails ?_) fun place => options ?_
  · have negative := of_decide_eq_false wrong
    omega
  · have negative := of_decide_eq_false wrong
    omega
  refine get fun s writing => ?_
  rw [writing.settings, library]
  dsimp only
  rw [← bind_assoc, Store.statement, ← share_append]
  refine adds (counted apart (by simp [KeepsImage]) _) fun _ _ => ?_
  cases w.settings.verifyWrites with
  | true => exact counted apart (by simp [KeepsImage]) _
  | false =>
    rw [if_neg Bool.false_ne_true, share_empty]
    exact pure trivial

end Loads

def Fits (room : Nat) (x : InputWord) : Prop :=
  (∃ v, x.value = some v ∧ 0 ≤ v) ∧ 0 ≤ x.address ∧ ∃ i, position? room (Bits.down x.address 2) = some i

instance (room : Nat) (x : InputWord) : Decidable (Fits room x) :=
  decidable_of_iff ((x.value.any fun v => 0 ≤ v) = true ∧ 0 ≤ x.address ∧
    (position? room (Bits.down x.address 2)).isSome = true) (by simp [Fits, Option.any_eq_true, Option.isSome_iff_exists])

def recordOf (room : Nat) (channel : Int) (x : InputWord) : Nat × Mark :=
  ((position? room (Bits.down x.address 2)).getD 0, .output (-1) channel x.row x.column (x.value.getD 0))

section Words

variable {s after : Session} {u : Unit} {offset : Int} {i : Nat}

section

variable (writing : Writing w s) (found : position? w.room (Bits.down offset 2) = some i)
include writing found

theorem checkOverwrite_run :
    (checkOverwrite offset).run s = (if s.bus.image.words[i]?.isSome then
      stopIf (!w.options.noErrorStop) s!"Overwriting location {Text.hex 8 offset}" else pure ()).run s := by
  simp only [checkOverwrite, EStateM.run_bind, EStateM.run_get, MemoryImage.get, writing.room, found, lift,
    EStateM.run_pure]
  split
  · rw [options_bind, writing.options]
  · rfl

theorem markWord_run (mark : Mark) :
    ∃ after, (markWord offset mark).run s = .ok () after ∧ Writing w after ∧ after.text w.sink = s.text w.sink ∧
      after.bus.image.words = s.bus.image.words.insert i mark := by
  simp only [markWord, bind_ok, get_ok, orFail_ok, modifyBus, modify_ok]
  refine ⟨_, ⟨s, s, ⟨rfl, rfl⟩, i, s, ⟨by rw [writing.room, found], rfl⟩, rfl⟩, ?_, by simp, rfl⟩
  exact ⟨writing.device, writing.options, writing.kind, writing.settings, writing.room, writing.stored, writing.idle,
    takesText_bus writing.takes _, writing.log⟩

end

theorem Loads.takeWord (found : position? w.room (Bits.down offset 2) = some i) (mark : Mark) :
    Loads E w "" [(i, mark)] (fun _ => True) (checkOverwrite offset >>= fun _ => markWord offset mark) := by
  intro before writing
  have free : Free [(i, mark)] before.bus.image.words ↔ before.bus.image.words[i]? = none := by simp [Free]
  rw [EStateM.run_bind, checkOverwrite_run writing found]
  cases used : before.bus.image.words[i]? with
  | none =>
    obtain ⟨after, ran, kept, text, words⟩ := markWord_run writing found mark
    rw [Option.isSome_none, if_neg Bool.false_ne_true, EStateM.run_pure]
    dsimp only
    rw [ran]
    refine ⟨fun _ _ failed => (by cases failed), fun _ last same => ?_⟩
    cases same
    exact ⟨kept, by rw [text, String.append_empty], ⟨words, fun _ => free.mpr used⟩, trivial⟩
  | some old =>
    rw [Option.isSome_some, if_pos rfl, stopIf]
    cases stops : w.options.noErrorStop with
    | false =>
      obtain ⟨after, stopped⟩ := stop_run s!"Overwriting location {Text.hex 8 offset}" before
      rw [if_pos (by decide), stopped]
      refine ⟨fun _ _ _ => .inr ⟨rfl, fun fresh => ?_⟩, fun _ _ ran => (by cases ran)⟩
      cases used.symm.trans (free.mp fresh)
    | true =>
      rw [if_neg (by decide)]
      obtain ⟨error, result⟩ := warn (E := False) s!"Overwriting location {Text.hex 8 offset}" before writing
      cases warned : (Run.warn s!"Overwriting location {Text.hex 8 offset}").run before with
      | error e after =>
        rcases error e after warned with never | ⟨never, _⟩
        · exact never.elim
        · cases stops.symm.trans never
      | ok u middle =>
        obtain ⟨kept, text, taken, _⟩ := result u middle warned
        obtain ⟨after, ran, kept, text', words⟩ := markWord_run kept found mark
        dsimp only
        rw [ran]
        refine ⟨fun _ _ failed => (by cases failed), fun _ last same => ?_⟩
        cases same
        exact ⟨kept, by rw [text', text], ⟨by rw [words, taken.words]; rfl, fun never => (by cases never)⟩, trivial⟩

theorem Loads.claimWord (channel : Int) (fails : ¬Fits w.room x → E) :
    Loads E w "" [recordOf w.room channel x] (· = x.value.getD 0) (claimWord channel x) := by
  unfold DataMemory.claimWord
  cases value : x.value with
  | none =>
    refine silent (P := fun _ => False) (throw (fails ?_)) fun _ never => never.elim
    rintro ⟨⟨v, known, _⟩, _⟩
    cases value.symm.trans known
  | some v =>
    refine reads (a := v) (fun _ _ => rfl) ?_
    cases found : position? w.room (Bits.down x.address 2) with
    | none =>
      refine silent (P := fun _ => False) ?_ fun _ never => never.elim
      unfold checkOverwrite
      refine get fun s writing => ?_
      rw [MemoryImage.get, writing.room, found]
      refine silent (P := fun _ => False) (throw (fails ?_)) fun _ never => never.elim
      rintro ⟨_, _, i, here⟩
      cases found.symm.trans here
    | some i =>
      rw [recordOf, found, value]
      have taken := takeWord (E := E) found (.output (-1) channel x.row x.column v)
      have whole := taken.ending (R := (· = v)) fun _ _ => pure rfl
      rw [bind_assoc] at whole
      exact whole

end Words

namespace Loads

variable {α β : Type} {t : String} {records : List (Nat × Mark)} {Q : α → Prop}

theorem ite {c : Prop} [Decidable c] {x y : Run α} (left : c → Loads E w t records Q x)
    (right : ¬c → Loads E w t records Q y) : Loads E w t records Q (if c then x else y) := by
  split
  · exact left ‹c›
  · exact right ‹¬c›

theorem foldlM {f : β → α → Run β} {t : α → String} {records : α → List (Nat × Mark)} {state : List α → β} (items : List α)
    (step : ∀ seen a rest, items = seen ++ a :: rest →
      Loads E w (t a) (records a) (· = state (seen ++ [a])) (f (state seen) a)) :
    Loads E w (String.join (items.map t)) (items.flatMap records) (· = state items) (items.foldlM f (state [])) := by
  have all : ∀ rest seen, items = seen ++ rest →
      Loads E w (String.join (rest.map t)) (rest.flatMap records) (· = state items) (rest.foldlM f (state seen)) := by
    intro rest
    induction rest with
    | nil =>
      intro seen whole
      rw [whole, append_nil]
      exact pure rfl
    | cons a rest ih =>
      intro seen whole
      rw [foldlM_cons, map_cons, String.join_cons, flatMap_cons]
      refine bind (step seen a rest whole) fun c here => ?_
      rw [here]
      exact ih (seen ++ [a]) (by rw [whole, append_assoc, singleton_append])
  exact all items [] rfl

theorem loadWord (channel : Int) (library : embedded = false → librarySink w.settings = some main)
    (apart : Separable w.sink main) (fails : ¬Fits w.room x → E) : Loads E w (if embedded then "" else share w.sink main
        (Store.statement w.settings.verifyWrites ⟨x.address + w.options.apbBase, x.value.getD 0, ""⟩))
      [recordOf w.room channel x] (· = x.value.getD 0) (do
        let v ← DataMemory.claimWord channel x
        if !embedded then Bus.writeData x.address v
        continueAt x.address
        return v) := by
  have continued : Loads E w "" [] (· = x.value.getD 0) (do
      continueAt x.address
      return x.value.getD 0) := silent (modifyBus fun _ => ⟨rfl, rfl, rfl, rfl, id⟩) fun _ _ => pure rfl
  cases embedded with
  | true =>
    refine ending (claimWord channel fails) fun v same => ?_
    rw [same]
    exact continued
  | false =>
    refine claims (claimWord channel fails) fun v same => ?_
    rw [same]
    refine ending (writeData (library rfl) apart fun wrong => fails ?_) fun _ _ => continued
    rintro ⟨⟨v, value, low⟩, place, _⟩
    rw [value, Option.getD_some] at wrong
    exact wrong ⟨low, place⟩

theorem flushBytes (offset : Int) : Loads E w "" [] (fun _ => True) (flushBytes offset) := by
  unfold Bus.flushBytes
  refine get fun s writing => ?_
  have none : s.bus.buffer.pending? = none := by rw [ByteBuffer.pending?, if_pos writing.idle]
  rw [none]
  exact modifyBus fun _ => ⟨rfl, rfl, rfl, rfl, fun _ => rfl⟩

variable {l : InputLayout} {data : Tensor} {b : InputBlock}

theorem loadBlock {s : Loading} {R : Loading → Prop} (packed : l.planar = false) (threshold : l.inExpandThresh = 0 → E)
    (follows : s.last = some (l.start w.device b) → E) (loads : Loads E w t records R (loadPacked embedded l data b s)) :
    Loads E w t records R (loadBlock embedded l data s b) := by
  unfold DataMemory.loadBlock
  refine device ?_
  refine ite (fun zero => silent (P := fun _ => False) (throw (threshold zero)) fun _ never => never.elim) fun _ => ?_
  refine ite (fun same => silent (P := fun _ => False) (stop (follows same) _) fun _ never => never.elim) fun _ => ?_
  refine options ?_
  have rest : Loads E w t records R (do
      let s ← loadPacked embedded l data b s
      Bus.flushBytes 0
      return s) := by
    refine ending loads fun s holds => ?_
    exact silent (flushBytes 0) fun _ _ => pure holds
  rw [packed]
  exact ite (fun _ => silent (put _) fun _ _ => rest) fun _ => rest

end Loads

section Memory

variable {l : InputLayout} {data : Tensor} {b : InputBlock} {t : String} {records : List (Nat × Mark)}

def channelRange (s : DataShape) (first last : Nat) : String :=
  let size := s!"{s.height}x{s.width}"
  s!"// HWC {size}, channels {first} to {last}\n"

def describe (s : DataShape) (b : InputBlock) : String := channelRange s b.first (b.first + b.count - 1)

def blockStores (l : InputLayout) (d : Device) (base : Int) (data : Tensor) (b : InputBlock) : List Store :=
  (l.packedWords d data b).map fun x => ⟨x.address + base, x.value.getD 0, ""⟩

def blockRecords (l : InputLayout) (d : Device) (room : Nat) (data : Tensor) (b : InputBlock) : List (Nat × Mark) :=
  (l.packedWords d data b).map (recordOf room (b.first + b.count))

def title (n : DataShape) : String :=
  s!"// {n.channels}-channel {n.height}x{n.width} data input ({n.bytes} bytes" ++
    (if n.channels > 1 then s!" total / {n.pixels} bytes per channel):\n" else s!" / {(n.bytes + 3) / 4} 32-bit words):\n")

/-- The text of single stores, the blocks each below its comment. -/
def singleText (l : InputLayout) (d : Device) (base : Int) (compare : Bool) (data : Tensor) : String :=
  "\n\n  " ++ title l.shape ++ (String.join ((l.blocks d).map fun b =>
    "  " ++ describe l.shape b ++ String.join ((blockStores l d base data b).map (Store.statement compare))) ++
      "  // End of data input\n\n")

/-- What must hold for all words to be loaded. -/
structure Accepts (w : Setup) (l : InputLayout) (data : Tensor) : Prop where
  given : w.options.fixedInput = false
  threshold : l.inExpandThresh ≠ 0
  channels : l.shape.channels ≠ 0
  operands : l.operands = data.dim 0 / l.shape.channels
  words : ∀ b ∈ l.blocks w.device, ∀ x ∈ l.packedWords w.device data b, Fits w.room x
  apart : ∀ b ∈ l.blocks w.device, ∀ b' ∈ l.blocks w.device, l.packedEnd w.device b ≠ l.start w.device b'

theorem join_share (k target : Sink) (xs : List α) (f : α → String) :
    String.join (xs.map fun x => share k target (f x)) = share k target (String.join (xs.map f)) := by
  induction xs with
  | nil => exact (share_empty k target).symm
  | cons x xs ih => rw [map_cons, String.join_cons, ih, share_append, map_cons, String.join_cons]

theorem join_filter (xs : List α) (c : α → Bool) (f : α → String) :
    String.join (xs.map fun x => if c x then f x else "") = String.join ((xs.filter c).map f) := by
  induction xs with
  | nil => rfl
  | cons x xs ih =>
    rw [map_cons, String.join_cons, ih, filter_cons]
    cases c x with
    | true => rw [if_pos rfl, if_pos rfl, map_cons, String.join_cons]
    | false => rw [if_neg Bool.false_ne_true, if_neg Bool.false_ne_true, String.empty_append]

namespace Loads

theorem loadWords (embedded : Bool) (library : embedded = false → librarySink w.settings = some main)
    (apart : Separable w.sink main) (fails : ∀ x ∈ l.packedWords w.device data b, ¬Fits w.room x → E) :
    Loads E w (if embedded then "" else share w.sink main (String.join
        ((blockStores l w.device w.options.apbBase data b).map (Store.statement w.settings.verifyWrites))))
      (blockRecords l w.device w.room data b) (· = (l.packedWords w.device data b).map fun x => x.value.getD 0)
      ((l.packedWords w.device data b).mapM fun x => do
        let v ← DataMemory.claimWord (b.first + b.count) x
        if !embedded then Bus.writeData x.address v
        continueAt x.address
        return v) := by
  have each := mapM (l.packedWords w.device data b) fun x member =>
    loadWord (b.first + b.count) library apart (fails x member)
  cases embedded with
  | true =>
    have nothing := join_filter (l.packedWords w.device data b) (fun _ => false) fun _ => ""
    rw [filter_false] at nothing
    simp only [if_true] at each ⊢
    rwa [show String.join (map (fun _ => "") (l.packedWords w.device data b)) = "" from nothing] at each
  | false =>
    simp only [Bool.false_eq_true, if_false, join_share] at each ⊢
    rw [blockStores, map_map]
    exact each

theorem loadPacked_single (file : w.settings.mainFile = some main) (library : librarySink w.settings = some main)
    (apart : Separable w.sink main) (fails : ∀ x ∈ l.packedWords w.device data b, ¬Fits w.room x → E) (s : Loading) :
    Loads E w (share w.sink main ("  " ++ describe l.shape b ++ String.join
        ((blockStores l w.device w.options.apbBase data b).map (Store.statement w.settings.verifyWrites))))
      (blockRecords l w.device w.room data b) (· = { s with last := l.packedEnd w.device b })
      (loadPacked false l data b s) := by
  have first : Loads E w (share w.sink main ("  " ++ describe l.shape b)) [] (fun _ => True)
      (Bus.output ("  " ++ describe l.shape b)) := output file apart _
  have words := loadWords false (fun _ => library) apart fails
  unfold loadPacked
  refine options (device ?_)
  rw [← share_append]
  refine bind (P := fun _ => True) (R := (· = { s with last := l.packedEnd w.device b })) first fun _ _ => ?_
  refine ending words fun _ _ => pure rfl

theorem announce (file : w.settings.mainFile = some main) (apart : Separable w.sink main) (n : DataShape) :
    Loads E w (share w.sink main (title n)) [] (fun _ => True) (announce n) := by
  rw [title, ← share_append]
  refine adds (output file apart _) fun _ _ => ite (fun many => ?_) fun few => ?_
  · rw [if_pos many]
    exact output file apart _
  · rw [if_neg few]
    exact output file apart _

theorem loadMemory {text : InputBlock → String} {closing : String} (state : List InputBlock → Loading)
    (file : w.settings.mainFile = some main) (apart : Separable w.sink main) (packed : l.planar = false)
    (fails : ¬Accepts w l data → E) (start : state [] = {})
    (ends : ∀ seen, (state seen).last = seen.getLast?.map (l.packedEnd w.device))
    (step : l.shape.channels ≠ 0 → ∀ seen b rest, l.blocks w.device = seen ++ b :: rest →
      Loads E w (text b) (blockRecords l w.device w.room data b) (· = state (seen ++ [b]))
        (loadPacked embedded l data b (state seen)))
    (closes : Loads E w closing [] (fun _ => True)
      (if embedded then copyInputs w.options (state (l.blocks w.device)).copies else Bus.output "  // End of data input\n\n")) :
    Loads E w (share w.sink main ((if embedded then "" else "\n\n  ") ++ title l.shape) ++
        (String.join ((l.blocks w.device).map text) ++ closing))
      ((l.blocks w.device).flatMap (blockRecords l w.device w.room data)) (fun _ => l.shape.channels ≠ 0)
      (loadMemory embedded l data) := by
  have blocks : Loads E w (String.join ((l.blocks w.device).map text) ++ closing)
      ((l.blocks w.device).flatMap (blockRecords l w.device w.room data)) (fun _ => l.shape.channels ≠ 0)
      (loadBlocks embedded w.device w.options l data) := by
    refine ite (fun none => ?_) fun many => check (fun wrong => ?_) fun _ => ?_
    · refine silent (P := fun _ => False) (throw ?_) fun _ never => never.elim
      exact fails fun accepts => accepts.channels none
    · exact fails fun accepts => of_decide_eq_false wrong accepts.operands
    · rw [← start]
      refine adds (foldlM (l.blocks w.device) fun seen b rest whole => ?_) fun s same => ?_
      · refine loadBlock packed (fun zero => fails fun accepts => accepts.threshold zero) (fun follows => ?_)
          (step many seen b rest whole)
        rw [ends] at follows
        obtain ⟨b', last, same⟩ := Option.map_eq_some_iff.mp follows
        have before := mem_of_getLast? last
        exact fails fun accepts => accepts.apart b' (by simp [whole, before]) b (by simp [whole]) same
      · rw [same]
        exact closes.imp fun _ _ => many
  unfold DataMemory.loadMemory
  refine device (options ?_)
  cases embedded with
  | true =>
    rw [if_pos rfl, String.empty_append]
    exact bind (announce file apart _) fun _ _ => blocks
  | false =>
    rw [if_neg Bool.false_ne_true, ← share_append, String.append_assoc]
    exact bind (output file apart _) fun _ _ => bind (announce file apart _) fun _ _ => blocks

theorem returns {Q : α → Prop} {x : Run α} (loads : Loads False w t records Q x) (writing : Writing w s)
    (free : w.options.noErrorStop = false → Free records s.bus.image.words) : ∃ a after, x.run s = .ok a after := by
  cases run : x.run s with
  | ok a after => exact ⟨a, after, rfl⟩
  | error e after =>
    rcases (loads s writing).1 e after run with never | ⟨stops, used⟩
    · exact never.elim
    · exact absurd (free stops) used

theorem load (embedded : Bool) (memory : w.options.fifo = false) (fixed : w.options.fixedInput = true → E)
    {Q : Unit → Prop} (loads : Loads E w t records Q (DataMemory.loadMemory embedded l data)) :
    Loads E w t records Q (load embedded l data) := by
  unfold DataMemory.load
  refine options (ite (fun refused => ?_) fun _ => ?_)
  · rw [Bool.and_eq_true] at refused
    exact silent (P := fun _ => False) (stop (fixed refused.1) _) fun _ never => never.elim
  · rw [memory]
    exact loads

theorem load_single (file : w.settings.mainFile = some main) (library : librarySink w.settings = some main)
    (apart : Separable w.sink main) (packed : l.planar = false) (memory : w.options.fifo = false)
    (fails : ¬Accepts w l data → E) :
    Loads E w (share w.sink main (singleText l w.device w.options.apbBase w.settings.verifyWrites data))
      ((l.blocks w.device).flatMap (blockRecords l w.device w.room data)) (fun _ => l.shape.channels ≠ 0)
      (DataMemory.load false l data) := by
  refine load false memory (fun fixed => fails fun accepts => ?_) ?_
  · rw [accepts.given] at fixed
    cases fixed
  rw [singleText, ← share_append _ _ (_ ++ title l.shape), ← share_append _ _ (String.join _), ← join_share]
  refine loadMemory (fun seen => { last := seen.getLast?.map (l.packedEnd w.device) }) file apart packed fails rfl
    (fun _ => rfl) (fun _ seen b rest whole => ?_) (output file apart _)
  rw [getLast?_append]
  exact loadPacked_single file library apart (fun x member wrong => fails fun accepts =>
    wrong (accepts.words b (by simp [whole]) x member)) _

end Loads

theorem share_self (k : Sink) (t : String) : share k k t = t := if_pos rfl

theorem single_run {before after : Session} (writing : Writing w before) (file : w.settings.mainFile = some w.sink)
    (library : w.settings.apiFile = none) (packed : l.planar = false) (memory : w.options.fifo = false)
    (run : (load false l data).run before = .ok () after) :
    after.text w.sink = before.text w.sink ++ singleText l w.device w.options.apbBase w.settings.verifyWrites data ∧
    Taken (w.options.noErrorStop = false) ((l.blocks w.device).flatMap (blockRecords l w.device w.room data))
      before.bus.image.words after.bus.image.words ∧ l.shape.channels ≠ 0 := by
  have single : librarySink w.settings = some w.sink := by rw [librarySink, library, file]; rfl
  have loads : Loads True w _ _ _ (load false l data) :=
    Loads.load_single file single (.inl rfl) packed memory fun _ => trivial
  obtain ⟨_, text, taken, some_channels⟩ := (loads before writing).2 _ _ run
  rw [share_self] at text
  exact ⟨text, taken, some_channels⟩

end Memory

end CnnForge.DataMemory
