import CnnForge.Proofs.Outcome
import CnnForge.Session

namespace CnnForge

open Outcome Run

variable {k other : Sink} {α : Type} {s : Session} {u : Unit} {d : Device}

def Sink.place : Sink → Sink
  | .file path => .file (normalPath path)
  | .stream name => .stream name

namespace Session

def text (s : Session) : Sink → String
  | .file path =>
    match s.files.files[normalPath path]? with
    | some (.text t) => t
    | _ => ""
  | .stream name => s.streams.getD name ""

def TakesText (s : Session) : Sink → Prop
  | .file path => ∀ ts, s.files.files[normalPath path]? ≠ some (.tensors ts)
  | .stream _ => True

section

variable (s : Session) (k : Sink) (t : String)

@[simp] theorem append_options : (s.append k t).options = s.options := by
  cases k <;> rfl

@[simp] theorem append_device : (s.append k t).device = s.device := by
  cases k <;> rfl

@[simp] theorem append_logPath : (s.append k t).logPath = s.logPath := by
  cases k <;> rfl

@[simp] theorem append_bus : (s.append k t).bus = s.bus := by
  cases k <;> rfl

end

@[simp] theorem text_bus (s : Session) (b : Bus) (k : Sink) : ({ s with bus := b } : Session).text k = s.text k := by
  cases k <;> rfl

theorem takesText_bus (takes : s.TakesText k) (b : Bus) : ({ s with bus := b } : Session).TakesText k := by
  cases k <;> exact takes

theorem text_append (takes : s.TakesText k) (t : String) : (s.append k t).text k = s.text k ++ t := by
  cases k with
  | file path =>
    simp only [append, text, FileTree.append, Std.HashMap.getElem?_alter_self]
    cases found : s.files.files[normalPath path]? with
    | none => simp
    | some content =>
      cases content with
      | text old => rfl
      | tensors ts => exact absurd found (takes ts)
  | stream name => simp [append, text, Std.HashMap.getD_eq_getD_getElem?]

theorem text_append_other (s : Session) (apart : other.place ≠ k.place) (t : String) :
    (s.append k t).text other = s.text other := by
  cases k with
  | file path =>
    cases other with
    | stream name => rfl
    | file path' =>
      have different : normalPath path ≠ normalPath path' := by
        rintro same
        simp [Sink.place, same] at apart
      simp only [append, text, FileTree.append, Std.HashMap.getElem?_alter, beq_iff_eq, different, if_false]
  | stream name =>
    cases other with
    | file path' => rfl
    | stream name' =>
      have different : name ≠ name' := by
        rintro rfl
        exact apart rfl
      simp only [append, text, Std.HashMap.getD_eq_getD_getElem?, Std.HashMap.getElem?_alter, beq_iff_eq,
        different, if_false]

theorem takesText_append (takes : s.TakesText other) (k : Sink) (t : String) : (s.append k t).TakesText other := by
  cases k with
  | stream name => cases other <;> exact takes
  | file path =>
    cases other with
    | stream name => trivial
    | file path' =>
      intro ts
      have before := takes ts
      simp only [append, FileTree.append, Std.HashMap.getElem?_alter, beq_iff_eq]
      split
      · rename_i same
        rw [same]
        cases found : s.files.files[normalPath path']? with
        | none => simp
        | some content =>
          cases content with
          | text old => simp
          | tensors ts' => exact absurd found (takes ts')
      · exact before

end Session

structure Emits (k : Sink) (t : String) (before after : Session) : Prop where
  options : after.options = before.options
  device : after.device = before.device
  logPath : after.logPath = before.logPath
  bus : after.bus = before.bus
  text : before.TakesText k → after.text k = before.text k ++ t
  others : ∀ other, other.place ≠ k.place → after.text other = before.text other
  takes : ∀ other, before.TakesText other → after.TakesText other

namespace Emits

variable {k : Sink} {t t' : String} {before middle after : Session}

theorem append (s : Session) (k : Sink) (t : String) : Emits k t s (s.append k t) :=
  ⟨by simp, by simp, by simp, by simp, fun takes => Session.text_append takes t,
    fun _ apart => s.text_append_other apart t, fun _ takes => Session.takesText_append takes k t⟩

theorem nothing (k : Sink) (s : Session) : Emits k "" s s :=
  ⟨rfl, rfl, rfl, rfl, fun _ => String.append_empty.symm, fun _ _ => rfl, fun _ takes => takes⟩

theorem trans (first : Emits k t before middle) (second : Emits k t' middle after) :
    Emits k (t ++ t') before after := by
  refine ⟨second.options.trans first.options, second.device.trans first.device, second.logPath.trans first.logPath,
    second.bus.trans first.bus, ?_, ?_, ?_⟩
  · intro takes
    rw [second.text (first.takes k takes), first.text takes, String.append_assoc]
  · intro other apart
    rw [second.others other apart, first.others other apart]
  · intro other takes
    exact second.takes other (first.takes other takes)

end Emits

namespace Run

variable {before after : Session}

@[simp] theorem lift_ok {x : Except Failure α} {a : α} :
    (lift x).run before = .ok a after ↔ x = .ok a ∧ before = after := by
  cases x <;> simp [lift]

@[simp] theorem orFail_ok {e : Failure} {o : Option α} {a : α} :
    (orFail e o).run before = .ok a after ↔ o = some a ∧ before = after := by
  cases o <;> simp [orFail]

@[simp] theorem check_ok {b : Bool} {message : String} :
    (check b message).run before = .ok u after ↔ b = true ∧ before = after := by
  cases b <;> simp [check]

@[simp] theorem options_ok {o : Options} :
    options.run before = .ok o after ↔ before.options = o ∧ before = after := by
  simp only [options, bind_ok, get_ok, pure_ok]
  constructor
  · rintro ⟨_, _, ⟨rfl, rfl⟩, rfl, rfl⟩
    exact ⟨rfl, rfl⟩
  · rintro ⟨rfl, rfl⟩
    exact ⟨_, _, ⟨rfl, rfl⟩, rfl, rfl⟩

@[simp] theorem device_ok : device.run before = .ok d after ↔ before.device = some d ∧ before = after := by
  simp only [device, bind_ok, get_ok]
  constructor
  · rintro ⟨s, _, ⟨rfl, rfl⟩, selected⟩
    cases known : before.device with
    | none => simp [known] at selected
    | some x => simpa [known] using selected
  · rintro ⟨known, rfl⟩
    exact ⟨before, before, ⟨rfl, rfl⟩, by simp [known]⟩

theorem device_bind (selected : before.device = some d) (f : Device → Run α) :
    (device >>= f).run before = (f d).run before := by
  rw [EStateM.run_bind, device_ok.mpr ⟨selected, rfl⟩]

theorem options_bind (s : Session) (f : Options → Run α) : (options >>= f).run s = (f s.options).run s := by
  rw [EStateM.run_bind, options_ok.mpr ⟨rfl, rfl⟩]

end Run

theorem Run.emit_ok {t : String} {before after : Session} :
    (emit k t).run before = .ok u after ↔ before.append k t = after := by
  rw [emit, modify_ok]

end CnnForge
