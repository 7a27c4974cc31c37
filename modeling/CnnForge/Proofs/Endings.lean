import CnnForge.Proofs.SessionText

namespace CnnForge

variable {c : Prop}

namespace Outcome

variable {ε σ α β : Type} {I : σ → Prop} {E : ε → Prop} {P : β → Prop} {Q R : α → Prop}

/-- Where `I` holds, `x` gives a result with `Q` and keeps `I`, or fails with a failure of `E`. -/
def Ends (I : σ → Prop) (E : ε → Prop) (Q : α → Prop) (x : EStateM ε σ α) : Prop :=
  ∀ before, I before →
    match x.run before with
    | .ok a after => Q a ∧ I after
    | .error e _ => E e

namespace Ends

theorem pure {a : α} (holds : Q a) : Ends I E Q (pure a : EStateM ε σ α) := fun _ inv => ⟨holds, inv⟩

theorem throw {e : ε} (allowed : E e) : Ends I E Q (throw e : EStateM ε σ α) := fun _ _ => allowed

theorem get : Ends I E I (get : EStateM ε σ σ) := fun _ inv => ⟨inv, inv⟩

theorem modify {f : σ → σ} (kept : ∀ s, I s → I (f s)) :
    Ends I E (fun _ => True) (modify f : EStateM ε σ PUnit) := fun s inv => ⟨trivial, kept s inv⟩

theorem bind {x : EStateM ε σ α} {f : α → EStateM ε σ β} (first : Ends I E Q x)
    (rest : ∀ a, Q a → Ends I E P (f a)) : Ends I E P (x >>= f) := by
  intro before inv
  have ran := first before inv
  simp only [EStateM.run_bind]
  cases result : x.run before with
  | ok a middle =>
    rw [result] at ran
    exact rest a ran.1 middle ran.2
  | error e middle =>
    rw [result] at ran
    exact ran

theorem mono {x : EStateM ε σ α} (ends : Ends I E Q x) (weaker : ∀ a, Q a → R a) : Ends I E R x := by
  intro before inv
  have ran := ends before inv
  cases result : x.run before with
  | ok a after =>
    rw [result] at ran
    exact ⟨weaker a ran.1, ran.2⟩
  | error e after =>
    rw [result] at ran
    exact ran

theorem map {x : EStateM ε σ α} {f : α → β} (ends : Ends I E Q x) (each : ∀ a, Q a → P (f a)) :
    Ends I E P (f <$> x) := by
  exact bind ends fun a holds => pure (each a holds)

theorem ite [Decidable c] {x y : EStateM ε σ α} (left : c → Ends I E Q x) (right : ¬c → Ends I E Q y) :
    Ends I E Q (if c then x else y) := by
  split
  · exact left ‹c›
  · exact right ‹¬c›

theorem optional [Decidable c] {x : EStateM ε σ PUnit} {f : PUnit → EStateM ε σ α}
    (step : c → Ends I E (fun _ => True) x) (rest : ∀ u, Ends I E Q (f u)) : Ends I E Q (if c then x >>= f else f ⟨⟩) :=
  ite (fun holds => bind (step holds) fun u _ => rest u) fun _ => rest ⟨⟩

theorem optional_two [Decidable c] {x y : EStateM ε σ PUnit} {f : PUnit → EStateM ε σ α}
    (first : c → Ends I E (fun _ => True) x) (second : c → Ends I E (fun _ => True) y) (rest : ∀ u, Ends I E Q (f u)) :
    Ends I E Q (if c then x >>= fun _ => y >>= f else f ⟨⟩) :=
  ite (fun holds => bind (first holds) fun _ _ => bind (second holds) fun u _ => rest u) fun _ => rest ⟨⟩

theorem guard [Decidable c] {x : EStateM ε σ PUnit} {f : PUnit → EStateM ε σ α}
    (refused : c → Ends I E (fun _ => False) x) (rest : ¬c → ∀ u, Ends I E Q (f u)) :
    Ends I E Q (if c then x >>= f else f ⟨⟩) :=
  ite (fun holds => bind (refused holds) fun _ never => never.elim) fun fails => rest fails ⟨⟩

theorem mapM {f : β → EStateM ε σ α} (items : List β) (step : ∀ b ∈ items, Ends I E Q (f b)) :
    Ends I E (fun results => results.length = items.length ∧ ∀ a ∈ results, Q a) (items.mapM f) := by
  induction items with
  | nil => exact pure ⟨rfl, by simp⟩
  | cons item items ih =>
    rw [List.mapM_cons]
    refine bind (step item (by simp)) fun a first => ?_
    refine bind (ih fun b member => step b (by simp [member])) fun results rest => ?_
    refine pure ⟨by simp [rest.1], fun b member => ?_⟩
    rcases List.mem_cons.mp member with rfl | member
    · exact first
    · exact rest.2 b member

theorem foldlM {f : α → β → EStateM ε σ α} (items : List β) (step : ∀ b ∈ items, ∀ a, Q a → Ends I E Q (f a b))
    {a : α} (start : Q a) : Ends I E Q (items.foldlM f a) := by
  induction items generalizing a with
  | nil => exact pure start
  | cons item items ih =>
    exact bind (step item (by simp) a start) fun a' next => ih (fun b member => step b (by simp [member])) next

theorem forM {f : β → EStateM ε σ PUnit} (items : List β) (step : ∀ b ∈ items, Ends I E (fun _ => True) (f b)) :
    Ends I E (fun _ => True) (items.forM f) := by
  induction items with
  | nil => exact pure trivial
  | cons item items ih =>
    exact bind (step item (by simp)) fun _ _ => ih fun b member => step b (by simp [member])

theorem foldlM_eq {f : α → β → EStateM ε σ α} {g : α → β → α} (items : List β)
    (step : ∀ b ∈ items, ∀ a, Ends I E (· = g a b) (f a b)) (a : α) :
    Ends I E (· = items.foldl g a) (items.foldlM f a) := by
  induction items generalizing a with
  | nil => exact pure rfl
  | cons b items ih =>
    refine bind (step b (by simp) a) ?_
    rintro _ rfl
    exact ih (fun b member => step b (by simp [member])) _

theorem mapM_eq {f : β → EStateM ε σ α} {g : β → α} (items : List β) (step : ∀ b ∈ items, Ends I E (· = g b) (f b)) :
    Ends I E (· = items.map g) (items.mapM f) := by
  induction items with
  | nil => exact pure rfl
  | cons b items ih =>
    rw [List.mapM_cons]
    refine bind (step b (by simp)) ?_
    rintro _ rfl
    refine bind (ih fun b member => step b (by simp [member])) ?_
    rintro _ rfl
    exact pure rfl

section

variable {x : EStateM ε σ α} (ends : Ends I E Q x)
include ends

theorem error {before after : σ} {e : ε} (inv : I before)
    (run : x.run before = .error e after) : E e := by
  have ran := ends before inv
  rw [run] at ran
  exact ran

theorem result {before after : σ} {a : α} (inv : I before)
    (run : x.run before = .ok a after) : Q a ∧ I after := by
  have ran := ends before inv
  rw [run] at ran
  exact ran

end

theorem returns {x : EStateM ε σ α} (ends : Ends I (fun _ => False) Q x) {before : σ} (inv : I before) :
    ∃ a after, x.run before = .ok a after ∧ Q a ∧ I after := by
  have ran := ends before inv
  cases result : x.run before with
  | ok a after =>
    rw [result] at ran
    exact ⟨a, after, rfl, ran⟩
  | error e after =>
    rw [result] at ran
    exact ran.elim

end Ends

abbrev Gives (Q : α → Prop) (x : EStateM ε σ α) : Prop := Ends (fun _ => True) (fun _ => True) Q x

theorem Gives.any (x : EStateM ε σ α) : Gives (fun _ => True) x := by
  intro before _
  split
  · exact ⟨trivial, trivial⟩
  · trivial

theorem Gives.rest {x : EStateM ε σ α} {f : α → EStateM ε σ β} (gives : ∀ a, Gives P (f a)) : Gives P (x >>= f) :=
  .bind (any x) fun a _ => gives a

section

variable {f : PUnit → EStateM ε σ α} (gives : ∀ u, Gives Q (f u))
include gives

theorem Gives.optional [Decidable c] {x : EStateM ε σ PUnit} :
    Gives Q (if c then x >>= f else f ⟨⟩) := Ends.optional (fun _ => any x) gives

theorem Gives.optional_two [Decidable c] {x y : EStateM ε σ PUnit} : Gives Q (if c then x >>= fun _ => y >>= f else f ⟨⟩) :=
  Ends.optional_two (fun _ => any x) (fun _ => any y) gives

end

theorem Gives.guard [Decidable c] {e : ε} {f : PUnit → EStateM ε σ α} (gives : ¬c → Gives Q (f ⟨⟩)) :
    Gives Q (if c then throw e >>= f else f ⟨⟩) := Ends.guard (fun _ => .throw trivial) fun passed _ => gives passed

theorem Gives.of_ok {x : EStateM ε σ α} (each : ∀ before a after, x.run before = .ok a after → Q a) :
    Gives Q x := by
  intro before _
  cases result : x.run before with
  | ok a after => exact ⟨each before a after result, trivial⟩
  | error e after => trivial

theorem Gives.never {x : EStateM ε σ α} (gives : Gives (fun _ => False) x) : Ends I (fun _ => True) Q x := by
  intro before _
  have ran := gives before trivial
  cases result : x.run before with
  | ok a after =>
    rw [result] at ran
    exact ran.1.elim
  | error e after => trivial

section

variable {x : Except ε α}

def Yields (E : ε → Prop) (Q : α → Prop) : Except ε α → Prop
  | .ok a => Q a
  | .error e => E e

namespace Yields

theorem pure {a : α} (holds : Q a) : Yields E Q (pure a : Except ε α) := holds

theorem throw {e : ε} (allowed : E e) : Yields E Q (throw e : Except ε α) := allowed

theorem of_eq {a : α} (result : x = .ok a) : Yields E (· = a) x := by
  rw [result]
  exact rfl

theorem cases (yields : Yields E Q x) : (∃ a, x = .ok a ∧ Q a) ∨ ∃ e, x = .error e ∧ E e := by
  cases x with
  | ok a => exact .inl ⟨a, rfl, yields⟩
  | error e => exact .inr ⟨e, rfl, yields⟩

theorem exists_ok (yields : Yields (fun _ : ε => False) Q x) : ∃ a, x = .ok a ∧ Q a := by
  cases x with
  | ok a => exact ⟨a, rfl, yields⟩
  | error e => exact yields.elim

theorem mono {F : ε → Prop} (yields : Yields E Q x) (allowed : ∀ e, E e → F e) (weaker : ∀ a, Q a → R a) :
    Yields F R x := by
  cases x with
  | ok a => exact weaker a yields
  | error e => exact allowed e yields

theorem bind {f : α → Except ε β} (first : Yields E Q x) (rest : ∀ a, Q a → Yields E P (f a)) :
    Yields E P (x >>= f) := by
  cases x with
  | ok a => exact rest a first
  | error e => exact first

theorem bind_eq {a : α} {f : α → Except ε β} (result : x = .ok a) (rest : Yields E P (f a)) :
    Yields E P (x >>= f) := by
  rw [result]
  exact rest

section

variable [Decidable c] {y : Except ε α} (left : c → Yields E Q x) (right : ¬c → Yields E Q y)
include left right

theorem ite : Yields E Q (if c then x else y) := by
  split
  · exact left ‹c›
  · exact right ‹¬c›

theorem choose {f : α → Except ε β} (rest : ∀ a, Q a → Yields E P (f a)) :
    Yields E P (if c then x >>= f else y >>= f) :=
  ite (fun holds => bind (left holds) rest) fun fails => bind (right fails) rest

end

theorem guard [Decidable c] {y : Except ε PUnit} {f : PUnit → Except ε α} (refused : c → Yields E (fun _ => False) y)
    (rest : ¬c → ∀ u, Yields E Q (f u)) : Yields E Q (if c then y >>= f else f ⟨⟩) :=
  ite (fun holds => bind (refused holds) fun _ never => never.elim) fun fails => rest fails ⟨⟩

theorem mapM {f : β → Except ε α} (items : List β) (step : ∀ b ∈ items, Yields E Q (f b)) :
    Yields E (fun results => results.length = items.length ∧ ∀ a ∈ results, Q a) (items.mapM f) := by
  induction items with
  | nil => exact pure ⟨rfl, by simp⟩
  | cons item items ih =>
    rw [List.mapM_cons]
    refine bind (step item (by simp)) fun a first => ?_
    refine bind (ih fun b member => step b (by simp [member])) fun results rest => ?_
    refine pure ⟨by simp [rest.1], fun b member => ?_⟩
    rcases List.mem_cons.mp member with rfl | member
    · exact first
    · exact rest.2 b member

theorem any (x : Except ε α) : Yields (fun _ => True) (fun _ => True) x := by
  cases x <;> trivial

end Yields

end

end Outcome

namespace Run

open Outcome

variable {I : Session → Prop} {E : Failure → Prop} {α : Type} {Q : α → Prop}

theorem ends_lift {x : Except Failure α} (yields : Yields E Q x) : Ends I E Q (Run.lift x) := by
  cases x with
  | ok a => exact .pure yields
  | error e => exact .throw yields

theorem gives_lift (x : Except Failure α) : Gives (fun a => x = .ok a) (Run.lift x) := by
  refine ends_lift ?_
  cases x with
  | ok a => exact rfl
  | error e => trivial

theorem ends_orFail {e : Failure} {o : Option α} (some : ∀ a, o = .some a → Q a) (none : o = .none → E e) :
    Ends I E Q (Run.orFail e o) := by
  cases o with
  | some a => exact .pure (some a rfl)
  | none => exact .throw (none rfl)

theorem ends_check {b : Bool} {message : String} (fails : b = false → E (.check message)) :
    Ends I E (fun _ => b = true) (Run.check b message) := by
  cases b with
  | true => exact .pure rfl
  | false => exact .throw (fails rfl)

theorem ends_options : Ends I E (fun o => ∃ s, I s ∧ s.options = o) Run.options :=
  fun s inv => ⟨⟨s, inv, rfl⟩, inv⟩

theorem ends_device {d : Device} (selected : ∀ s, I s → s.device = some d) : Ends I E (· = d) Run.device := by
  intro s inv
  rw [device_ok.mpr ⟨selected s inv, rfl⟩]
  exact ⟨rfl, inv⟩

end Run

/-- What is shown or logged makes no difference to `I`. -/
structure LogFree (I : Session → Prop) : Prop where
  shown : ∀ s console diagnostics, I s → I { s with console, diagnostics }
  logged : ∀ s path t, s.logPath = some path → I s → I (s.append (.file path) t)

namespace LogFree

open Outcome

variable {I : Session → Prop} {E : Failure → Prop} {α : Type} {Q : α → Prop}

variable (free : LogFree I)
include free

theorem put (line : String) : Ends I E (fun _ => True) (Run.put line) := by
  refine .modify fun s inv => ?_
  split
  · exact free.shown s _ s.diagnostics inv
  · exact free.logged s _ line ‹_› inv

theorem diagnose (plain colored : String) : Ends I E (fun _ => True) (Run.diagnose plain colored) :=
  .bind Ends.get fun _ _ => .optional (fun _ => free.put plain) fun _ => .modify fun s inv => free.shown s s.console _ inv

theorem stop (allowed : E (.exit 1)) (message : String) : Ends I E Q (Run.stop message) :=
  .bind (free.diagnose _ _) fun _ _ => .throw allowed

theorem stopIf {fatal : Bool} (allowed : E (.exit 1)) (message : String) :
    Ends I E (fun _ => True) (Run.stopIf fatal message) :=
  .ite (fun _ => free.stop allowed message) fun _ => free.diagnose _ _

end LogFree

open Outcome in
theorem Run.stop_run {α : Type} (message : String) (s : Session) :
    ∃ after, (Run.stop message : Run α).run s = .error (.exit 1) after := by
  have free : LogFree fun _ => True := ⟨fun _ _ _ => id, fun _ _ _ _ => id⟩
  have ends : Ends (fun _ => True) (· = .exit 1) (fun _ => False) (Run.stop message : Run α) :=
    free.stop (E := (· = .exit 1)) rfl message
  cases result : (Run.stop message : Run α).run s with
  | ok a after => exact (ends.result trivial result).1.elim
  | error e after => exact ⟨after, by rw [ends.error trivial result]⟩

end CnnForge
