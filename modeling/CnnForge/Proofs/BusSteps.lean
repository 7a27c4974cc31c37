import CnnForge.Bus.ProgramText
import CnnForge.Proofs.Endings

namespace CnnForge

open Outcome Run Bus

variable {α β : Type}

/-- A step that keeps what `R` says of the state before, and does not run on. -/
abbrev Stays (R : Session → Session → Prop) (x : Run α) : Prop :=
  ∀ first, Ends (R first) (· ≠ .endless) (fun _ => True) x

def KeepsSettings (f : Bus → Bus) : Prop :=
  ∀ b, (f b).settings = b.settings ∧ (f b).kernelMemory = b.kernelMemory ∧ (f b).image = b.image

/-- Text that is written, and records of the writer that are neither its settings nor its image nor the preloaded
kernels, make no difference to `R`. -/
structure BusFree (R : Session → Session → Prop) : Prop where
  appended : ∀ first s k t, R first s → R first (s.append k t)
  noted : ∀ first s f, KeepsSettings f → R first s → R first { s with bus := f s.bus }

namespace Stays

variable {R : Session → Session → Prop} {e : Failure} {x : Run α} {f : α → Run β}

theorem keeps (stays : Stays R x) (refl : ∀ s, R s s) : Keeps R x :=
  fun before _ _ run => ((stays before).result (refl before) run).2

theorem bind (first : Stays R x) (rest : ∀ a, Stays R (f a)) : Stays R (x >>= f) :=
  fun s => .bind (first s) fun a _ => rest a s

theorem pure (a : α) : Stays R (pure a : Run α) := fun _ => Ends.pure trivial

theorem throw (other : e ≠ .endless) : Stays R (throw e : Run α) := fun _ => Ends.throw other

theorem ite {x y : Run α} {c : Prop} [Decidable c] (left : Stays R x) (right : Stays R y) : Stays R (if c then x else y) :=
  fun s => .ite (fun _ => left s) fun _ => right s

theorem get : Stays R (get : Run Session) := fun _ => Ends.get.mono fun _ _ => trivial

theorem options : Stays R options := bind get fun _ => pure _

theorem device : Stays R device := by
  refine bind get fun s => ?_
  split
  · exact pure _
  · exact throw (by decide)

theorem check (b : Bool) (message : String) : Stays R (check b message) := ite (pure _) (throw (by simp))

theorem orFail (other : e ≠ .endless) (o : Option α) : Stays R (orFail e o) :=
  fun _ => ends_orFail (fun _ _ => trivial) fun _ => other

theorem lift {x : Except Failure α} (yields : Yields (· ≠ .endless) (fun _ => True) x) : Stays R (lift x) :=
  fun _ => ends_lift yields

theorem stopIf (free : ∀ first, LogFree (R first)) (fatal : Bool) (message : String) : Stays R (stopIf fatal message) :=
  fun first => (free first).stopIf (by decide) message

theorem laneMask (style : VerifyStyle) : Stays R (laneMask style) := by
  have size : Stays R (byteMask style.bytes) :=
    ite (pure _) (ite (pure _) (ite (pure _) (ite (pure _) (throw (by decide)))))
  have moved : ∀ mask, Stays R (match mask with
      | none => Pure.pure none
      | some m => some <$> toLane m style.lane : Run (Option Int)) := by
    intro mask
    cases mask with
    | none => exact pure _
    | some m => exact fun s => .map (ite (throw (by decide)) (pure _) s) fun _ _ => trivial
  unfold Bus.laneMask
  split
  · exact bind (pure _) moved
  · exact bind size fun m => bind (check _ _) fun _ => bind (pure _) moved

section

variable (free : BusFree R) (address value : Int) (style : VerifyStyle)

include free

theorem emit (k : Sink) (t : String) : Stays R (emit k t) :=
  fun first => .modify fun s same => free.appended first s k t same

theorem modifyBus {f : Bus → Bus} (kept : KeepsSettings f) : Stays R (modifyBus f) :=
  fun first => .modify fun s same => free.noted first s f kept same

theorem line (k : Sink) (t : String) {f : Bus → Bus} (kept : KeepsSettings f) : Stays R (do
      Run.emit k t
      Run.modifyBus f) :=
  bind (emit free _ _) fun _ => modifyBus free kept

theorem writeLines : Stays R (writeLines address value) :=
  bind get fun _ => bind (orFail (by decide) _) fun _ => line free _ _ fun _ => ⟨rfl, rfl, rfl⟩

theorem writeStatement (value : Datum) (style : WriteStyle) : Stays R (writeStatement address value style) := by
  unfold Bus.writeStatement
  extract_lets text rest
  have statement : ∀ u, Stays R (rest u) := by
    intro u
    refine bind (check _ _) fun _ => bind options fun _ => bind get fun s => ?_
    dsimp only
    split
    · split
      · refine bind (emit free _ _) fun _ => bind (modifyBus free fun _ => ⟨rfl, rfl, rfl⟩) fun _ => ?_
        exact ite (line free _ _ fun _ => ⟨rfl, rfl, rfl⟩) (pure _)
      · refine bind (orFail (by decide) _) fun _ => bind device fun _ => ?_
        exact line free _ _ fun _ => ⟨rfl, rfl, rfl⟩
    · exact pure _
  cases value with
  | number n => exact bind (check _ _) statement
  | expression t => exact statement ()

theorem write (value : Datum) (style : WriteStyle) : Stays R (Bus.write address value style) := by
  refine bind get fun s => ?_
  split
  · exact throw (by decide)
  · exact writeStatement free _ _ _
  all_goals
    cases value with
    | expression t => exact throw (by decide)
    | number n => exact bind (check _ _) fun _ => bind (check _ _) fun _ => bind options fun _ => writeLines free _ _

theorem writeData (style : WriteStyle) : Stays R (writeData address value style) := by
  refine bind get fun s => bind get fun s' => ite ?_ (write free _ _ _)
  refine bind device fun d => bind get fun s => bind (orFail (by decide) _) fun key => ?_
  exact modifyBus free fun _ => ⟨rfl, rfl, rfl⟩

theorem functionHeader (frame : CSource.FunctionFrame) : Stays R (functionHeader frame) := by
  refine bind get fun s => ite (bind get fun s => ?_) (pure _)
  simp only [if_true]
  cases librarySink s.bus.settings with
  | none => exact pure _
  | some out => exact bind options fun _ => emit free _ _

theorem expectData : Stays R (expectData address value style) := by
  have noted : ∀ text, Stays R (do
      let l := (← Run.device).dataLocation address
      let key := (← MonadState.get).bus.outputMemory.bind (·.locate? l.group l.block l.memory)
      let key ← Run.orFail .index key
      Run.modifyBus fun b => { b with outputMemory := b.outputMemory.map (·.add key l.word text) }) :=
    fun text => bind device fun d => bind get fun s => bind (orFail (by decide) _) fun key =>
      modifyBus free fun _ => ⟨rfl, rfl, rfl⟩
  refine bind (laneMask _) fun mask => ?_
  split
  · exact bind (pure _) noted
  · exact bind (orFail (by decide) _) noted

theorem verify : Stays R (verify address value style) := by
  have compares : ∀ address, Stays R (checkOf address value style) := by
    intro address
    refine bind (laneMask _) fun mask => ?_
    split
    · exact pure _
    · exact pure _
  have statement : Stays R (verifyStatement address value style) := by
    refine bind (check _ _) fun _ => bind (check _ _) fun _ => bind get fun s => ite (expectData free _ _ _) ?_
    refine bind options fun o => bind get fun s => ?_
    dsimp only
    split
    · refine bind (compares _) fun c => ?_
      exact ite (bind (modifyBus free fun _ => ⟨rfl, rfl, rfl⟩) fun _ => modifyBus free fun _ => ⟨rfl, rfl, rfl⟩)
        (line free _ _ fun _ => ⟨rfl, rfl, rfl⟩)
    · exact pure _
  refine bind get fun s => ?_
  split
  · exact throw (by decide)
  · exact statement
  · exact bind (check _ _) fun _ => bind (check _ _) fun _ => bind options fun o => writeLines free _ _
  · refine bind (check _ _) fun _ => bind (check _ _) fun _ => bind get fun s => bind (orFail (by decide) _) fun _ => ?_
    exact line free _ _ fun _ => ⟨rfl, rfl, rfl⟩

theorem verifyListed : Stays R (verifyListed address value style) := bind get fun _ => verify free _ _ _

end

end Stays

end CnnForge
