import CnnForge.Proofs.KernelWords

namespace CnnForge

open Outcome List KernelMemory Placement

variable {target p first n stop : Nat} {u : Unit} {α : Type} {pl : Placement} {d : Device} {before : Packing}
  {value : Int}

theorem Pack.lift_ok {x : Except Failure α} {after : Packing} {a : α} :
    (Pack.lift x).run before = .ok a after ↔ x = .ok a ∧ before = after := by
  cases x <;> simp [Pack.lift]

def Packing.Grows (layer : Nat) (before after : Packing) : Prop :=
  KernelMemory.Grows layer before.memory after.memory

def Packing.SameMemory (before after : Packing) : Prop := after.memory = before.memory

theorem Packing.SameMemory.refl (s : Packing) : Packing.SameMemory s s := rfl

theorem Packing.SameMemory.trans (a b c : Packing) (first : Packing.SameMemory a b)
    (second : Packing.SameMemory b c) : Packing.SameMemory a c :=
  Eq.trans second first

def Packing.OnlyRow (p : Nat) (before after : Packing) : Prop :=
  ∀ q column, q ≠ p → after.memory.word? q column = before.memory.word? q column

theorem Packing.OnlyRow.trans (a b c : Packing) (first : Packing.OnlyRow p a b) (second : Packing.OnlyRow p b c) :
    Packing.OnlyRow p a c :=
  fun q column other => (second q column other).trans (first q column other)

theorem Packing.SameMemory.row (p : Nat) (before after : Packing)
    (same : Packing.SameMemory before after) : Packing.OnlyRow p before after := by
  intro q column _
  rw [same]

theorem Pack.note_memory (n : PackNote) : Keeps Packing.SameMemory (Pack.note n) := by
  intro before u after run
  unfold Pack.note at run
  rw [modify_ok] at run
  rw [← run]
  rfl

namespace Placement

theorem cell_plain (plain : pl.quad = false) (target : Nat) : pl.cell d p target = (p, pl.offset + target) := by
  simp [cell, plain]

theorem storeByte_ok {next : Nat} {after : Packing} (run : (pl.storeByte d p target value).run before = .ok next after) :
    ∃ m, before.memory.store pl.layer (pl.cell d p target).1 (pl.cell d p target).2 value = .ok m ∧
      after = { before with memory := m } ∧
      (pl.cell d p target).2 < d.maskWidth (pl.cell d p target).1 ∧
      next = if (m.stored (pl.cell d p target).1 (pl.cell d p target).2).length = 9
        then target + 1 else target := by
  simp only [storeByte] at run
  split at run
  · simp at run
  · split at run
    · simp at run
    · simp only [bind_ok, Pack.lift_ok, modify_ok] at run
      obtain ⟨s, _, ⟨rfl, rfl⟩, m, _, ⟨stored, rfl⟩, _, _, rfl, rfl, rfl⟩ := run
      exact ⟨m, stored, rfl, by omega, by rw [used_eq_length]⟩

theorem storeByte_grows (pl : Placement) (d : Device) (p target : Nat) (value : Int) :
    Keeps (Packing.Grows pl.layer) (pl.storeByte d p target value) := by
  intro before next after run
  obtain ⟨m, stored, rfl, _, _⟩ := storeByte_ok run
  exact KernelMemory.Grows.of_store stored

theorem storeByte_row (plain : pl.quad = false) : Keeps (Packing.OnlyRow p) (pl.storeByte d p target value) := by
  intro before next after run q column other
  obtain ⟨m, stored, rfl, _, _⟩ := storeByte_ok run
  rw [cell_plain plain] at stored
  exact (store_spec stored).2.2.2 q column (by simp [other])

section

variable {R : Packing → Packing → Prop} (same : ∀ a b, Packing.SameMemory a b → R a b)
  (pl : Placement) (d : Device) (p : Nat) (store : ∀ target value, Keeps R (pl.storeByte d p target value))

include same store

theorem place_keeps (target : Nat) (item : StreamItem) : Keeps R (pl.place d p target item) := by
  cases item with
  | byte value => exact store target value
  | skip => exact .pure (fun s => same s s rfl) _
  | note text =>
    intro before next after run
    obtain ⟨_, middle, noted, done⟩ := bind_ok.mp run
    obtain ⟨_, rfl⟩ := pure_ok.mp done
    exact same _ _ (Pack.note_memory _ _ _ _ noted)
  | missing => exact .throw _

end

section

variable {R : Packing → Packing → Prop} (same : ∀ a b, Packing.SameMemory a b → R a b)
  (transitive : ∀ a b c, R a b → R b c → R a c) (pl : Placement) (d : Device) (p : Nat)
  (store : ∀ target, Keeps R (pl.storeByte d p target 0))

include same transitive store

theorem fill_keeps (items : List α) (target : Nat) : Keeps R (forIn items PUnit.unit (fun _ _ => do
      let _ ← pl.storeByte d p target 0
      pure (ForInStep.yield PUnit.unit)) : Pack PUnit) := by
  apply Keeps.forIn (fun s => same s s rfl) transitive
  intro _ _ _
  exact Keeps.bind transitive (store target) (fun _ => Keeps.pure (fun s => same s s rfl) _)

theorem fillWord_keeps (target : Nat) : Keeps R (pl.fillWord d p target) := by
  apply Keeps.bind transitive (Keeps.get (fun s => same s s rfl))
  intro s
  exact Keeps.bind transitive (fill_keeps same transitive pl d p store _ target)
    (fun _ => .pure (fun s => same s s rfl) _)

theorem fillWords_keeps (first stop : Nat) : Keeps R (pl.fillWords d p first stop) :=
  Keeps.forM (fun s => same s s rfl) transitive _
    (fun i _ => fillWord_keeps same transitive pl d p store (first + i))

end

end Placement

namespace KernelLayer

theorem setTop_memory (d : Device) (top : Int) (p : Nat) :
    Keeps Packing.SameMemory (setTop d top p) := by
  intro before u after run
  unfold setTop at run
  split at run
  · simp at run
  · rw [modify_ok] at run
    rw [← run]
    rfl

section

variable {l : KernelLayer} {s : PackSettings} {a : ArrangedKernels} {pl : Placement} {p rank : Nat}
  {length length' : Int} {before after : Packing}

theorem packProcessor_ok (plain : pl.quad = false)
    (run : (l.packProcessor s a pl length p rank).run before = .ok length' after) :
    ∃ target middle filled,
      ((l.stream s a pl.layer p rank).foldlM (pl.place s.device p) (l.lead s.device a / 9)).run before =
        .ok target middle ∧
      (pl.fillWords s.device p (pl.wordAfter s.device middle.memory p target)
        (l.goal s.device length)).run middle = .ok () filled ∧
      after.memory = filled.memory ∧
      length' = l.lengthTo s.device
        (max (pl.wordAfter s.device middle.memory p target) (l.goal s.device length)) := by
  simp only [packProcessor, plain, bind_ok, pure_ok] at run
  obtain ⟨target, middle, streamed, _, _, ⟨rfl, rfl⟩, _, filled, words, _, topped, tops, same, rfl⟩ := run
  exact ⟨target, middle, filled, streamed, words,
    Keeps.forM Packing.SameMemory.refl Packing.SameMemory.trans _ (fun q _ => setTop_memory _ _ q) _ _ _ tops,
    same.symm⟩

theorem packProcessor_keeps {R : Packing → Packing → Prop} (same : ∀ a b, Packing.SameMemory a b → R a b)
    (transitive : ∀ a b c, R a b → R b c → R a c)
    (store : ∀ target value, Keeps R (pl.storeByte s.device p target value)) :
    Keeps R (l.packProcessor s a pl length p rank) := by
  have reflexive : ∀ s, R s s := fun s => same s s rfl
  apply Keeps.bind transitive
  · exact Keeps.foldlM reflexive transitive _
      (fun t item _ => Placement.place_keeps same pl s.device p store t item) _
  intro target
  apply Keeps.bind transitive (Keeps.get reflexive)
  intro middle
  apply Keeps.bind transitive
  · exact Placement.fillWords_keeps same transitive pl s.device p (fun t => store t 0) _ _
  intro _
  apply Keeps.bind transitive
  · apply Keeps.forM reflexive transitive
    intro q _ before u after run
    exact same _ _ (setTop_memory _ _ q _ _ _ run)
  intro _
  exact .pure reflexive _

end

end KernelLayer

end CnnForge
