import CnnForge.KernelMemory.Packing
import CnnForge.Proofs.Outcome

namespace CnnForge.KernelMemory

variable {layer p column : Nat} {m result before after : KernelMemory} {value : Int}

def stored (m : KernelMemory) (p column : Nat) : List StoredByte :=
  ((m.word? p column).map KernelWord.stored).getD []

def owner? (m : KernelMemory) (p column : Nat) : Option Nat :=
  (m.word? p column).map KernelWord.layer

/-- Every byte of a word was stored by the layer that started the word. -/
def Exclusive (m : KernelMemory) : Prop :=
  ∀ p column w, m.word? p column = some w → ∀ b ∈ w.stored, b.layer = w.layer

theorem used_eq_length (m : KernelMemory) (p column : Nat) :
    m.used p column = (m.stored p column).length := by
  unfold used stored
  cases m.word? p column <;> rfl

theorem word?_insert (m : KernelMemory) (p column q c : Nat) (w : KernelWord) :
    ({ m with words := m.words.insert (p, column) w } : KernelMemory).word? q c =
      if p = q ∧ column = c then some w else m.word? q c := by
  simp only [word?, Std.HashMap.getElem?_insert, beq_iff_eq, Prod.mk.injEq]

theorem store_spec (done : m.store layer p column value = .ok result) : (m.stored p column).length ≤ 8 ∧
      result.stored p column = ⟨layer, Bits.byte value⟩ :: m.stored p column ∧
      result.owner? p column = some ((m.owner? p column).getD layer) ∧
      ∀ q c, (q, c) ≠ (p, column) → result.word? q c = m.word? q c := by
  have elsewhere : ∀ w q c, (q, c) ≠ (p, column) →
      ({ m with words := m.words.insert (p, column) w } : KernelMemory).word? q c = m.word? q c := by
    intro w q c other
    rw [word?_insert, if_neg]
    rintro ⟨rfl, rfl⟩
    exact other rfl
  unfold store at done
  cases found : m.word? p column with
  | none =>
    simp only [found, Except.ok.injEq] at done
    subst done
    refine ⟨by simp [stored, found], ?_, ?_, elsewhere _⟩
    · simp [stored, found, word?_insert]
    · simp [owner?, found, word?_insert]
  | some w =>
    simp only [found] at done
    split at done
    · rename_i room
      cases done
      refine ⟨by simpa [stored, found] using room, ?_, ?_, elsewhere _⟩
      · simp [stored, found, word?_insert]
      · simp [owner?, found, word?_insert]
    · cases done

/-- `after` differs from `before` by bytes that `layer` stored, on top of those that were there. -/
def Grows (layer : Nat) (before after : KernelMemory) : Prop :=
  ∀ p column, ∃ more, (∀ b ∈ more, b.layer = layer) ∧
    after.stored p column = more ++ before.stored p column ∧
    after.owner? p column =
      if more = [] then before.owner? p column else some ((before.owner? p column).getD layer)

theorem Grows.of_store (done : m.store layer p column value = .ok result) : Grows layer m result := by
  obtain ⟨_, bytes, owner, elsewhere⟩ := store_spec done
  intro q c
  by_cases here : (q, c) = (p, column)
  · cases here
    exact ⟨[⟨layer, Bits.byte value⟩], by simp, bytes, by simpa using owner⟩
  · have same := elsewhere q c here
    exact ⟨[], by simp, by simp [stored, same], by simp [owner?, same]⟩

end CnnForge.KernelMemory
