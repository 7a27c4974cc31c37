import CnnForge.Proofs.KnownAnswer

namespace CnnForge

open Outcome List

namespace Bus

theorem toNat_ofInt {n : Int} (above : 0 ≤ n) (below : n < 0x100000000) : (BitVec.ofInt 32 n).toNat = n.toNat := by
  rw [BitVec.toNat_ofInt]
  omega

theorem performed_words {checks : List Check} (some_checks : checks ≠ [])
    (addresses : ∀ c ∈ checks, 0 < c.address ∧ c.address < 0x100000000) :
    performed? BitVec.toNat ((checkTable checks).map (.ofInt 32)) =
      some (checks.map (Check.comparison (BitVec.ofInt 32))) := by
  have inside : ∀ b ∈ blocksOf checks [], 0 < b.address ∧ 0 < b.valuesRev.length ∧ b.next < 0x100000004 := by
    refine blocksOf_all (fun c member => ?_) (fun c member b before near => ?_) (by simp)
    · obtain ⟨above, below⟩ := addresses c member
      refine ⟨above, Nat.one_pos, ?_⟩
      simp only [CheckBlock.next, length_singleton]
      omega
    · have below := (addresses c member).2
      refine ⟨before.1, Nat.succ_pos _, ?_⟩
      simp only [CheckBlock.next, length_cons] at near ⊢
      omega
  refine performed_checkTable (fun a => BitVec.ofInt_add a 4) rfl some_checks fun b member => ?_
  obtain ⟨address, some_values, next⟩ := inside b member
  rw [CheckBlock.next] at next
  constructor
  · intro zero
    have value : b.address.toNat = 0 := by rw [← toNat_ofInt (by omega) (by omega), zero]; rfl
    omega
  · rw [toNat_ofInt (by omega) (by omega), Int.toNat_natCast]

/-- The table and the loop of a test are written, and the loop makes the collected comparisons, in some order. -/
theorem finishChecks_performs {before : Session} {main header : Sink} {continues : Bool}
    (file : before.bus.settings.mainFile = some main) (table : before.bus.settings.sampleOutputHeader = some header)
    (apart : header.place ≠ main.place) (takes : before.TakesText main ∧ before.TakesText header)
    (unlimited : before.options.maxCount = none) (some_checks : before.bus.checks ≠ #[])
    (common : ∀ c ∈ before.bus.checks, c.continues = continues)
    (addresses : ∀ c ∈ before.bus.checks, 0 < c.address ∧ c.address < 0x100000000) :
    ∃ after words made, finishChecks.run before = .ok () after ∧
      after.text header = before.text header ++ CSource.arrayDefine "SAMPLE_OUTPUT" .hexWord 8 words ∧
      after.text main = before.text main ++ tableLoop continues ∧
      performed? BitVec.toNat (words.map (.ofInt 32)) = some made ∧
      made.Perm (before.bus.checks.toList.map (Check.comparison (.ofInt 32))) := by
  have sorted := mergeSort_perm before.bus.checks.toList Check.le
  have filled : before.bus.checks.toList ≠ [] := by simpa using some_checks
  have member : ∀ {c}, c ∈ before.bus.checks.toList.mergeSort Check.le → c ∈ before.bus.checks := by simp
  generalize listed : before.bus.checks.toList.mergeSort Check.le = checks at sorted member
  obtain ⟨first, rest, rfl⟩ : ∃ first rest, checks = first :: rest := by
    cases checks with
    | nil => exact absurd sorted.symm.eq_nil filled
    | cons first rest => exact ⟨first, rest, rfl⟩
  have alike : (first :: rest).all (·.continues == continues) = true := by
    rw [all_eq_true]
    intro c among
    rw [common c (member among), beq_self_eq_true]
  generalize define : CSource.arrayDefine "SAMPLE_OUTPUT" .hexWord 8 (checkTable (first :: rest)) = text
  let written := (before.append header text).append main (tableLoop continues)
  have emitted : (emitTable main header continues (first :: rest)).run before = .ok () written :=
    bind_ok.mpr ⟨(), before, Run.check_ok.mpr ⟨alike, rfl⟩, by rw [define]; rfl⟩
  obtain ⟨loop, table', _⟩ := emitTable_ok define takes.symm apart emitted
  refine ⟨{ written with bus := { written.bus with checks := #[] } }, checkTable (first :: rest),
    (first :: rest).map (Check.comparison (.ofInt 32)), ?_, ?_, ?_,
    performed_words (by simp) fun c among => addresses c (member among), sorted.map _⟩
  · refine bind_ok.mpr ⟨before, before, get_ok.mpr ⟨rfl, rfl⟩, bind_ok.mpr ⟨before, before, get_ok.mpr ⟨rfl, rfl⟩, ?_⟩⟩
    simp only [listed, table, common first (member (by simp))]
    refine bind_ok.mpr ⟨main, before, Run.orFail_ok.mpr ⟨file, rfl⟩, ?_⟩
    refine bind_ok.mpr ⟨before.options, before, Run.options_ok.mpr ⟨rfl, rfl⟩, bind_ok.mpr ⟨(), written, ?_, rfl⟩⟩
    rw [unlimited, limitChecks]
    exact emitted
  · rw [Session.text_bus, table', define]
  · rw [Session.text_bus, loop]

def collectedSession : Session :=
  { Accelerator.tableSession with
    bus := { Accelerator.tableSession.bus with
      checks := #[⟨0xff, 0x50400008, " & 0xff", 1, 1, true, ""⟩, ⟨0xffffffff, 0x50400004, "", 7, 4, true, ""⟩,
        ⟨0xff, 0x50400004, " & 0xff", 3, 1, true, ""⟩, ⟨0xff, 0x50400004, " & 0xff", 3, 1, true, ""⟩] } }

theorem finishChecks_performs_repeated :
    ∃ after words made, finishChecks.run collectedSession = .ok () after ∧
      after.text (.stream "header") = collectedSession.text (.stream "header") ++
        CSource.arrayDefine "SAMPLE_OUTPUT" .hexWord 8 words ∧
      after.text (.stream "main") = collectedSession.text (.stream "main") ++ tableLoop true ∧
      performed? BitVec.toNat (words.map (.ofInt 32)) = some made ∧
      made.Perm (collectedSession.bus.checks.toList.map (Check.comparison (.ofInt 32))) :=
  finishChecks_performs rfl rfl (by decide) ⟨trivial, trivial⟩ rfl (by decide) (by decide) (by decide)

end Bus

end CnnForge
