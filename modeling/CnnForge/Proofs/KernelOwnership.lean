import CnnForge.Device.Catalog
import CnnForge.KernelMemory.Loader
import CnnForge.Proofs.KernelCursor
import Mathlib

namespace CnnForge

open Outcome List Packing.SameMemory

variable {s : PackSettings} {afterPlain : Bool} {span : KernelSpan} {first layer : Nat} {spans : List KernelSpan}
  {layers : List KernelLayer} {before after m : KernelMemory}

namespace KernelLayer

variable {l : KernelLayer} {s : PackSettings} {a : ArrangedKernels} {layer : Nat} {before after : Packing}

theorem checkSize_memory (l : KernelLayer) (layer : Nat) (t : Tensor) :
    Keeps Packing.SameMemory (l.checkSize layer t) := by
  unfold checkSize
  split
  · exact .throw _
  · exact .ite (.throw _) (.pure refl _)
  · exact .ite (.throw _) (.pure refl _)

theorem findColumn_memory (s : PackSettings) (layer : Nat) (length : Int) (processors : List Nat) :
    Keeps Packing.SameMemory (findColumn s layer length processors) := by
  intro before column after run
  simp only [findColumn, bind_ok, get_ok] at run
  obtain ⟨st, _, ⟨rfl, rfl⟩, found⟩ := run
  split at found
  · split at found
    · split at found
      · simp at found
      · split at found
        · obtain ⟨_, rfl⟩ := pure_ok.mp found
          rfl
        · simp at found
        · simp at found
    · simp at found
  · refine Keeps.foldlM refl trans _ ?_ _ _ _ _ found
    intro top p _
    split
    · exact Keeps.pure refl _
    · exact Keeps.throw _

theorem noteAlignment_memory (l : KernelLayer) (d : Device) (layer : Nat) :
    Keeps Packing.SameMemory (l.noteAlignment d layer) :=
  Keeps.ite (Pack.note_memory _) (.pure refl _)

theorem findSpan_ok {quad : Bool} (run : (l.findSpan s a layer quad afterPlain).run before = .ok span after) :
    after.memory = before.memory ∧ span.length = (l.extent s a quad).length := by
  simp only [findSpan, bind_ok] at run
  obtain ⟨_, noted, warned, run⟩ := run
  split at run
  · simp at run
  · split at run
    · simp at run
    · obtain ⟨column, found, searched, run⟩ := bind_ok.mp run
      split at run
      · simp at run
      · split at run
        · simp at run
        · obtain ⟨rfl, rfl⟩ := pure_ok.mp run
          exact ⟨trans _ _ _ (noteAlignment_memory l s.device layer _ _ _ warned)
            (findColumn_memory _ _ _ _ _ _ _ searched), rfl⟩

theorem pack_ok (run : (l.pack s layer afterPlain).run before = .ok span after) :
    ∃ a middle, l.arrange (layer = 0 && s.quad) = .ok a ∧ middle.memory = before.memory ∧
      (l.packProcessors s a { layer, offset := span.offset.toNat, quad := layer = 0 && s.quad }
        (l.extent s a (layer = 0 && s.quad)).length).run middle = .ok span.length after := by
  simp only [pack, bind_ok, pure_ok, Pack.lift_ok] at run
  obtain ⟨a, _, ⟨arranged, rfl⟩, _, checked, sized, room, found, spanned, length, _, packed, rfl, rfl⟩ := run
  obtain ⟨same, extent⟩ := findSpan_ok spanned
  rw [extent] at packed
  exact ⟨a, found, arranged, same.trans (checkSize_memory l layer _ _ _ _ sized), packed⟩

end KernelLayer

namespace KernelMemory

theorem packAll_ok {before after : Session} (run : (packAll s layers first).run before = .ok (m, spans) after) :
    ∃ packed, (packLayers s layers first).run {} = .ok spans packed ∧ packed.memory = m := by
  unfold packAll at run
  split at run
  · rename_i spans' packed ran
    simp only [bind_ok, pure_ok, Prod.mk.injEq] at run
    obtain ⟨_, _, _, ⟨rfl, rfl⟩, _⟩ := run
    exact ⟨packed, ran, rfl⟩
  · split at run <;> simp only [Run.stop, bind_ok, throw_ok, and_false, exists_false] at run

theorem load_ok {s : LoaderSettings} {before after : Session} (run : (load s layers).run before = .ok spans after) :
    ∃ d packed, before.device = some d ∧
      (packLayers (packSettings before.options d) layers before.options.firstLayer).run {} =
        .ok spans packed := by
  simp only [load, Run.device, Run.options, bind_ok, get_ok, pure_ok] at run
  obtain ⟨d, _, ⟨_, _, ⟨rfl, rfl⟩, selected⟩, o, _, ⟨_, _, ⟨rfl, rfl⟩, rfl, rfl⟩, _, _, _, ⟨m, spans'⟩, _,
    packed, _, _, _, rfl, rfl⟩ := run
  obtain ⟨packing, ran, _⟩ := packAll_ok packed
  cases known : before.device with
  | none => simp [known] at selected
  | some x =>
    simp only [known, pure_ok] at selected
    obtain ⟨rfl, rfl⟩ := selected
    exact ⟨x, packing, rfl, ran⟩

def pointLayer (outputs : Nat) : KernelLayer :=
  { kernel := some (Tensor.full [1, 1, 1] 5), kernelSize := ⟨1, 1⟩, quantization := 8, processors := 1,
    outputProcessors := outputs, inputChannels := 1, outputChannels := 1, outExpand := 1,
    outExpandThresh := 1, inExpand := 1, inExpandThresh := 1, groups := 1 }

def smallDevice : Device :=
  { Device.max78000 with maxProcessors := 1, maskWidthSmall := 8, maskWidthLarge := 8 }

def smallSession : Session :=
  { device := some smallDevice, options := { greedyKernels := false }, bus := { kind := .program } }

def firstWord? (s : PackSettings) (layers : List KernelLayer) : Option KernelWord :=
  match (packLayers s layers 0).run {} with
  | .ok _ packed => packed.memory.word? 0 0
  | .error _ _ => none

theorem not_exclusive_of_firstWord {w : KernelWord} (found : firstWord? s layers = some w)
    (mixed : ∃ b ∈ w.stored, b.layer ≠ w.layer) :
    ∃ spans packed, (packLayers s layers 0).run {} = .ok spans packed ∧ ¬ packed.memory.Exclusive := by
  unfold firstWord? at found
  split at found
  · rename_i spans packed ran
    refine ⟨spans, packed, ran, ?_⟩
    intro exclusive
    obtain ⟨b, member, other⟩ := mixed
    exact other (exclusive 0 0 w found b member)
  · cases found

set_option maxRecDepth 20000 in
/-- The second layer leaves a byte empty for alignment and so shares a word with the first. -/
theorem load_mixes_layers :
    (∃ spans packed,
      (packLayers (packSettings { greedyKernels := false } Device.max78000)
        [pointLayer 1, pointLayer 2] 0).run {} = .ok spans packed ∧
      ¬ packed.memory.Exclusive) ∧
    (∃ spans after packed,
      (load {} [pointLayer 1, pointLayer 2]).run smallSession = .ok spans after ∧
      (packLayers (packSettings smallSession.options smallDevice) [pointLayer 1, pointLayer 2] 0).run {} =
        .ok spans packed ∧
      ¬ packed.memory.Exclusive) := by
  have word : ∀ d ∈ [Device.max78000, smallDevice],
      firstWord? (packSettings { greedyKernels := false } d) [pointLayer 1, pointLayer 2] =
        some ⟨0, [⟨1, 5⟩, ⟨1, 0⟩, ⟨0, 5⟩]⟩ := by
    intro d member
    simp only [List.mem_cons, List.not_mem_nil, or_false] at member
    rcases member with rfl | rfl <;> cbv
  have mixed := fun d member => not_exclusive_of_firstWord (word d member) ⟨⟨1, 5⟩, by decide, by decide⟩
  refine ⟨mixed _ (by simp), ?_⟩
  have returns : (result? ((load {} [pointLayer 1, pointLayer 2]).run smallSession)).isSome = true := by cbv
  obtain ⟨spans, packed, ran, shared⟩ := mixed smallDevice (by simp)
  obtain ⟨⟨spans', after⟩, loaded⟩ := Option.isSome_iff_exists.mp returns
  have loaded := result?_eq_some.mp loaded
  obtain ⟨d, packed', selected, ran'⟩ := load_ok loaded
  cases selected
  have same : EStateM.Result.ok spans packed = EStateM.Result.ok spans' packed' := ran.symm.trans ran'
  cases same
  exact ⟨spans, after, packed, loaded, ran, shared⟩

end KernelMemory

end CnnForge
