import CnnForge.Proofs.PlannedLayers

namespace CnnForge

open Outcome

namespace Dimensions

open Checked

def Convolved (n dilation kernel padding stride r : Int) : Prop :=
  stride ≠ 0 ∧ (n - dilation * (kernel - 1) - 1 + 2 * padding).fdiv stride + 1 = r

def Applied (l : Layer) (p output : Pair) : Prop :=
  match l.operator with
  | .passthrough | .conv2d | .linear =>
    Convolved p.row l.dilation.row l.kernelSize.row l.padding.row l.stride.row output.row ∧
      Convolved p.column l.dilation.column l.kernelSize.column l.padding.column l.stride.column output.column
  | .convTranspose2d =>
    output = ⟨transposed p.row l.dilation.row l.kernelSize.row l.padding.row l.stride.row l.outputPadding.row,
      transposed p.column l.dilation.column l.kernelSize.column l.padding.column l.stride.column l.outputPadding.column⟩
  | _ => output = p

theorem convolved_gives (n dilation kernel padding stride : Int) :
    Gives (Convolved n dilation kernel padding stride) (convolved n dilation kernel padding stride) := by
  unfold convolved
  exact Gives.guard fun moves => .pure ⟨moves, rfl⟩

/-- Of a layer with two-dimensional data, the output and, where it is flattened, the channels are filled in. -/
def OutputFilled (l : Layer) (p : Pair) (after : Layer) : Prop :=
  ∃ output channels, after = { l with outputDim := some output, inputChannels := channels } ∧
    l.stride.row = l.stride.column ∧ (l.operator ≠ .convTranspose2d → l.stride.row = 1) ∧
    (l.flatten = false → Applied l p output)

theorem flattenLayer_gives (i : Int) (l : Layer) (p : Pair) :
    Gives (fun after => ∃ channels, after = { l with outputDim := some (.both 1), inputChannels := channels })
      (flattenLayer i l p) := by
  unfold flattenLayer
  refine Gives.rest fun _ => Gives.optional fun _ => ?_
  refine Gives.guard fun _ => ?_
  exact Gives.rest fun _ => Ends.pure ⟨_, rfl⟩

variable (s : DimensionSettings)

theorem planeOutput_gives (i : Int) (l : Layer) (p : Pair) :
    Gives (OutputFilled l p) (planeOutput s i l p) := by
  unfold planeOutput
  extract_lets name st k leave finish
  refine Ends.bind (gives_refuseIf _ _) fun _ square => Ends.bind (gives_refuseIf _ _) fun _ unit => ?_
  have square : l.stride.row = l.stride.column := by simpa [st] using square
  have unit : l.operator ≠ .convTranspose2d → l.stride.row = 1 := by
    intro other
    simpa [st, other] using unit
  have left : ∀ after, Gives (fun last => last = after) (leave after) := fun after =>
    Gives.rest fun _ => Ends.pure rfl
  have finished : ∀ output, Applied l p output → Gives (OutputFilled l p) (finish output) := by
    intro output applied
    refine Ends.ite (fun flat => ?_) fun _ => ?_
    · refine .bind (flattenLayer_gives i _ p) ?_
      rintro _ ⟨channels, rfl⟩
      exact (left _).mono fun after same => ⟨.both 1, channels, same, square, unit, fun unflattened => by simp_all⟩
    · refine .bind (.pure rfl) fun _ same => (left _).mono fun after kept => ?_
      exact ⟨output, l.inputChannels, kept.trans same.symm, square, unit, fun _ => applied⟩
  have convolves : (∀ output : Pair, Convolved p.row l.dilation.row k.row l.padding.row st.row output.row ∧
        Convolved p.column l.dilation.column k.column l.padding.column st.column output.column → Applied l p output) →
      Gives (OutputFilled l p) (do
        let rows ← convolved p.row l.dilation.row k.row l.padding.row st.row
        let columns ← convolved p.column l.dilation.column k.column l.padding.column st.column
        let output ← pure ⟨rows, columns⟩
        finish output) := by
    intro applied
    refine .bind (convolved_gives _ _ _ _ _) fun rows row => ?_
    refine .bind (convolved_gives _ _ _ _ _) fun columns column => .bind (.pure rfl) fun output same => ?_
    subst same
    exact finished _ (applied _ ⟨row, column⟩)
  have given : ∀ output, Applied l p output → Gives (OutputFilled l p) (pure output >>= finish) := fun output applied =>
    Ends.bind (.pure rfl) fun _ same => same ▸ finished output applied
  cases operator : l.operator with
  | passthrough | conv2d | linear =>
    exact convolves fun output both => by simpa only [Applied, operator] using both
  | convTranspose2d => exact given _ (by simp [Applied, operator, k, st])
  | conv1d | unknown _ => exact given _ (by simp [Applied, operator])

theorem lineOutput_gives (i : Int) (l : Layer) (p : Pair) :
    Gives (fun after => ∃ rows, after = { l with outputDim := some ⟨rows, 1⟩ } ∧
      Convolved p.row l.dilation.row l.kernelSize.row l.padding.row l.stride.row rows) (lineOutput s i l p) := by
  unfold lineOutput
  refine Gives.rest fun _ => Gives.rest fun _ => ?_
  exact Ends.bind (convolved_gives _ _ _ _ _) fun rows row => Ends.pure ⟨rows, rfl, row⟩

end Dimensions

end CnnForge
