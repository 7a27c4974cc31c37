import CnnForge.Accelerator.Constraints
import CnnForge.Accelerator.Groups
import CnnForge.Proofs.Endings

namespace CnnForge

variable {d : Device} {p : Plan} {i : Nat} {after : PlannedLayer} {l : Layer} {n : Network}

namespace Checked

open Outcome

theorem gives_refuseIf (b : Bool) (message : String) : Gives (fun _ => b = false) (refuseIf b message) := by
  cases b with
  | true => exact .throw trivial
  | false => exact .pure rfl

theorem gives_lift {α : Type} (x : Except Failure α) : Gives (fun a => x = .ok a) (lift x) := by
  cases x with
  | ok a => exact .pure rfl
  | error e => exact .throw trivial

end Checked

namespace Accelerator

open Outcome Checked

def KeepsSettings (before after : Layer) : Prop :=
  ∃ processors quantization outputShift tcalc kernel, after =
    { before with processors := processors, quantization := quantization, outputShift := outputShift,
                  tcalc := tcalc, kernel := kernel } ∧
    kernel.map Tensor.shape = before.kernel.map Tensor.shape

structure Accepted (d : Device) (before : Layer) (after : PlannedLayer) : Prop where
  settings : KeepsSettings before after.toLayer
  input : before.inputPair = .ok after.inputSize
  pooled : before.pooledPair = .ok after.pooledSize
  output : before.outputPair = .ok after.outputSize
  passes : ∃ warnings warnings', (passesOf d before.inputChannels).run warnings =
    .ok (after.inExpand, after.inExpandThresh) warnings'
  single : before.operator = .conv1d → before.operands ≤ 1
  passthrough : before.operator = .passthrough → before.activation = none ∧ before.padding = .both 0
  transposed : before.operator = .convTranspose2d →
    (before.padding.row ∈ d.transposePads ∧ before.padding.column ∈ d.transposePads) ∧
      before.outputPadding.row ∈ d.transposeOutputPads ∧ before.outputPadding.column ∈ d.transposeOutputPads
  groups : before.groups ≠ 0 ∧ (1 < before.groups →
    before.groups = before.inputChannels ∧ before.groups = before.outputChannels)
  dilation : (1 ≤ before.dilation.row ∧ before.dilation.row ≤ d.maxDilation) ∧
    1 ≤ before.dilation.column ∧ before.dilation.column ≤ d.maxDilation
  shift : -15 ≤ after.shift ∧ after.shift ≤ 15

theorem fillPasses_gives (d : Device) (l : PlannedLayer) :
    Gives (fun after => (∃ tcalc, after.toLayer = { l.toLayer with tcalc := tcalc }) ∧
      ∃ warnings warnings', (passesOf d l.inputChannels).run warnings =
        .ok (after.inExpand, after.inExpandThresh) warnings') (fillPasses d l) := by
  have found : Gives (fun passes => ∃ warnings warnings',
      (passesOf d l.inputChannels).run warnings = .ok passes warnings') (passesOf d l.inputChannels) :=
    Gives.of_ok fun _ _ _ run => ⟨_, _, run⟩
  refine Gives.rest fun output => Ends.bind found fun input run => ?_
  exact Ends.pure ⟨⟨_, rfl⟩, run⟩

theorem fillSizes_gives (l : PlannedLayer) :
    Gives (fun after => ∃ input pooled output,
      after = { l with inputSize := input, pooledSize := pooled, outputSize := output } ∧
      l.inputPair = .ok input ∧ l.pooledPair = .ok pooled ∧ l.outputPair = .ok output) (fillSizes l) := by
  refine .bind (gives_lift _) fun input found => ?_
  refine .bind (gives_lift _) fun pooled found' => ?_
  refine .bind (gives_lift _) fun output found'' => ?_
  exact .pure ⟨input, pooled, output, rfl, found, found', found''⟩

section

variable (d : Device) (i : Nat) (l : PlannedLayer)

theorem checkPassthrough_gives :
    Gives (fun _ => l.activation = none ∧ l.padding = .both 0) (checkPassthrough d i l) := by
  unfold checkPassthrough
  refine Ends.bind (gives_refuseIf _ _) fun _ plain => ?_
  refine Ends.bind (gives_refuseIf _ _) fun _ unpadded => ?_
  refine Gives.rest fun _ => (Gives.any _).mono fun _ _ => ?_
  refine ⟨by simpa using plain, ?_⟩
  cases padding : l.padding
  simp_all [Pair.both]

theorem fillTram_gives :
    Gives (fun after =>
      (∃ tramMax effectivePad, after = { l with tramMax := tramMax, effectivePad := effectivePad }) ∧
      (l.operator = .passthrough → l.activation = none ∧ l.padding = .both 0) ∧
      (l.operator = .convTranspose2d →
        (l.padding.row ∈ d.transposePads ∧ l.padding.column ∈ d.transposePads) ∧
          l.outputPadding.row ∈ d.transposeOutputPads ∧ l.outputPadding.column ∈ d.transposeOutputPads))
      (fillTram d i l) := by
  refine .ite (fun chosen => ?_) fun kernels => ?_
  · have operator : l.operator = .passthrough := by simpa [PlannedLayer.isPassthrough] using chosen
    refine .bind (checkPassthrough_gives d i l) fun _ plain => .pure ⟨⟨_, _, rfl⟩, fun _ => plain, ?_⟩
    intro other
    rw [operator] at other
    cases other
  · have operator : l.operator ≠ .passthrough := by simpa [PlannedLayer.isPassthrough] using kernels
    refine .ite (fun _ => ?_) fun other => ?_
    · refine .bind (gives_refuseIf _ _) fun _ pads => .bind (gives_refuseIf _ _) fun _ outputs => ?_
      refine .pure ⟨⟨_, _, rfl⟩, fun chosen => absurd chosen operator, fun _ => ⟨?_, ?_⟩⟩
      · simpa using pads
      · simpa using outputs
    · refine .pure ⟨⟨_, _, rfl⟩, fun chosen => absurd chosen operator, fun chosen => ?_⟩
      simp [chosen] at other

theorem checkGroups_gives :
    Gives (fun _ => l.groups ≠ 0 ∧ (1 < l.groups → l.groups = l.inputChannels ∧ l.groups = l.outputChannels))
      (checkGroups d i l) := by
  unfold checkGroups
  refine Gives.guard fun some_groups => ?_
  refine Gives.rest fun _ => Gives.rest fun _ => ?_
  refine Gives.rest fun _ => Gives.rest fun _ => ?_
  refine Ends.ite (fun _ => ?_) fun few => Ends.pure ⟨some_groups, fun many => absurd many few⟩
  refine Gives.rest fun _ => Ends.bind (gives_refuseIf _ _) fun _ depthwise => ?_
  refine Gives.rest fun _ => (Gives.any _).mono fun _ _ => ⟨some_groups, fun _ => ?_⟩
  simpa using depthwise

theorem checkSteps_gives :
    Gives (fun _ => (1 ≤ l.dilation.row ∧ l.dilation.row ≤ d.maxDilation) ∧
      1 ≤ l.dilation.column ∧ l.dilation.column ≤ d.maxDilation) (checkSteps d i l) := by
  refine Gives.rest fun _ => Ends.bind (gives_refuseIf _ _) fun _ steps => ?_
  refine (Gives.any _).mono fun _ _ => ?_
  simp only [Bool.or_eq_false_iff, decide_eq_false_iff_not] at steps
  omega

end

theorem checkShift_gives (i : Nat) (l : PlannedLayer) :
    Gives (fun _ => -15 ≤ l.shift ∧ l.shift ≤ 15) (checkShift i l) := by
  refine (gives_refuseIf _ _).mono fun _ within => ?_
  simp only [Bool.or_eq_false_iff, decide_eq_false_iff_not] at within
  omega

theorem planLayer_accepted (d : Device) (p : Plan) (i : Nat) :
    Gives (Accepted d (p.layer i).toLayer) (planLayer d p i) := by
  refine Gives.rest fun _ => Ends.bind (checkShift_gives i _) fun _ shift => ?_
  refine Gives.rest fun _ => ?_
  refine Ends.bind (fillPasses_gives d _) fun passed ⟨⟨tcalc, same⟩, passes⟩ => ?_
  refine Ends.bind (fillSizes_gives passed) fun sized ⟨input, pooled, output, filled, sizes⟩ => ?_
  refine Gives.rest fun _ => Ends.bind (gives_refuseIf _ _) fun _ single => ?_
  refine Ends.bind (fillTram_gives d i sized) fun l ⟨⟨tramMax, pad, tram⟩, passthrough, transposed⟩ => ?_
  refine Gives.rest fun _ => Ends.bind (checkGroups_gives d i l) fun _ groups => ?_
  refine Ends.bind (checkSteps_gives d i l) fun _ dilation => Gives.rest fun _ => ?_
  subst tram filled
  simp only [same, fillShift] at single passthrough transposed groups dilation sizes passes ⊢
  refine Ends.pure ⟨⟨_, _, _, _, _, rfl, rfl⟩, sizes.1, sizes.2.1, sizes.2.2, passes, ?_, passthrough, transposed,
    groups, dilation, ?_⟩
  · intro operator
    simpa [operator] using single
  · simpa only [PlannedLayer.shift, same, fillShift] using shift

theorem KeepsSettings.refl (l : Layer) : KeepsSettings l l := ⟨_, _, _, _, _, rfl, rfl⟩

theorem KeepsSettings.trans {a b c : Layer} (first : KeepsSettings a b) (second : KeepsSettings b c) :
    KeepsSettings a c := by
  obtain ⟨_, _, _, _, _, rfl, shape⟩ := first
  obtain ⟨_, _, _, _, _, rfl, shape'⟩ := second
  exact ⟨_, _, _, _, _, rfl, shape'.trans shape⟩

theorem Accepted.of_settings {original before : Layer} (same : KeepsSettings original before)
    (accepted : Accepted d before after) : Accepted d original after := by
  obtain ⟨_, _, _, _, _, rfl, shape⟩ := id same
  exact ⟨same.trans accepted.settings, accepted.input, accepted.pooled, accepted.output, accepted.passes,
    accepted.single, accepted.passthrough, accepted.transposed, accepted.groups, accepted.dilation,
    accepted.shift⟩

section

variable {f : Plan → Nat → Checked PlannedLayer} {g : Plan → Nat → PlannedLayer → Plan}
  {R : PlannedLayer → PlannedLayer → Prop}

theorem layer_set {after : Plan} {l : PlannedLayer} (stored : after.layers = p.layers.set! i l)
    (inside : i < p.layers.size) (j : Nat) : after.layer j = if i = j then l else p.layer j := by
  simp only [Plan.layer, stored, Array.set!_eq_setIfInBounds, Array.getD_eq_getD_getElem?,
    Array.getElem?_setIfInBounds]
  by_cases same : i = j
  · subst same
    simp [inside]
  · simp [same]

theorem fill_layers (step : ∀ p i, Gives (R (p.layer i)) (f p i))
    (stored : ∀ p i l, (g p i l).layers = p.layers.set! i l ∧ (g p i l).data = p.data ∧ (g p i l).first = p.first)
    (items : List Nat) (distinct : items.Nodup) (p : Plan) (inside : ∀ i ∈ items, i < p.layers.size) :
    Gives (fun after => after.layers.size = p.layers.size ∧ after.data = p.data ∧ after.first = p.first ∧
        ∀ i, if i ∈ items then R (p.layer i) (after.layer i) else after.layer i = p.layer i)
      (items.foldlM (fun p i => do return g p i (← f p i)) p) := by
  induction items generalizing p with
  | nil => exact .pure ⟨rfl, rfl, rfl, by simp⟩
  | cons item items ih =>
    obtain ⟨fresh, distinct⟩ := List.nodup_cons.mp distinct
    have here : item < p.layers.size := inside item (by simp)
    rw [List.foldlM_cons]
    refine .bind (.bind (step p item) fun l filled => .pure (Q := fun next =>
      ∃ l, R (p.layer item) l ∧ next = g p item l) ⟨l, filled, rfl⟩) ?_
    rintro _ ⟨l, filled, rfl⟩
    obtain ⟨layers, data, first⟩ := stored p item l
    have size : (g p item l).layers.size = p.layers.size := by rw [layers]; simp
    refine (ih distinct (g p item l) fun i member => ?_).mono ?_
    · rw [size]
      exact inside i (by simp [member])
    · rintro after ⟨size', data', first', each⟩
      refine ⟨size'.trans size, data'.trans data, first'.trans first, fun i => ?_⟩
      have rest := each i
      rw [layer_set layers here] at rest
      by_cases same : item = i
      · subst same
        rw [if_neg fresh, if_pos rfl] at rest
        rw [if_pos (by simp), rest]
        exact filled
      · simpa [same, Ne.symm same] using rest

end

theorem used_nodup (p : Plan) : p.used.Nodup := List.nodup_range.sublist (List.drop_sublist _ _)

theorem mem_used : i ∈ p.used ↔ p.first ≤ i ∧ i < p.layers.size := by
  rw [Plan.used, List.mem_drop_iff_getElem]
  constructor
  · rintro ⟨j, inside, rfl⟩
    rw [List.length_range] at inside
    rw [List.getElem_range]
    omega
  · rintro ⟨low, high⟩
    exact ⟨i - p.first, by rw [List.length_range]; omega, by rw [List.getElem_range]; omega⟩

theorem clearKernels_gives (n : Network) :
    Gives (fun after => after.data = n.data ∧ after.firstLayer = n.firstLayer ∧
      after.layers.size = n.layers.size ∧
      ∀ (i : Nat) (l : Layer), n.layers[i]? = some l → ∃ l', after.layers[i]? = some l' ∧ KeepsSettings l l')
      (clearKernels n) := by
  unfold clearKernels
  refine Gives.rest fun _ => Ends.pure ⟨rfl, rfl, by simp, fun i l found => ?_⟩
  refine ⟨{ l with kernel := l.kernel.map clearKernel }, by simp [found], _, _, _, _, _, rfl, ?_⟩
  cases l.kernel <;> rfl

theorem ofNetwork_layer (o : Options) (fifoGroup : Bool) (found : n.layers[i]? = some l) :
    KeepsSettings l ((Plan.ofNetwork o n fifoGroup).layer i).toLayer ∧
      ((Plan.ofNetwork o n fifoGroup).layer i).inputSize = .both 0 := by
  simp only [Plan.ofNetwork, Plan.layer]
  split
  · simp only [Array.getD_eq_getD_getElem?, Array.getElem?_modify, Array.getElem?_map, found, Option.map_some]
    split
    · exact ⟨⟨_, _, _, _, _, rfl, rfl⟩, rfl⟩
    · exact ⟨⟨_, _, _, _, _, rfl, rfl⟩, rfl⟩
  · simp only [Array.getD_eq_getD_getElem?, Array.getElem?_map, found, Option.map_some]
    exact ⟨⟨_, _, _, _, _, rfl, rfl⟩, rfl⟩

/-- A plan of a network: its layers are accepted from the first one in use on, and without sizes
before it. -/
structure Filled (d : Device) (n : Network) (p : Plan) : Prop where
  data : p.data = n.data
  size : p.layers.size = n.layers.size
  first : p.first = n.firstLayer
  accepted : ∀ {i : Nat} {l : Layer}, n.layers[i]? = some l → n.firstLayer ≤ i → Accepted d l (p.layer i)
  unused : ∀ {i : Nat} {l : Layer}, n.layers[i]? = some l → i < n.firstLayer →
    KeepsSettings l (p.layer i).toLayer ∧ (p.layer i).inputSize = .both 0

theorem plan_filled (d : Device) (o : Options) (n : Network) :
    Gives (fun result => Filled d n result.2) (plan d o n) := by
  unfold plan
  refine Gives.rest fun _ => ?_
  extract_lets settled rest
  -- The rest of the plan reads a network whose kernels may have been cleared.
  have planned : ∀ n' : Network, (n'.data = n.data ∧ n'.firstLayer = n.firstLayer ∧
      n'.layers.size = n.layers.size ∧ ∀ (i : Nat) (l : Layer), n.layers[i]? = some l →
        ∃ l', n'.layers[i]? = some l' ∧ KeepsSettings l l') →
      Gives (fun result => Filled d n result.2) (rest n') := by
    rintro n' ⟨data, first, size, same⟩
    refine Gives.rest fun group => Gives.rest fun _ => ?_
    refine Gives.rest fun mlator => Gives.rest fun _ => ?_
    have start : (Plan.ofNetwork settled n' group).layers.size = n'.layers.size := by
      simp only [Plan.ofNetwork]
      split <;> simp
    refine .bind (fill_layers (f := planLayer d) (g := fun p i l => { p with layers := p.layers.set! i l })
      (R := fun l => Accepted d l.toLayer) (planLayer_accepted d) (fun _ _ _ => ⟨rfl, rfl, rfl⟩) _
      (used_nodup _) _ fun i member => (mem_used.mp member).2) ?_
    rintro p ⟨size', data', first', each⟩
    have begins : (Plan.ofNetwork settled n' group).first = n.firstLayer := first
    refine .pure ⟨data'.trans data, (size'.trans start).trans size, first'.trans begins, ?_, ?_⟩
    · intro i l found used
      obtain ⟨l', found', settings⟩ := same i l found
      have inside : i < n'.layers.size := (Array.getElem?_eq_some_iff.mp found').1
      have here := each i
      rw [if_pos (mem_used.mpr ⟨by rw [begins]; exact used, by rw [start]; exact inside⟩)] at here
      exact (here.of_settings (ofNetwork_layer settled group found').1).of_settings settings
    · intro i l found unused
      obtain ⟨l', found', settings⟩ := same i l found
      obtain ⟨kept, unsized⟩ := ofNetwork_layer settled group found'
      have here := each i
      rw [if_neg fun member => by have low := (mem_used.mp member).1; omega] at here
      rw [here]
      exact ⟨settings.trans kept, unsized⟩
  refine .ite (fun _ => .bind (clearKernels_gives n) planned) fun _ => .bind (.pure ?_) planned
  exact ⟨rfl, rfl, rfl, fun i l found => ⟨l, found, .refl l⟩⟩

def KeepsSizes (before after : PlannedLayer) : Prop :=
  ∃ groupMap broadcast emulated, after =
    { before with groupMap := groupMap, broadcast := broadcast, emulatesElementwise := emulated }

theorem fillGroups_gives (d : Device) (o : Options) (p : Plan) (i : Nat) :
    Gives (KeepsSizes (p.layer i)) (fillGroups d o p i) := by
  unfold fillGroups
  refine Gives.rest fun outMap => ?_
  extract_lets emulated rest broadcasts
  have filled : ∀ broadcast, Gives (KeepsSizes (p.layer i)) (rest broadcast) := fun broadcast =>
    Gives.rest fun _ => Gives.optional fun _ => Ends.pure ⟨_, _, _, rfl⟩
  refine Gives.optional fun _ => ?_
  exact Ends.ite (fun _ => Gives.rest fun b => filled b) fun _ => Gives.rest fun b => filled b

theorem Accepted.of_sizes {before : PlannedLayer} (same : KeepsSizes before after) (accepted : Accepted d l before) :
    Accepted d l after := by
  obtain ⟨_, _, _, rfl⟩ := same
  exact { accepted with }

theorem planGroups_filled (filled : Filled d n p) (o : Options) : Gives (Filled d n) (planGroups d o p) := by
  unfold planGroups
  refine Ends.bind (fill_layers (f := fillGroups d o) (g := fun p i l =>
    { p with layers := p.layers.set! i l, processorsUsed := p.processorsUsed ||| l.processors }) (R := KeepsSizes)
    (fillGroups_gives d o) (fun _ _ _ => ⟨rfl, rfl, rfl⟩) _ (used_nodup _) _
    fun i member => (mem_used.mp member).2) ?_
  rintro after ⟨size, data, first, each⟩
  have same : ∀ i, KeepsSizes (p.layer i) (after.layer i) := by
    intro i
    have here := each i
    split at here
    · exact here
    · rw [here]
      exact ⟨_, _, _, rfl⟩
  have result : Filled d n after := by
    refine ⟨data.trans filled.data, size.trans filled.size, first.trans filled.first, ?_, ?_⟩
    · intro i l found used
      exact (filled.accepted found used).of_sizes (same i)
    · intro i l found unused
      obtain ⟨_, _, _, equal⟩ := same i
      rw [equal]
      exact filled.unused found unused
  refine Gives.rest fun map => Gives.rest fun _ => ?_
  exact Gives.rest fun _ => Ends.pure { result with }

end Accelerator

end CnnForge
