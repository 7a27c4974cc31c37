import CnnForge.Accelerator.Generate
import CnnForge.Proofs.ByteRange
import CnnForge.Proofs.PlannedLayers

namespace CnnForge

open Outcome Gives

variable {i : Nat} {outputs : Array Tensor} {after middle : Session} {current : Int} {l : Layer} {α : Type}
  {P : Int → Prop} {ran : List Nat} {out : Tensor}

theorem elementAt_mem {xs : Array α} {i : Int} {x : α} (found : elementAt xs i = .ok x) : x ∈ xs := by
  unfold elementAt at found
  split at found
  · rename_i y here
    cases found
    obtain ⟨k, _, inside⟩ := Option.bind_eq_some_iff.mp here
    exact Array.mem_of_getElem? inside
  · cases found

theorem Run.gives_perform {Q : α → Prop} {x : Checked α} (gives : Gives Q x) : Gives Q (Run.perform x) := by
  unfold Run.perform
  split
  · rename_i a warnings finished
    exact rest fun _ => Ends.pure (gives.result trivial finished).1
  · exact rest fun _ => rest fun _ => Ends.throw trivial
  · exact rest fun _ => Ends.throw trivial

namespace Network

theorem join_all {ts : List Tensor} (all : ∀ t ∈ ts, t.All P) : Gives (Tensor.All P) (join ts) := by
  unfold join
  split
  · exact .throw trivial
  · split
    · exact .throw trivial
    · unfold Checked.orFail
      split
      · rename_i u joined
        exact .pure (Tensor.All.concat? all joined)
      · exact .throw trivial

theorem gather_all (all : ∀ t ∈ outputs, t.All P) (sources : Option (List Int)) :
    Gives (Tensor.All P) (gather outputs sources) := by
  have element : ∀ i : Int, Gives (Tensor.All P) (Checked.lift (elementAt outputs i)) := fun i =>
    (Checked.gives_lift _).mono fun t found => all t (elementAt_mem found)
  cases sources with
  | none => exact element (-1)
  | some sources => exact .bind (.mapM _ fun i _ => element (i + 1)) fun ts each => join_all each.2

end Network

namespace Accelerator

/-- The loop over layers: it has computed the layers `ran`, holds the sample input and their outputs, and
goes on with layer number `current`. -/
inductive Loop (t : OutputFolder) (p : Plan) (before : Session) :
    List Nat → Array Tensor → Int → Session → Prop where
  | start : Loop t p before [] #[p.data] p.start before
  | step {ran : List Nat} {outputs : Array Tensor} {current next : Int} {middle computed after : Session} {i : Nat}
      {out : Tensor} {size : List Int} (loop : Loop t p before ran outputs current middle)
      (inside : current < p.layers.size) (here : position? p.layers.size current = some i)
      (run : (outputLayer t p outputs i).run middle = .ok (out, size) computed)
      (leave : (leaveLayer p (p.layer i)).run computed = .ok (some next) after) :
      Loop t p before (ran ++ [i]) (outputs.push out) next after

/-- The tensors that the loop holds at some time, also where it does not go on. -/
inductive Buffered (t : OutputFolder) (p : Plan) (before : Session) : List Nat → Array Tensor → Prop where
  | between {ran : List Nat} {outputs : Array Tensor} {current : Int} {after : Session}
      (loop : Loop t p before ran outputs current after) : Buffered t p before ran outputs
  | last {ran : List Nat} {outputs : Array Tensor} {current : Int} {middle after : Session} {i : Nat}
      {out : Tensor} {size : List Int} (loop : Loop t p before ran outputs current middle)
      (inside : current < p.layers.size) (here : position? p.layers.size current = some i)
      (run : (outputLayer t p outputs i).run middle = .ok (out, size) after) :
      Buffered t p before (ran ++ [i]) (outputs.push out)

section

variable {t : OutputFolder} {p : Plan} {before : Session}

end

theorem computeLayer_unsized {l : PlannedLayer} (unsized : l.inputSize = .both 0) (p : Plan) (logFolder : String)
    (i : Nat) (t : Tensor) : Gives (fun _ => False) (computeLayer p logFolder i l t) := by
  have shapeless : ∀ t, Gives (fun _ => False) (shapeInput l t) := by
    intro t
    unfold shapeInput
    rw [unsized]
    refine Ends.ite (fun _ => ?_) fun plane => ?_
    · exact Ends.bind (Run.ends_check fun _ => trivial) fun _ one_column => by simp [Pair.both] at one_column
    · refine Run.ends_orFail (fun u shaped => ?_) fun _ => trivial
      rw [if_neg plane] at shaped
      simp [Tensor.reshapeWith?, Tensor.completing?, shapeSize, Pair.both] at shaped
  refine Ends.bind (Q := fun _ => False) ?_ fun _ never => never.elim
  refine rest fun parts => rest fun combined => ?_
  exact Ends.bind (shapeless combined) fun _ never => never.elim

section

variable {d : Device} {n : Network} {p : Plan} (filled : Filled d n p)
include filled

variable (found : n.layers[i]? = some l) (narrow : l.outputWidth = 8)
include found narrow

theorem Filled.computeLayer_range (logFolder : String)
    {t : Tensor} (bytes : t.All IsByte) : Gives (fun result => result.1.All (Simulator.InRange l.activation))
      (computeLayer p logFolder i (p.layer i) t) := by
  rcases Nat.lt_or_ge i n.firstLayer with unused | used
  · exact (computeLayer_unsized (filled.unused found unused).2 _ _ _ _).mono fun _ never => never.elim
  · have accepted := filled.accepted found used
    obtain ⟨_, _, _, _, _, same, _⟩ := accepted.settings
    have width : (p.layer i).outputWidth = 8 := by rw [same]; exact narrow
    have plain : (p.layer i).operator = .passthrough → (p.layer i).activation = none := by
      rw [same]
      exact fun operator => (accepted.passthrough operator).1
    have activation : (p.layer i).activation = l.activation := by rw [same]
    have range := Accelerator.computeLayer_range width bytes p logFolder i plain
    rwa [activation] at range

theorem Filled.outputLayer_range
    (bytes : ∀ tensor ∈ outputs, tensor.All IsByte) (t : OutputFolder) :
    Gives (fun result => result.1.All (Simulator.InRange l.activation)) (outputLayer t p outputs i) := by
  refine rest fun device => rest fun o => ?_
  refine rest fun _ => ?_
  refine guard fun _ => ?_
  refine Ends.bind (Run.gives_perform (Network.gather_all bytes _)) fun input all => ?_
  refine Ends.bind (filled.computeLayer_range found narrow t.folder all) fun result range => ?_
  refine rest fun _ => ?_
  extract_lets file finish checked opened
  have finished : ∀ r, Gives (fun result => result.1.All (Simulator.InRange l.activation)) (finish r) := fun r =>
    Ends.bind (Run.ends_orFail (fun u shaped => range.reshape? shaped) fun _ => trivial) fun u all => Ends.pure all
  have opens : ∀ r, Gives (fun result => result.1.All (Simulator.InRange l.activation)) (opened r) := fun r =>
    rest fun _ => optional fun _ =>
      optional finished
  cases chosen : file with
  | none => exact opens ⟨⟩
  | some path =>
    refine rest fun s => rest fun files => ?_
    exact rest fun r => opens r

end

/-- All tensors consist of bytes, and the output of a layer is in the range of its activation. -/
structure Ranged (n : Network) (ran : List Nat) (outputs : Array Tensor) : Prop where
  size : outputs.size = ran.length + 1
  bytes : ∀ tensor ∈ outputs, tensor.All IsByte
  activated : ∀ {k i : Nat} {l : Layer} {tensor : Tensor}, ran[k]? = some i → n.layers[i]? = some l →
    outputs[k + 1]? = some tensor → tensor.All (Simulator.InRange l.activation)

theorem Ranged.push {n : Network} (ranged : Ranged n ran outputs) (found : n.layers[i]? = some l)
    (range : out.All (Simulator.InRange l.activation)) : Ranged n (ran ++ [i]) (outputs.push out) := by
  refine ⟨by simp [ranged.size], ?_, ?_⟩
  · intro tensor member
    rcases Array.mem_push.mp member with earlier | rfl
    · exact ranged.bytes tensor earlier
    · exact fun x inside => (range x inside).byte
  · intro k j l' tensor here found' there
    rw [Array.getElem?_push] at there
    have size := ranged.size
    split at there
    · rename_i last
      obtain rfl : k = ran.length := by omega
      obtain rfl : i = j := by simpa using here
      cases there
      obtain rfl : l = l' := by simpa [found] using found'
      exact range
    · rename_i earlier
      have inside : k < ran.length := by
        have bound := (Array.getElem?_eq_some_iff.mp there).1
        omega
      rw [List.getElem?_append_left inside] at here
      exact ranged.activated here found' there

section

variable {d : Device} {n : Network} {p : Plan} (filled : Filled d n p) (input : n.data.All IsByte)
  {t : OutputFolder} {before : Session} {ran : List Nat} {outputs : Array Tensor}
include filled

theorem Ranged.output {size : List Int} (ranged : Ranged n ran outputs)
    (here : position? p.layers.size current = some i)
    (run : (outputLayer t p outputs i).run middle = .ok (out, size) after)
    (narrow : ∀ l, n.layers[i]? = some l → l.outputWidth = 8) : Ranged n (ran ++ [i]) (outputs.push out) := by
  have inside : i < n.layers.size := filled.size ▸ position?_lt here
  have found : n.layers[i]? = some n.layers[i] := Array.getElem?_eq_getElem inside
  exact ranged.push found ((filled.outputLayer_range found (narrow _ found) ranged.bytes t).result trivial run).1

include input

theorem Loop.ranged (loop : Loop t p before ran outputs current after)
    (narrow : ∀ i ∈ ran, ∀ l, n.layers[i]? = some l → l.outputWidth = 8) : Ranged n ran outputs := by
  induction loop with
  | start => exact ⟨rfl, by simpa [filled.data] using input, by simp⟩
  | step loop inside here run leave ih =>
    exact (ih fun j member => narrow j (by simp [member])).output filled here run (narrow _ (by simp))

theorem Buffered.ranged (buffered : Buffered t p before ran outputs)
    (narrow : ∀ i ∈ ran, ∀ l, n.layers[i]? = some l → l.outputWidth = 8) : Ranged n ran outputs := by
  cases buffered with
  | between loop => exact loop.ranged filled input narrow
  | last loop inside here run =>
    have earlier := loop.ranged filled input fun j member => narrow j (by simp [member])
    exact earlier.output filled here run (narrow _ (by simp))

end

def darkening : Layer :=
  { processors := 1, outputProcessors := some 1, next := 1, activation := some .relu,
    kernel := some (Tensor.full [1, 1, 1] (-3)), quantization := some 8, outputShift := some 4,
    inputChannels := 1, outputChannels := 1, inputDim := some [1, 2], pooledDim := some ⟨1, 2⟩,
    outputDim := some ⟨1, 2⟩ }

theorem row_size : (#[-128, 127] : Array Int).size = shapeSize [1, 1, 2] := rfl

def nowhere : OutputFolder := { base := "", name := "", command := "" }

end Accelerator

end CnnForge
