import CnnForge.Proofs.LayerLoop

namespace CnnForge

open Outcome List Gives

variable {α β : Type} {i : Nat} {s : Int} {sources : List Int}

theorem elementAt_of_nonneg {xs : Array α} {i : Int} {x : α} (positive : 0 ≤ i) :
    elementAt xs i = .ok x ↔ xs[i.toNat]? = some x := by
  have place : (position? xs.size i).bind (xs[·]?) = xs[i.toNat]? := by
    unfold position?
    by_cases inside : i < xs.size
    · simp [inside, positive, Int.not_lt.mpr positive]
    · have outside : xs.size ≤ i.toNat := by omega
      simp [inside, Int.not_lt.mpr positive, Array.getElem?_eq_none outside]
  unfold elementAt
  rw [place]
  cases xs[i.toNat]? <;> simp

theorem elementAt_map (f : α → β) (xs : Array α) (i : Int) : elementAt (xs.map f) i = (elementAt xs i).map f := by
  have place : (position? (xs.map f).size i).bind ((xs.map f)[·]?) =
      ((position? xs.size i).bind (xs[·]?)).map f := by
    rw [Array.size_map]
    cases position? xs.size i <;> simp
  unfold elementAt
  rw [place]
  cases (position? xs.size i).bind (xs[·]?) <;> rfl

theorem Checked.lift_ok {x : Except Failure α} {a : α} {before after : List String} :
    (Checked.lift x).run before = .ok a after ↔ x = .ok a ∧ before = after := by
  cases x with
  | ok b => simp [Checked.lift]
  | error e => simp [Checked.lift, Checked.fail]

theorem mapM_ok {ε : Type} {f : α → Except ε β} {xs : List α} {ys : List β} (run : xs.mapM f = .ok ys) :
    (∀ y ∈ ys, ∃ x ∈ xs, f x = .ok y) ∧ ∀ x ∈ xs, ∃ y, f x = .ok y := by
  induction xs generalizing ys with
  | nil =>
    cases run
    simp
  | cons x xs ih =>
    cases first : f x with
    | error e => simp [first, Bind.bind, Except.bind] at run
    | ok y =>
      cases others : xs.mapM f with
      | error e => simp [first, others, Bind.bind, Except.bind] at run
      | ok rest =>
        obtain rfl : y :: rest = ys := by
          simpa [first, others, Bind.bind, Except.bind, Pure.pure, Except.pure] using run
        obtain ⟨sources, results⟩ := ih others
        constructor
        · intro z member
          rcases mem_cons.mp member with rfl | member
          · exact ⟨x, by simp, first⟩
          · obtain ⟨x', member', found⟩ := sources z member
            exact ⟨x', by simp [member'], found⟩
        · intro x' member
          rcases mem_cons.mp member with rfl | member
          · exact ⟨y, first⟩
          · exact results x' member

namespace Accelerator

/-- What a tensor of the loop over layers is: the sample input, or the output of a layer. -/
inductive Origin where
  | sample
  | layer (i : Nat)
deriving Repr, DecidableEq

def tagged (ran : List Nat) (outputs : Array Tensor) : Array (Origin × Tensor) :=
  ((Origin.sample :: ran.map Origin.layer).zip outputs.toList).toArray

def operand (ran : List Nat) (outputs : Array Tensor) (s : Int) : Except Failure (Origin × Tensor) :=
  elementAt (tagged ran outputs) (s + 1)

/-- How the loop gets a tensor: it begins with the sample input, and computes layers in the states that it
goes through. -/
inductive Made (t : OutputFolder) (p : Plan) (before : Session) : Origin × Tensor → Prop where
  | sample : Made t p before (.sample, p.data)
  | layer {ran : List Nat} {outputs : Array Tensor} {current : Int} {middle after : Session} {i : Nat}
      {out : Tensor} {size : List Int} (loop : Loop t p before ran outputs current middle)
      (here : position? p.layers.size current = some i)
      (run : (outputLayer t p outputs i).run middle = .ok (out, size) after) : Made t p before (.layer i, out)

/-- `out` is what layer `i` computes from its operands, joined by channel. -/
def ComputedFrom (t : OutputFolder) (p : Plan) (i : Nat) (operands : List Tensor) (out : Tensor) : Prop :=
  ∃ input result size notes opened closed, (Network.join operands).run [] = .ok input notes ∧
    (computeLayer p t.folder i (p.layer i) input).run opened = .ok (result, size) closed ∧
    result.reshape? (size.map Int.toNat) = some out

section

variable {t : OutputFolder} {p : Plan} {before after : Session} {ran : List Nat} {outputs : Array Tensor}
  {current : Int}

theorem Loop.size (loop : Loop t p before ran outputs current after) : outputs.size = ran.length + 1 := by
  induction loop with
  | start => rfl
  | step loop inside here run leave ih => simp [ih]

theorem tagged_getElem? (k : Nat) (x : Origin × Tensor) :
    (tagged ran outputs)[k]? = some x ↔
      (Origin.sample :: ran.map Origin.layer)[k]? = some x.1 ∧ outputs[k]? = some x.2 := by
  simp [tagged, getElem?_zip_eq_some]

theorem tagged_values (sized : outputs.size = ran.length + 1) : (tagged ran outputs).map Prod.snd = outputs := by
  have fits : outputs.toList.length ≤ (.sample :: ran.map Origin.layer).length := by simp [sized]
  simp only [tagged, map_toArray, map_snd_zip fits]

theorem tagged_push (sized : outputs.size = ran.length + 1) (i : Nat) (out : Tensor) :
    tagged (ran ++ [i]) (outputs.push out) = (tagged ran outputs).push (.layer i, out) := by
  have fits : (.sample :: ran.map Origin.layer).length = outputs.toList.length := by simp [sized]
  simp only [tagged, map_append, map_cons, map_nil, Array.toList_push, ← cons_append,
    zip_append fits]
  simp

theorem Loop.made (loop : Loop t p before ran outputs current after) :
    ∀ x ∈ tagged ran outputs, Made t p before x := by
  induction loop with
  | start =>
    intro x member
    obtain rfl : x = (.sample, p.data) := by simpa [tagged] using member
    exact .sample
  | step loop inside here run leave ih =>
    intro x member
    rw [tagged_push loop.size] at member
    rcases Array.mem_push.mp member with earlier | rfl
    · exact ih x earlier
    · exact .layer loop here run

section

variable (sized : outputs.size = ran.length + 1)
include sized

theorem operand_values (s : Int) :
    elementAt outputs (s + 1) = (operand ran outputs s).map Prod.snd := by
  rw [operand, ← elementAt_map, tagged_values sized]

theorem operand_layer (numbered : 0 ≤ s) (j : Nat) :
    (∃ tensor, operand ran outputs s = .ok (.layer j, tensor)) ↔ ran[s.toNat]? = some j := by
  have next : (s + 1).toNat = s.toNat + 1 := by omega
  simp only [operand, elementAt_of_nonneg (show 0 ≤ s + 1 by omega), tagged_getElem?, next,
    getElem?_cons_succ, getElem?_map, Option.map_eq_some_iff, Origin.layer.injEq]
  constructor
  · rintro ⟨tensor, ⟨j', here, rfl⟩, -⟩
    exact here
  · intro here
    have inside : s.toNat + 1 < outputs.size := by
      have bound := (List.getElem?_eq_some_iff.mp here).1
      omega
    exact ⟨outputs[s.toNat + 1], ⟨j, here, rfl⟩, Array.getElem?_eq_getElem inside⟩

theorem operand_place (numbered : 0 ≤ s) {x : Origin × Tensor}
    (taken : operand ran outputs s = .ok x) : ∃ j, ran[s.toNat]? = some j := by
  have there := (elementAt_of_nonneg (show 0 ≤ s + 1 by omega)).mp taken
  have bound := (Array.getElem?_eq_some_iff.mp ((tagged_getElem? _ _).mp there).2).1
  have inside : s.toNat < ran.length := by omega
  exact ⟨ran[s.toNat], getElem?_eq_getElem inside⟩

end

theorem Loop.operand_sample (loop : Loop t p before ran outputs current after) :
    operand ran outputs (-1) = .ok (.sample, p.data) := by
  have inside : 0 < outputs.size := by rw [loop.size]; omega
  have first : (tagged ran outputs)[0]? = some (.sample, outputs[0]) :=
    (tagged_getElem? 0 _).mpr ⟨rfl, Array.getElem?_eq_getElem inside⟩
  have same : ∀ tensor, Made t p before (.sample, tensor) → tensor = p.data := by
    rintro _ ⟨⟩
    rfl
  rw [same _ (loop.made _ (Array.mem_of_getElem? first))] at first
  exact (elementAt_of_nonneg (by decide)).mpr first

theorem gather_operands (sized : outputs.size = ran.length + 1) {input : Tensor} {notes : List String}
    (run : (Network.gather outputs (some sources)).run [] = .ok input notes) :
    ∃ operands, sources.mapM (operand ran outputs) = .ok operands ∧
      (Network.join (operands.map Prod.snd)).run [] = .ok input notes := by
  have taken : ∀ {ts : List Tensor} {notes notes' : List String},
      (sources.mapM fun s => Checked.lift (elementAt outputs (s + 1))).run notes = .ok ts notes' →
      notes = notes' ∧ ∃ operands, sources.mapM (operand ran outputs) = .ok operands ∧
        operands.map Prod.snd = ts := by
    clear run
    induction sources with
    | nil =>
      intro ts notes notes' run
      obtain ⟨rfl, rfl⟩ := pure_ok.mp run
      exact ⟨rfl, [], rfl, rfl⟩
    | cons s sources ih =>
      intro ts notes notes' run
      rw [mapM_cons] at run
      obtain ⟨tensor, _, first, run⟩ := bind_ok.mp run
      obtain ⟨rest, _, others, run⟩ := bind_ok.mp run
      obtain ⟨rfl, rfl⟩ := pure_ok.mp run
      obtain ⟨found, rfl⟩ := Checked.lift_ok.mp first
      obtain ⟨rfl, operands, each, rfl⟩ := ih others
      rw [operand_values sized] at found
      cases here : operand ran outputs s with
      | error e => simp [here, Except.map] at found
      | ok x =>
        obtain rfl : x.2 = tensor := by simpa [here, Except.map] using found
        refine ⟨rfl, x :: operands, ?_, rfl⟩
        rw [mapM_cons, here, each]
        rfl
  obtain ⟨ts, _, looked_up, joined⟩ := bind_ok.mp run
  obtain ⟨rfl, operands, each, rfl⟩ := taken looked_up
  exact ⟨operands, each, joined⟩

theorem outputLayer_operands (sized : outputs.size = ran.length + 1) (chosen : (p.layer i).inSequences = some sources) :
    Gives (fun result => ∃ operands, sources.mapM (operand ran outputs) = .ok operands ∧
      ComputedFrom t p i (operands.map Prod.snd) result.1) (outputLayer t p outputs i) := by
  have gathered : Gives (fun input => ∃ operands notes, sources.mapM (operand ran outputs) = .ok operands ∧
      (Network.join (operands.map Prod.snd)).run [] = .ok input notes)
      (Run.perform (Network.gather outputs (p.layer i).inSequences)) := by
    rw [chosen]
    unfold Run.perform
    split
    · rename_i input notes finished
      obtain ⟨operands, each, joined⟩ := gather_operands sized finished
      exact rest fun _ => Ends.pure ⟨operands, notes, each, joined⟩
    · exact rest fun _ => rest fun _ => Ends.throw trivial
    · exact rest fun _ => Ends.throw trivial
  unfold outputLayer
  refine rest fun device => rest fun o => ?_
  refine rest fun _ => ?_
  refine guard fun _ => ?_
  refine Ends.bind gathered fun input ⟨operands, notes, each, joined⟩ => ?_
  refine Ends.bind (of_ok (Q := fun result => ∃ opened closed,
    (computeLayer p t.folder i (p.layer i) input).run opened = .ok result closed)
    fun opened _ closed run => ⟨opened, closed, run⟩) fun ⟨result, size⟩ ⟨opened, closed, computed⟩ => ?_
  refine rest fun _ => ?_
  extract_lets file finish checked opens
  have finished : ∀ r, Gives (fun result => ∃ operands, sources.mapM (operand ran outputs) = .ok operands ∧
      ComputedFrom t p i (operands.map Prod.snd) result.1) (finish r) := fun r =>
    Ends.bind (Run.ends_orFail (Q := fun out => result.reshape? (size.map Int.toNat) = some out)
      (fun u shaped => shaped) fun _ => trivial) fun out shaped => Ends.pure
        ⟨operands, each, input, result, size, notes, opened, closed, joined, computed, shaped⟩
  have continued : ∀ r, Gives (fun result => ∃ operands, sources.mapM (operand ran outputs) = .ok operands ∧
      ComputedFrom t p i (operands.map Prod.snd) result.1) (opens r) := fun r =>
    rest fun _ => optional fun _ =>
      optional finished
  cases chosen : file with
  | none => exact continued ⟨⟩
  | some path =>
    refine rest fun s => rest fun files => ?_
    exact rest fun r => continued r

def Plan.successor (p : Plan) (i : Nat) : Int := (p.layer i).simulatedNext.getD (p.layer i).next

theorem leaveLayer_successor (i : Nat) :
    Gives (fun next => ∀ n, next = some n → n = p.successor i) (leaveLayer p (p.layer i)) := by
  have finished : ∀ keeps : Bool, Gives (fun next => ∀ n, next = some n → n = p.successor i) (do
      advanceImages keeps
      Compute.closeStepLog
      let next := (p.layer i).simulatedNext.getD (p.layer i).next
      return if next = -1 then none else some next) := by
    intro keeps
    refine rest fun _ => rest fun _ => Ends.pure ?_
    intro n same
    simp only [Option.ite_none_left_eq_some, Option.some.injEq] at same
    exact same.2.symm
  unfold leaveLayer
  exact Ends.ite (fun _ => rest fun b => finished b) fun _ =>
    rest fun l => finished l.streaming

theorem Loop.consecutive (loop : Loop t p before ran outputs current after)
    (follows : ∀ j ∈ ran, p.successor j = j + 1) :
    current = p.start + ran.length ∧ ∀ k < ran.length, ran[k]? = some (p.start + k) := by
  induction loop with
  | start => simp
  | @step ran outputs current next middle computed after i out size loop inside here run leave ih =>
    obtain ⟨reached, each⟩ := ih fun j member => follows j (by simp [member])
    have place : i = p.start + ran.length := by
      have positive : ¬ current < 0 := by omega
      simp only [position?, positive, if_false, Option.ite_none_right_eq_some, Option.some.injEq] at here
      omega
    have successor := ((leaveLayer_successor i).result trivial leave).1 next rfl
    have following := follows i (by simp)
    refine ⟨by simp only [length_append, length_singleton]; omega, fun k bound => ?_⟩
    rcases Nat.lt_or_ge k ran.length with earlier | last
    · rw [getElem?_append_left earlier]
      exact each k earlier
    · obtain rfl : k = ran.length := by simp at bound; omega
      simp [place]

end

theorem Filled.settings {d : Device} {n : Network} {p : Plan} (filled : Filled d n p) {l : Layer}
    (found : n.layers[i]? = some l) : KeepsSettings l (p.layer i).toLayer := by
  rcases Nat.lt_or_ge i n.firstLayer with unused | used
  · exact (filled.unused found unused).1
  · exact (filled.accepted found used).settings

/-- A layer is computed from the sample input, which is number -1 in its list of inputs, and from earlier outputs. Any
other number gives the output of the layer that had this place in the order of execution, which is the layer with the
number only if the order had it there, as an order by number from layer 0 on has. -/
theorem outputLayer_operand_places {d : Device} {o settled : Options} {n : Network} {unplaced p : Plan}
    {warnings warnings' notes notes' : List String}
    (planned : (plan d o n).run warnings = .ok (settled, unplaced) warnings')
    (grouped : (planGroups d settled unplaced).run notes = .ok p notes')
    {t : OutputFolder} {before middle after : Session} {ran : List Nat} {outputs : Array Tensor} {current : Int}
    {i : Nat} {l : Layer} {sources : List Int} {out : Tensor} {size : List Int}
    (loop : Loop t p before ran outputs current middle) (here : position? p.layers.size current = some i)
    (found : n.layers[i]? = some l) (chosen : l.inSequences = some sources)
    (run : (outputLayer t p outputs i).run middle = .ok (out, size) after) :
    (∃ operands, sources.mapM (operand ran outputs) = .ok operands ∧ (∀ x ∈ operands, Made t p before x) ∧
        ComputedFrom t p i (operands.map Prod.snd) out) ∧
      operand ran outputs (-1) = .ok (.sample, n.data) ∧
      (∀ s ∈ sources, 0 ≤ s → ∃ j tensor, ran[s.toNat]? = some j ∧ operand ran outputs s = .ok (.layer j, tensor)) ∧
      (∀ s ∈ sources, 0 ≤ s →
        ((∃ tensor, operand ran outputs s = .ok (.layer s.toNat, tensor)) ↔ ran[s.toNat]? = some s.toNat)) ∧
      (p.start = 0 → (∀ j ∈ ran, p.successor j = j + 1) → ∀ s < i, ran[s]? = some s) := by
  have unplaced_filled := ((plan_filled d o n).result trivial planned).1
  have filled := ((planGroups_filled unplaced_filled settled).result trivial grouped).1
  have planned_sources : (p.layer i).inSequences = some sources := by
    obtain ⟨_, _, _, _, _, same, _⟩ := filled.settings found
    rw [same]
    exact chosen
  obtain ⟨operands, each, computed⟩ :=
    ((outputLayer_operands (t := t) loop.size planned_sources).result trivial run).1
  refine ⟨⟨operands, each, fun x member => ?_, computed⟩, filled.data ▸ loop.operand_sample, ?_, ?_, ?_⟩
  · obtain ⟨s, -, taken⟩ := (mapM_ok each).1 x member
    exact loop.made x (elementAt_mem taken)
  · intro s member numbered
    obtain ⟨⟨origin, tensor⟩, taken⟩ := (mapM_ok each).2 s member
    obtain ⟨j, ran_here⟩ := operand_place loop.size numbered taken
    obtain ⟨tensor, there⟩ := (operand_layer loop.size numbered j).mpr ran_here
    exact ⟨j, tensor, ran_here, there⟩
  · intro s _ numbered
    exact operand_layer loop.size numbered s.toNat
  · intro start follows s earlier
    obtain ⟨reached, places⟩ := loop.consecutive follows
    have layer : i = ran.length := by
      have positive : ¬ current < 0 := by omega
      simp only [position?, positive, if_false, Option.ite_none_right_eq_some, Option.some.injEq] at here
      omega
    simpa [start] using places s (by omega)

/-- A network whose layers are computed in the order 1, 0, 2, 3; layer 2 takes the output of layer 0. -/
def reorderedNetwork : Network :=
  { layers := #[{ darkening with next := 2, kernel := some (Tensor.full [1, 1, 1] 64) },
      { darkening with next := 0 }, { darkening with next := 3, inSequences := some [0] },
      { darkening with next := -1 }]
    data := ⟨[1, 1, 2], #[-128, 127], row_size⟩
    finalLayer := 3
    firstLayer := 0 }

def reorderedRun : Option (Options × Plan × Plan × Tensor × Option Int × Tensor × Option Int × Tensor) := do
  let ((settled, unplaced), _) ← result?
    ((plan .max78002 { generateKat := false, startLayer := 1 } reorderedNetwork).run [])
  let (p, _) ← result? ((planGroups .max78002 settled unplaced).run [])
  let (result, _) ← result? ((layers p).run { options := settled, device := some .max78002 })
  return (settled, unplaced, p, result)
where
  layers (p : Plan) : Run (Tensor × Option Int × Tensor × Option Int × Tensor) := do
    let (first, _) ← outputLayer nowhere p #[p.data] 1
    let next ← leaveLayer p (p.layer 1)
    let (second, _) ← outputLayer nowhere p #[p.data, first] 0
    let last ← leaveLayer p (p.layer 0)
    let (third, _) ← outputLayer nowhere p #[p.data, first, second] 2
    return (first, next, second, last, third)

theorem reorderedRun_loop : ∃ (settled : Options) (unplaced p : Plan) (warnings notes : List String)
    (middle after : Session) (first second third : Tensor) (size : List Int),
    (plan .max78002 { generateKat := false, startLayer := 1 } reorderedNetwork).run [] =
      .ok (settled, unplaced) warnings ∧
    (planGroups .max78002 settled unplaced).run [] = .ok p notes ∧
    Loop nowhere p { options := settled, device := some .max78002 } [1, 0] #[p.data, first, second] 2 middle ∧
    position? p.layers.size 2 = some 2 ∧
    (outputLayer nowhere p #[p.data, first, second] 2).run middle = .ok (third, size) after ∧
    first.data = #[48, 0] ∧ second.data = #[127, 0] := by
  have ran : (reorderedRun.map fun (_, _, p, first, next, second, last, _) =>
      (first.data, next, second.data, last, p.start, p.layers.size)) =
      some (#[48, 0], some 0, #[127, 0], some 2, 1, 4) := by
    decide +kernel
  obtain ⟨⟨settled, unplaced, p, first, next, second, last, third⟩, ran, values⟩ := Option.map_eq_some_iff.mp ran
  simp only [Prod.mk.injEq] at values
  obtain ⟨dark, rfl, bright, rfl, start, size⟩ := values
  obtain ⟨⟨⟨settled, unplaced⟩, warnings⟩, planned, ran⟩ := Option.bind_eq_some_iff.mp ran
  obtain ⟨⟨p, notes⟩, grouped, ran⟩ := Option.bind_eq_some_iff.mp ran
  obtain ⟨⟨result, after⟩, run, same⟩ := Option.bind_eq_some_iff.mp ran
  cases Option.some.inj same
  obtain ⟨⟨first, size₁⟩, _, run₁, run⟩ := bind_ok.mp (result?_eq_some.mp run)
  obtain ⟨next, _, leave₁, run⟩ := bind_ok.mp run
  obtain ⟨⟨second, size₂⟩, _, run₂, run⟩ := bind_ok.mp run
  obtain ⟨last, middle, leave₂, run⟩ := bind_ok.mp run
  obtain ⟨⟨third, size₃⟩, after, run₃, run⟩ := bind_ok.mp run
  cases (pure_ok.mp run).1
  have one : Loop nowhere p { options := settled, device := some .max78002 } [1] #[p.data, first] 0 _ :=
    .step .start (by omega) (by rw [start, size]; rfl) run₁ leave₁
  exact ⟨settled, unplaced, p, warnings, notes, middle, after, first, second, third, size₃,
    result?_eq_some.mp planned, result?_eq_some.mp grouped,
    .step one (by omega) (by rw [size]; rfl) run₂ leave₂, by rw [size]; rfl, run₃, dark, bright⟩

theorem outputLayer_operand_places_reordered : ∃ (p : Plan) (before middle : Session) (first second third : Tensor),
    Loop nowhere p before [1, 0] #[p.data, first, second] 2 middle ∧
    (∃ operands, [0].mapM (operand [1, 0] #[p.data, first, second]) = .ok operands ∧
      (∀ x ∈ operands, Made nowhere p before x) ∧ ComputedFrom nowhere p 2 (operands.map Prod.snd) third) ∧
    ¬ ∃ tensor, operand [1, 0] #[p.data, first, second] 0 = .ok (.layer 0, tensor) := by
  obtain ⟨settled, unplaced, p, warnings, notes, middle, after, first, second, third, size, planned, grouped,
    loop, here, run, -, -⟩ := reorderedRun_loop
  have places := outputLayer_operand_places planned grouped loop here
    (show reorderedNetwork.layers[2]? = some { darkening with next := 3, inSequences := some [0] } from rfl) rfl run
  refine ⟨p, _, middle, first, second, third, loop, places.1, fun bound => ?_⟩
  have same := (places.2.2.2.1 0 (by simp) (by decide)).mp bound
  simp at same

/-- The input that names layer 0 is bound to the output of layer 1, which is another tensor. -/
theorem reordered_operand_misplaced : ∃ (p : Plan) (before middle : Session) (first second third : Tensor),
    Loop nowhere p before [1, 0] #[p.data, first, second] 2 middle ∧
    Made nowhere p before (.layer 0, second) ∧ first.data ≠ second.data ∧
    operand [1, 0] #[p.data, first, second] 0 = .ok (.layer 1, first) ∧
    ComputedFrom nowhere p 2 [first] third := by
  obtain ⟨settled, unplaced, p, warnings, notes, middle, after, first, second, third, size, planned, grouped,
    loop, here, run, dark, bright⟩ := reorderedRun_loop
  have taken : operand [1, 0] #[p.data, first, second] 0 = .ok (.layer 1, first) := rfl
  have unplaced_filled := ((plan_filled _ _ _).result trivial planned).1
  have filled := ((planGroups_filled unplaced_filled settled).result trivial grouped).1
  have sources : (p.layer 2).inSequences = some [0] := by
    obtain ⟨_, _, _, _, _, same, _⟩ := filled.settings
      (show reorderedNetwork.layers[2]? = some { darkening with next := 3, inSequences := some [0] } from rfl)
    rw [same]
  obtain ⟨operands, each, computed⟩ :=
    ((outputLayer_operands (t := nowhere) loop.size sources).result trivial run).1
  obtain rfl : [(Origin.layer 1, first)] = operands := Except.ok.inj each
  refine ⟨p, _, middle, first, second, third, loop, loop.made _ ?_, ?_, taken, computed⟩
  · simp [tagged]
  · rw [dark, bright]
    decide

end Accelerator

end CnnForge
