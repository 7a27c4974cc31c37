import CnnForge.Proofs.LayerSettings

namespace CnnForge.Config

open Outcome List Links

variable {limits : Limits} {v : Value} {l l' : LayerConfig} {e : LayerEntry} {x : ListSetting}
  {c c' : List (Nat × Value)} {next m : Int} {place : Nat} {es : List LayerEntry}

section

variable {s t : ConfigState}

/-- A setting with `v` for columns, where this does not go through a list of several layers. -/
def withColumns (v : Value) : ListSetting → ListSetting
  | .own xs => .own (xs.set 1 v)
  | x => x

theorem withColumns_common : withColumns v x = .common ↔ x = .common := by
  cases x <;> simp [withColumns]

def afterColumns (v : Value) (x : ListSetting) (s : ConfigState) : ConfigState :=
  match x with
  | .common => { s with commonPadding := s.commonPadding.set 1 v }
  | .own _ => s
  | .named n _ => { s with changed := (n, v) :: s.changed }

theorem setSecond_ok {xs ys : List Value} (run : (setSecond v xs).run s = .ok ys t) : ys = xs.set 1 v ∧ t = s := by
  match xs with
  | _ :: _ :: _ =>
    obtain ⟨rfl, rfl⟩ := pure_ok.mp run
    exact ⟨rfl, rfl⟩
  | [] | [_] => exact (throw_ok.mp run).elim

theorem setColumns_ok {y : ListSetting} (run : (setColumns v x).run s = .ok y t) :
    y = withColumns v x ∧ t = afterColumns v x s := by
  cases x with
  | common =>
    obtain ⟨s', _, got, run⟩ := bind_ok.mp run
    obtain ⟨rfl, rfl⟩ := get_ok.mp got
    obtain ⟨xs, _, second, run⟩ := bind_ok.mp run
    obtain ⟨rfl, rfl⟩ := setSecond_ok second
    obtain ⟨_, _, changed, run⟩ := bind_ok.mp run
    obtain rfl := modify_ok.mp changed
    obtain ⟨rfl, rfl⟩ := pure_ok.mp run
    exact ⟨rfl, rfl⟩
  | own xs =>
    obtain ⟨ys, _, second, result⟩ := bind_ok.mp run
    obtain ⟨rfl, rfl⟩ := setSecond_ok second
    obtain ⟨rfl, rfl⟩ := pure_ok.mp result
    exact ⟨rfl, rfl⟩
  | named n xs =>
    simp only [setColumns] at run
    split at run
    · obtain ⟨_, _, failed, -⟩ := bind_ok.mp run
      exact (throw_ok.mp failed).elim
    · obtain ⟨_, _, changed, run⟩ := bind_ok.mp run
      obtain rfl := modify_ok.mp changed
      obtain ⟨rfl, rfl⟩ := pure_ok.mp run
      exact ⟨rfl, rfl⟩

theorem ListAlike.withColumns (alike : ListAlike c c' x) (n : Int) : ListAlike c c' (withColumns (.int n) x) := by
  cases x with
  | own xs =>
    intro p p'
    have equal : updatedList c xs = updatedList c' xs := by simpa [resolve] using alike p p'
    rw [updatedList_eq_map, updatedList_eq_map] at equal
    simp [Config.withColumns, resolve, updatedList_eq_map, map_set, equal, updated]
  | common | named n xs => exact alike

def narrow (l : LayerConfig) : LayerConfig :=
  { l with
    padding := withColumns (.int 0) l.padding
    pool := withColumns (.int 1) l.pool
    poolStride := withColumns (.int 1) l.poolStride
    stride := withColumns (.int 1) l.stride }

def fixedSettings (l : LayerConfig) : LayerConfig :=
  match l.operator with
  | .conv1d => narrow l
  | .passthrough => { l with kernelSize := (1, 1) }
  | .convTranspose2d => { l with stride := .ofInts 2 2 }
  | _ => l

def afterNarrow (l : LayerConfig) (s : ConfigState) : ConfigState :=
  afterColumns (.int 1) l.stride (afterColumns (.int 1) l.poolStride
    (afterColumns (.int 1) l.pool (afterColumns (.int 0) l.padding s)))

theorem operatorFixes_ok (run : (operatorFixes l).run s = .ok l' t) :
    l' = fixedSettings l ∧ t = if l.operator = .conv1d then afterNarrow l s else s := by
  unfold operatorFixes at run
  split at run
  · rename_i one
    obtain ⟨padding, _, padded, run⟩ := bind_ok.mp run
    obtain ⟨rfl, rfl⟩ := setColumns_ok padded
    obtain ⟨pool, _, pooled, run⟩ := bind_ok.mp run
    obtain ⟨rfl, rfl⟩ := setColumns_ok pooled
    obtain ⟨poolStride, _, stepped, run⟩ := bind_ok.mp run
    obtain ⟨rfl, rfl⟩ := setColumns_ok stepped
    obtain ⟨stride, _, strided, run⟩ := bind_ok.mp run
    obtain ⟨rfl, rfl⟩ := setColumns_ok strided
    obtain ⟨rfl, rfl⟩ := pure_ok.mp run
    have narrowed : fixedSettings l = narrow l := by simp only [fixedSettings, one]
    exact ⟨narrowed.symm, (if_pos one).symm⟩
  · rename_i passes
    obtain ⟨rfl, rfl⟩ := pure_ok.mp run
    exact ⟨by simp only [fixedSettings, passes], by simp [passes]⟩
  · rename_i transposed
    obtain ⟨rfl, rfl⟩ := pure_ok.mp run
    exact ⟨by simp only [fixedSettings, transposed], by simp [transposed]⟩
  · rename_i other passes transposed
    obtain ⟨rfl, rfl⟩ := pure_ok.mp run
    refine ⟨?_, (if_neg other).symm⟩
    unfold fixedSettings
    split
    · exact (other ‹_›).elim
    · exact (passes ‹_›).elim
    · exact (transposed ‹_›).elim
    · rfl

theorem LayerAlike.narrow (alike : LayerAlike c c' l) : LayerAlike c c' (narrow l) := by
  have pool : ListAlike c c' l.pool := fun p p' => congrArg LayerConfig.pool (alike.rest p p')
  have poolStride : ListAlike c c' l.poolStride := fun p p' => congrArg LayerConfig.poolStride (alike.rest p p')
  have stride : ListAlike c c' l.stride := fun p p' => congrArg LayerConfig.stride (alike.rest p p')
  have whole : ∀ s, resolveLayer s (unpadded (Config.narrow l)) = { resolveLayer s (unpadded l) with
      pool := resolve s (withColumns (.int 1) l.pool)
      poolStride := resolve s (withColumns (.int 1) l.poolStride)
      stride := resolve s (withColumns (.int 1) l.stride) } := fun _ => rfl
  refine ⟨alike.padding.imp withColumns_common.mpr (·.withColumns 0), fun p p' => ?_⟩
  rw [whole, whole, alike.rest p p', pool.withColumns 1 p p', poolStride.withColumns 1 p p',
    stride.withColumns 1 p p']

theorem LayerAlike.fixed (alike : LayerAlike c c' l) : LayerAlike c c' (fixedSettings l) := by
  unfold fixedSettings
  split
  · exact alike.narrow
  · exact ⟨alike.padding, fun p p' =>
      (congrArg (fun m : LayerConfig => { m with kernelSize := (1, 1) }) (alike.rest p p') :)⟩
  · exact ⟨alike.padding, fun p p' =>
      (congrArg (fun m : LayerConfig => { m with stride := .ofInts 2 2 }) (alike.rest p p') :)⟩
  · exact alike

def narrowedNames : ListSetting → List (Nat × Value)
  | .named n _ => [(n, .int 1)]
  | _ => []

def narrowing (v : Value) : List (Nat × Value) :=
  if isOneDimensional v then narrowedNames (poolStrideOf v) ++ narrowedNames (poolOf v) else []

/-- Whether a layer changes the padding of all layers without one of their own. -/
def narrowsCommonPadding (v : Value) : Bool := isOneDimensional v && usesCommonPadding v

structure ReadFrom (v : Value) (s : ConfigState) (l : LayerConfig) (t : ConfigState) : Prop where
  padding : l.padding = .common ↔ usesCommonPadding v = true
  inSequences : l.inSequences = inSequencesOf v
  nextSequence : l.nextSequence = sequenceOrStop ((v.get? "next_sequence").getD .null)
  simulatedSequence : l.simulatedSequence = sequenceOrStop ((v.get? "simulated_sequence").getD .null)
  snoopSequence : l.snoopSequence = (v.get? "snoop_sequence").getD .null
  alike : ∀ c c', Alike c c' v → LayerAlike c c' l
  layers : t.layers = s.layers
  commonPadding : t.commonPadding =
    if narrowsCommonPadding v then s.commonPadding.set 1 (.int 0) else s.commonPadding
  changed : t.changed = narrowing v ++ s.changed

theorem afterColumns_ofValue (v : Value) (s : ConfigState) :
    afterColumns (.int 1) (.ofValue v) s = { s with changed := narrowedNames (.ofValue v) ++ s.changed } := by
  cases v <;> rfl

theorem afterColumns_pool (v : Value) (s : ConfigState) :
    afterColumns (.int 1) (poolOf v) s = { s with changed := narrowedNames (poolOf v) ++ s.changed } := by
  unfold poolOf
  cases ["max_pool", "avg_pool"].findSome? (v.get? ·) with
  | none => rfl
  | some w => exact afterColumns_ofValue w s

theorem afterColumns_poolStride (v : Value) (s : ConfigState) :
    afterColumns (.int 1) (poolStrideOf v) s = { s with changed := narrowedNames (poolStrideOf v) ++ s.changed } := by
  unfold poolStrideOf
  cases v.get? "pool_stride" with
  | none => rfl
  | some w => exact afterColumns_ofValue w s

def paddingOf (v : Value) : ListSetting :=
  ((v.get? "pad").map .both).getD (if keepsPadding v then .common else .ofInts 0 0)

theorem paddingOf_common (v : Value) : paddingOf v = .common ↔ usesCommonPadding v = true := by
  unfold paddingOf usesCommonPadding
  cases v.get? "pad" with
  | some w => simp [ListSetting.both]
  | none => cases keepsPadding v <;> simp [ListSetting.ofInts]

theorem afterColumns_padding (v : Value) (s : ConfigState) :
    afterColumns (.int 0) (paddingOf v) s =
      { s with commonPadding := if usesCommonPadding v then s.commonPadding.set 1 (.int 0) else s.commonPadding } := by
  by_cases common : usesCommonPadding v = true
  · rw [(paddingOf_common v).mpr common, if_pos common]
    rfl
  · rw [if_neg common]
    cases padding : paddingOf v with
    | common => exact (common ((paddingOf_common v).mp padding)).elim
    | own xs => rfl
    | named n xs =>
      unfold paddingOf at padding
      cases found : v.get? "pad" with
      | some w => simp [found, ListSetting.both] at padding
      | none => cases kept : keepsPadding v <;> simp [found, kept, ListSetting.ofInts] at padding

theorem readLayer_ok (run : (readLayer limits e).run s = .ok l t) : ReadFrom e.entries s l t := by
  obtain ⟨given, _, settled, fixed⟩ := bind_ok.mp run
  obtain ⟨warnings, rfl⟩ := (readSettings_settles e limits).quiet settled
  obtain ⟨⟨operator, stride, links, one⟩, alike⟩ := (readSettings_settles e limits).gives settled
  obtain ⟨rfl, rfl⟩ := operatorFixes_ok fixed
  have padding : given.padding = paddingOf e.entries := congrArg padding links
  have pool : given.pool = poolOf e.entries := congrArg pool links
  have poolStride : given.poolStride = poolStrideOf e.entries := congrArg poolStride links
  have own : given.stride = .own stride := congrArg Links.stride links
  have operates : given.operator = operator := congrArg Links.operator links
  rw [operates]
  have sequences : linksOf (fixedSettings given) = { linksOf (fixedSettings given) with
      inSequences := given.inSequences
      nextSequence := given.nextSequence
      simulatedSequence := given.simulatedSequence
      snoopSequence := given.snoopSequence } := by
    unfold fixedSettings
    split <;> rfl
  have after : (if operator = .conv1d then afterNarrow given { s with warnings := warnings }
      else { s with warnings := warnings }) =
      { s with
        warnings := warnings
        commonPadding := if narrowsCommonPadding e.entries then s.commonPadding.set 1 (.int 0) else s.commonPadding
        changed := narrowing e.entries ++ s.changed } := by
    by_cases narrow : operator = .conv1d
    · have named := one.mp narrow
      rw [if_pos narrow, afterNarrow, padding, pool, poolStride, own, afterColumns_padding, afterColumns_pool,
        afterColumns_poolStride]
      simp [afterColumns, narrowing, narrowsCommonPadding, named]
    · have named : isOneDimensional e.entries = false := by simpa using fun named => narrow (one.mpr named)
      rw [if_neg narrow]
      simp [narrowing, narrowsCommonPadding, named]
  rw [after]
  refine ⟨?_, ?_, ?_, ?_, ?_, fun c c' entries => (alike c c' entries).fixed, rfl, rfl, rfl⟩
  · rw [← paddingOf_common, ← padding]
    unfold fixedSettings
    split
    · exact withColumns_common
    · rfl
    · rfl
    · rfl
  · exact (congrArg inSequences sequences).trans (congrArg inSequences links)
  · exact (congrArg nextSequence sequences).trans (congrArg nextSequence links)
  · exact (congrArg simulatedSequence sequences).trans (congrArg simulatedSequence links)
  · exact (congrArg snoopSequence sequences).trans (congrArg snoopSequence links)

theorem readLayer_steady {s' t' : ConfigState} (run : (readLayer limits e).run s = .ok l t)
    (run' : (readLayer limits e).run s' = .ok l' t') : l = l' := by
  obtain ⟨given, _, settled, fixed⟩ := bind_ok.mp run
  obtain ⟨given', _, settled', fixed'⟩ := bind_ok.mp run'
  obtain rfl := (readSettings_settles e limits).steady settled settled'
  rw [(operatorFixes_ok fixed).1, (operatorFixes_ok fixed').1]

def LayerEntry.number (e : LayerEntry) : Int := e.sequence.int?.getD 0

/-- The entries of all layers with their sequence numbers. A layer without one follows the layer before it. -/
def numbered : List Value → Int → List LayerEntry
  | [], _ => []
  | v :: vs, next =>
    let e : LayerEntry := ⟨v, (v.get? "sequence").getD (.int next)⟩
    e :: numbered vs (e.number + 1)

/-- The position that a sequence number stands for; negative numbers count from the last possible layer. -/
def placeOf (limits : Limits) (n : Int) : Nat := if 0 ≤ n then n.toNat else (limits.layers + n).toNat

def Reads (limits : Limits) (e : LayerEntry) (l : LayerConfig) : Prop :=
  ∃ s t, (readLayer limits e).run s = .ok l t

def changesOf (vs : List Value) : List (Nat × Value) := vs.foldl (fun c v => narrowing v ++ c) []

def commonPaddingOf (vs : List Value) : List Value :=
  [.int 1, .int (if vs.any narrowsCommonPadding then 0 else 1)]

theorem position_ok {n : Int} (run : (position limits e).run s = .ok (place, n) t) :
    n = e.number ∧ place = placeOf limits e.number ∧ ∃ warnings, t = { s with warnings := warnings } := by
  obtain ⟨above, _, compared, run⟩ := bind_ok.mp run
  obtain ⟨warnings, rfl⟩ := (isAbove_settles _ _).quiet compared
  obtain ⟨-, run⟩ := refuse_ok run
  cases number : e.sequence.int? with
  | none =>
    rw [number] at run
    exact (throw_ok.mp run).elim
  | some k =>
    have same : e.number = k := by rw [LayerEntry.number, number, Option.getD_some]
    rw [number] at run
    dsimp only at run
    split at run
    · rename_i positive
      obtain ⟨found, rfl⟩ := pure_ok.mp run
      obtain ⟨rfl, rfl⟩ := Prod.mk.inj found
      exact ⟨same.symm, by rw [same, placeOf, if_pos positive], warnings, rfl⟩
    · rename_i negative
      split at run
      · obtain ⟨found, rfl⟩ := pure_ok.mp run
        obtain ⟨rfl, rfl⟩ := Prod.mk.inj found
        exact ⟨same.symm, by rw [same, placeOf, if_neg negative], warnings, rfl⟩
      · exact (throw_ok.mp run).elim

theorem addLayer_ok (run : (addLayer limits v next).run s = .ok m t)
    (entry : e = ⟨v, (v.get? "sequence").getD (.int next)⟩) :
    m = e.number + 1 ∧ s.layers.lookup (placeOf limits e.number) = none ∧
      ∃ l warnings u, (readLayer limits e).run { s with warnings := warnings } = .ok l u ∧
        t = { u with layers := insertLayer (placeOf limits e.number) l u.layers } := by
  subst entry
  -- Entries with unknown keys are refused before anything is read.
  have refused : ∀ {f : ConfigFault} {g : PUnit → Configure Int} {s : ConfigState},
      ((throw f : Configure PUnit) >>= g).run s ≠ .ok m t := by
    intro f g s run
    obtain ⟨_, _, stopped, -⟩ := bind_ok.mp run
    exact throw_ok.mp stopped
  obtain ⟨shown, _, showing, run⟩ := bind_ok.mp run
  obtain ⟨rfl, rfl⟩ := present_ok.mp showing
  extract_lets rest at run
  split at run
  · exact (refused run).elim
  · exact (refused run).elim
  · obtain ⟨found, _, looked, run⟩ := bind_ok.mp run
    obtain ⟨w₁, rfl⟩ := (find?_settles _ _).quiet looked
    obtain rfl := (find?_settles _ _).gives looked
    obtain ⟨⟨place, n⟩, _, placed, run⟩ := bind_ok.mp run
    obtain ⟨rfl, rfl, w₂, rfl⟩ := position_ok placed
    obtain ⟨_, _, got, run⟩ := bind_ok.mp run
    obtain ⟨rfl, rfl⟩ := get_ok.mp got
    obtain ⟨fresh, run⟩ := refuse_ok run
    obtain ⟨l, u, read, run⟩ := bind_ok.mp run
    obtain ⟨_, _, inserted, run⟩ := bind_ok.mp run
    obtain rfl := modify_ok.mp inserted
    obtain ⟨rfl, rfl⟩ := pure_ok.mp run
    exact ⟨rfl, Option.not_isSome_iff_eq_none.mp fresh, l, w₂, u, read, rfl⟩

theorem insertLayer_perm (place : Nat) (l : LayerConfig) (xs : List (Nat × LayerConfig)) :
    (insertLayer place l xs).Perm ((place, l) :: xs) := by
  induction xs with
  | nil => exact .refl _
  | cons x xs ih =>
    unfold insertLayer
    split
    · exact .refl _
    · exact (ih.cons x).trans (.swap _ _ _)

theorem insertLayer_sorted (l : LayerConfig) {xs : List (Nat × LayerConfig)} (sorted : xs.Pairwise (·.1 < ·.1))
    (fresh : ∀ x ∈ xs, x.1 ≠ place) : (insertLayer place l xs).Pairwise (·.1 < ·.1) := by
  induction xs with
  | nil => simp [insertLayer]
  | cons x xs ih =>
    obtain ⟨above, sorted⟩ := pairwise_cons.mp sorted
    unfold insertLayer
    split
    · rename_i below
      refine pairwise_cons.mpr ⟨fun y member => ?_, pairwise_cons.mpr ⟨above, sorted⟩⟩
      rcases mem_cons.mp member with rfl | member
      · exact below
      · exact Nat.lt_trans below (above y member)
    · rename_i not_below
      refine pairwise_cons.mpr ⟨fun y member => ?_, ih sorted fun y member => fresh y (by simp [member])⟩
      rcases mem_cons.mp ((insertLayer_perm place l xs).mem_iff.mp member) with rfl | member
      · have other : x.1 ≠ place := fresh x (by simp)
        show x.1 < place
        omega
      · exact above y member

structure Reading (limits : Limits) (es : List LayerEntry) (s : ConfigState) : Prop where
  sorted : s.layers.Pairwise (·.1 < ·.1)
  places : (s.layers.map Prod.fst).Perm (es.map fun e => placeOf limits e.number)
  each : ∀ e ∈ es, ∃ l, (placeOf limits e.number, l) ∈ s.layers ∧ Reads limits e l
  commonPadding : s.commonPadding = commonPaddingOf (es.map LayerEntry.entries)
  changed : s.changed = changesOf (es.map LayerEntry.entries)

theorem Reading.start (limits : Limits) : Reading limits [] {} where
  sorted := .nil
  places := .nil
  each := by simp
  commonPadding := rfl
  changed := rfl

theorem Reading.add (reading : Reading limits es s) (run : (addLayer limits v next).run s = .ok m t)
    (entry : e = ⟨v, (v.get? "sequence").getD (.int next)⟩) : Reading limits (es ++ [e]) t := by
  obtain ⟨-, fresh, l, warnings, u, read, rfl⟩ := addLayer_ok run entry
  have from_entry := readLayer_ok read
  have layers : u.layers = s.layers := from_entry.layers
  have unused : ∀ x ∈ u.layers, x.1 ≠ placeOf limits e.number := by
    intro x member same
    rw [layers] at member
    have missing := lookup_eq_none_iff.mp fresh x member
    simp [same] at missing
  have inserted := insertLayer_perm (placeOf limits e.number) l u.layers
  refine ⟨insertLayer_sorted l (layers ▸ reading.sorted) unused, ?_, ?_, ?_, ?_⟩
  · refine (inserted.map Prod.fst).trans ?_
    rw [map_append, layers]
    exact (reading.places.cons _).trans (perm_append_singleton _ _).symm
  · intro e' member
    rcases mem_append.mp member with earlier | here
    · obtain ⟨l', there, read'⟩ := reading.each e' earlier
      exact ⟨l', inserted.mem_iff.mpr (by simp [layers, there]), read'⟩
    · obtain rfl := mem_singleton.mp here
      exact ⟨l, inserted.mem_iff.mpr (by simp), _, _, read⟩
  · have padding : u.commonPadding = if narrowsCommonPadding e.entries then s.commonPadding.set 1 (.int 0)
        else s.commonPadding := from_entry.commonPadding
    rw [reading.commonPadding] at padding
    cases narrows : narrowsCommonPadding e.entries <;>
      simp [padding, narrows, commonPaddingOf]
  · have changed : u.changed = narrowing e.entries ++ s.changed := from_entry.changed
    rw [reading.changed] at changed
    simp [changed, changesOf]

theorem Reading.addLayers {vs : List Value} (reading : Reading limits es s)
    (run : (addLayers limits vs next).run s = .ok ⟨⟩ t) : Reading limits (es ++ numbered vs next) t := by
  induction vs generalizing es next s with
  | nil =>
    obtain ⟨-, rfl⟩ := pure_ok.mp run
    simpa [numbered] using reading
  | cons v vs ih =>
    obtain ⟨m, _, added, run⟩ := bind_ok.mp run
    have read := ih (reading.add added rfl) run
    rw [(addLayer_ok added rfl).1, append_assoc] at read
    exact read

def finished (l : LayerConfig) : LayerConfig :=
  match l.poolStride.toList with
  | .null :: _ => { l with poolStride := .ofInts 1 1 }
  | _ => l

theorem finishLayer_settles (l : LayerConfig) (index : Nat) :
    Settles (fun l' => l' = finished l) (finishLayer l index) := by
  unfold finishLayer
  extract_lets e rest warned
  have checked : ∀ m, Settles (fun l' => l' = m) (rest m) := by
    intro m
    have failed : ∀ {f : ConfigFault} {g : PUnit → Configure LayerConfig},
        Settles (fun l' => l' = m) ((throw f : Configure PUnit) >>= g) :=
      .throw_bind
    refine .ite (fun _ => .pure rfl) fun _ => .guard fun _ => ?_
    cases m.pool.toList with
    | nil => exact failed
    | cons p ps =>
      refine .ite (fun _ => ?_) fun _ => .pure rfl
      cases ps with
      | nil => exact failed
      | cons q _ => exact .guard fun _ => .pure rfl
  unfold finished
  cases l.poolStride.toList with
  | nil => exact .throw_bind
  | cons x xs =>
    cases x with
    | null =>
      refine .ite (fun _ => .bind (.warn _) fun _ _ => ?_) fun _ => ?_
      all_goals
        refine .pure_bind ?_
        exact checked _
    | _ =>
      refine .pure_bind ?_
      exact checked _

theorem finishLayers_ok {ls ls' : List LayerConfig} {index : Nat}
    (run : (finishLayers ls index).run s = .ok ls' t) : ls' = ls.map finished := by
  induction ls generalizing index s t ls' with
  | nil => exact (pure_ok.mp run).1.symm
  | cons l ls ih =>
    obtain ⟨l', _, first, run⟩ := bind_ok.mp run
    obtain ⟨rest, _, others, run⟩ := bind_ok.mp run
    obtain ⟨rfl, -⟩ := pure_ok.mp run
    rw [(finishLayer_settles l index).gives first, ih others, map_cons]

def layerEntries (entries : Value) : Option (List Value) :=
  (elementsOf ((entries.get? "layers").getD .null)).toOption

theorem readNetwork_run {entries : Value} {n : NetworkConfig} (run : (readNetwork limits entries).run {} = .ok n t) :
    ∃ vs u t', layerEntries entries = some vs ∧ Reading limits (numbered vs 0) u ∧
      (finishLayers (u.layers.map fun x => resolveLayer u x.2) 0).run u = .ok n.layers t' := by
  unfold readNetwork at run
  extract_lets lift at run
  have lifted : ∀ {α : Type} {x : Except Failure α} {a : α} {s t : ConfigState},
      (lift x).run s = .ok a t → x = .ok a ∧ t = s := by
    intro α x a s t run
    cases x with
    | ok b =>
      obtain ⟨rfl, rfl⟩ := pure_ok.mp run
      exact ⟨rfl, rfl⟩
    | error f => exact (throw_ok.mp run).elim
  obtain ⟨_, _, known, run⟩ := bind_ok.mp run
  obtain ⟨-, rfl⟩ := lifted known
  obtain ⟨-, run⟩ := refuse_ok run
  obtain ⟨keys, _, listed, run⟩ := bind_ok.mp run
  obtain ⟨-, rfl⟩ := lifted listed
  split at run
  · obtain ⟨layers, _, found, run⟩ := bind_ok.mp run
    obtain ⟨given, rfl⟩ := lifted found
    obtain ⟨vs, _, listed, run⟩ := bind_ok.mp run
    obtain ⟨elements, rfl⟩ := lifted listed
    obtain ⟨_, _, added, run⟩ := bind_ok.mp run
    obtain ⟨u, _, got, run⟩ := bind_ok.mp run
    obtain ⟨rfl, rfl⟩ := get_ok.mp got
    obtain ⟨ls, _, ended, run⟩ := bind_ok.mp run
    obtain ⟨rfl, -⟩ := pure_ok.mp run
    refine ⟨vs, _, _, ?_, by simpa using (Reading.start limits).addLayers added, ended⟩
    rw [layerEntries, ← setting?_ok given, elements]
    rfl
  · obtain ⟨_, _, stopped, -⟩ := bind_ok.mp run
    exact (throw_ok.mp stopped).elim

theorem readNetwork_ok {entries : Value} {n : NetworkConfig} (run : (readNetwork limits entries).run {} = .ok n t) :
    ∃ vs u, layerEntries entries = some vs ∧ Reading limits (numbered vs 0) u ∧
      n.layers = u.layers.map fun x => finished (resolveLayer u x.2) := by
  obtain ⟨vs, u, _, given, reading, ended⟩ := readNetwork_run run
  refine ⟨vs, u, given, reading, ?_⟩
  rw [finishLayers_ok ended, map_map]
  rfl

end

end CnnForge.Config
