import CnnForge.Proofs.SettledReading

namespace CnnForge

namespace Text

theorem trimBlanks_cons {c : Char} (visible : isBlank c = false) (cs : List Char) :
    ∃ rest, trimBlanks (c :: cs) = c :: rest := by
  have ended : ∀ xs : List Char, ∃ ys, (xs ++ [c]).dropWhile isBlank = ys ++ [c] := by
    intro xs
    induction xs with
    | nil => exact ⟨[], by simp [visible]⟩
    | cons x xs ih =>
      rw [List.cons_append, List.dropWhile_cons]
      split
      · exact ih
      · exact ⟨x :: xs, rfl⟩
  obtain ⟨ys, found⟩ := ended cs.reverse
  rw [trimBlanks, List.dropWhile_cons, visible, if_neg (by decide), List.reverse_cons, found]
  simp

theorem readInt?_bracket {s : String} {c : Char} (starts : s.toList.head? = some c)
    (bracket : c = '[' ∨ c = '\x7b') : readInt? 10 s = none := by
  obtain ⟨cs, starts⟩ := List.head?_eq_some_iff.mp starts
  have visible : isBlank c = false := by rcases bracket with rfl | rfl <;> decide
  obtain ⟨rest, trimmed⟩ := trimBlanks_cons visible cs
  have numberless : ∀ r, numeral? 10 (c :: r) = none := by
    intro r
    rcases bracket with rfl | rfl <;> rfl
  simp only [readInt?, starts, trimmed]
  rcases bracket with rfl | rfl <;> simp [numberless]

end Text

namespace Config

open Outcome

section

variable (e : LayerEntry)

theorem readProcessors_settles (limits : Limits) (key : String) (v : Value) :
    Settles (Given e) (readProcessors e limits key v) := by
  unfold readProcessors
  extract_lets w
  cases number : w.int? with
  | some n => exact .guard fun _ => .pure (.int? number)
  | none => exact .throw

theorem processorSettings_settles (limits : Limits) (l : LayerConfig) :
    Settles (Unlinked e l) (processorSettings limits e l) := by
  refine .ite (fun _ => ?_) fun _ => .pure ⟨rfl, ?_⟩
  · refine .bind (value_settles e _ _) fun v _ => ?_
    refine .guard fun _ => ?_
    refine .bind (readProcessors_settles e limits _ v) fun processors given => ?_
    refine .bind (find?_settles e _) fun found _ => ?_
    extract_lets finish
    have finished : ∀ w, Given e w → Settles (Unlinked e l) (finish w) := by
      intro w given'
      have first := (TakesFrom.refl l).value given (fun m v => { m with processors := v }) fun _ _ _ => ⟨rfl, rfl⟩
      exact .pure ⟨rfl, first.value given' (fun m v => { m with outputProcessors := v }) fun _ _ _ => ⟨rfl, rfl⟩⟩
    cases found with
    | some v => exact .bind (readProcessors_settles e limits _ v) finished
    | none => exact .bind (.pure (.fixed fun _ => rfl)) finished
  · exact (TakesFrom.refl l).plain (fun m => { m with processors := .int 1 }) fun _ _ => ⟨rfl, rfl⟩

def poolOf (v : Value) : ListSetting :=
  ((["max_pool", "avg_pool"].findSome? (v.get? ·)).map .ofValue).getD (.ofInts 1 1)

def poolStrideOf (v : Value) : ListSetting := ((v.get? "pool_stride").map .ofValue).getD (.own [.null, .null])

def Links.withPools (k : Links) (v : Value) : Links := { k with pool := poolOf v, poolStride := poolStrideOf v }

section

variable (l : LayerConfig)

theorem poolSettings_settles (window : l.pool = .ofInts 1 1)
    (stride : l.poolStride = .own [.null, .null]) :
    Settles (fun l' => linksOf l' = (linksOf l).withPools e.entries ∧ TakesFrom e l l') (poolSettings e l) := by
  refine .bind (findFirst?_settles e _) fun found same => ?_
  extract_lets rest
  have strided : ∀ m : LayerConfig, linksOf m = { linksOf l with pool := poolOf e.entries } → TakesFrom e l m →
      Settles (fun l' => linksOf l' = (linksOf l).withPools e.entries ∧ TakesFrom e l l') (rest m) := by
    intro m links takes
    refine .bind (find?_settles e _) fun found same => ?_
    cases found with
    | some v =>
      refine .pure ⟨?_, takes.list (Given.get? same.symm).ofValue (fun m x => { m with poolStride := x })
        fun _ _ _ => ⟨rfl, rfl⟩⟩
      simp only [Links.withPools, poolStrideOf, ← same]
      exact congrArg (fun k : Links => { k with poolStride := .ofValue v }) links
    | none =>
      refine .pure ⟨?_, takes⟩
      simp only [Links.withPools, poolStrideOf, ← same, ← stride]
      exact links
  cases found with
  | some found =>
    obtain ⟨key, v⟩ := found
    refine strided _ ?_ ((TakesFrom.refl l).list (Given.first same.symm).ofValue
      (fun m x => { m with pool := x, pooling := true, average := key == "avg_pool" }) fun _ _ _ => ⟨rfl, rfl⟩)
    simp [linksOf, poolOf, ← same]
  | none =>
    refine strided l ?_ (.refl l)
    simp [poolOf, ← same, ← window, linksOf]

theorem quantizationSetting_settles : Settles (Unlinked e l) (quantizationSetting e l) := by
  unfold quantizationSetting
  refine .bind (find?_settles e _) fun found same => ?_
  cases found with
  | none => exact .pure ⟨rfl, .refl l⟩
  | some v =>
    dsimp -zeta only
    extract_lets w
    have given : Given e w := by
      cases v with
      | text s => exact .fixed fun _ => rfl
      | _ => exact .get? same.symm
    refine .ite (fun _ => .pure ⟨rfl, ?_⟩) fun _ => ?_
    · exact (TakesFrom.refl l).plain (fun m => { m with quantization := .int (-1) }) fun _ _ => ⟨rfl, rfl⟩
    · refine .ite (fun _ => .pure ⟨rfl, ?_⟩) fun _ => ?_
      · exact (TakesFrom.refl l).value given (fun m v => { m with quantization := v }) fun _ _ _ => ⟨rfl, rfl⟩
      · exact .throw_bind

theorem value_given (key : String) {default : Value} (same : ∀ c, updated c default = default) :
    Settles (Given e) (e.value key default) :=
  (value_settles e key default).mono fun _ found => found ▸ (Given.fixed same).getD key

theorem dataSettings_settles : Settles (Unlinked e l) (dataSettings e l) := by
  unfold dataSettings
  refine .bind (value_given e _ fun _ => rfl) fun outputShift shift_given => ?_
  refine .bind (value_given e _ fun _ => rfl) fun inputChannels channels_given => ?_
  refine .bind (value_given e _ fun _ => rfl) fun inputDim dim_given => ?_
  extract_lets _ rest
  refine .guard fun _ => ?_
  refine .bind (value_given e _ fun _ => rfl) fun inputSkip skip_given => ?_
  refine .bind (value_given e _ fun _ => rfl) fun inputChannelSkip channelSkip_given => ?_
  refine .bind (value_given e _ fun _ => rfl) fun inputOffset offset_given => ?_
  refine .bind (value_given e _ fun _ => rfl) fun outputChannels outputs_given => ?_
  refine .bind (find?_settles e _) fun found same => ?_
  extract_lets finish
  have finished : ∀ w, Given e w → Settles (Unlinked e l) (finish w) := by
    intro w given
    have shift := (TakesFrom.refl l).value shift_given (fun m v => { m with outputShift := v }) fun _ _ _ => ⟨rfl, rfl⟩
    have channels := shift.value channels_given (fun m v => { m with inputChannels := v }) fun _ _ _ => ⟨rfl, rfl⟩
    have dim := channels.value dim_given (fun m v => { m with inputDim := v }) fun _ _ _ => ⟨rfl, rfl⟩
    have skip := dim.value skip_given (fun m v => { m with inputSkip := v }) fun _ _ _ => ⟨rfl, rfl⟩
    have channelSkip := skip.value channelSkip_given (fun m v => { m with inputChannelSkip := v })
      fun _ _ _ => ⟨rfl, rfl⟩
    have offset := channelSkip.value offset_given (fun m v => { m with inputOffset := v }) fun _ _ _ => ⟨rfl, rfl⟩
    have outputs := offset.value outputs_given (fun m v => { m with outputChannels := v }) fun _ _ _ => ⟨rfl, rfl⟩
    exact .pure ⟨rfl, outputs.value given (fun m v => { m with outputOffset := v }) fun _ _ _ => ⟨rfl, rfl⟩⟩
  cases found with
  | some v => exact .bind (.pure (.get? same.symm)) finished
  | none =>
    refine .bind (.warn _) fun _ _ => ?_
    exact .bind (.pure (.fixed fun _ => rfl)) finished

theorem activationSetting_settles : Settles (Unlinked e l) (activationSetting e l) := by
  unfold activationSetting
  refine .bind (findFirst?_settles e _) fun found _ => ?_
  have activated : ∀ a, Unlinked e l { l with activation := a } := fun a =>
    ⟨rfl, (TakesFrom.refl l).plain (fun m => { m with activation := a }) fun _ _ => ⟨rfl, rfl⟩⟩
  cases found with
  | none => exact .pure ⟨rfl, .refl l⟩
  | some found =>
    refine .bind (lowerCase_settles _) fun name _ => ?_
    split
    · exact .pure (activated _)
    · exact .pure (activated _)
    · exact .pure (activated _)
    · exact .throw

def operatorOf (v : Value) : Option String :=
  ((["convolution", "operation", "operator", "op"].findSome? (v.get? ·)).bind Value.text?).map String.toLower

def isOneDimensional (v : Value) : Bool := operatorOf v == some "conv1d"

/-- Whether the operator leaves the padding to the other settings. -/
def keepsPadding (v : Value) : Bool :=
  (operatorOf v).all fun name => ["conv1d", "conv2d", "convtranspose2d"].contains name

def usesCommonPadding (v : Value) : Bool := (v.get? "pad").isNone && keepsPadding v

def Links.withOperator (k : Links) (v : Value) (operator : Operator) : Links :=
  { k with operator := operator, padding := if keepsPadding v then .common else .ofInts 0 0 }

theorem operatorSetting_settles (plain : l.operator = .conv2d) (common : l.padding = .common) :
    Settles (fun l' => (∃ operator, linksOf l' = (linksOf l).withOperator e.entries operator ∧
      (operator = .conv1d ↔ isOneDimensional e.entries = true)) ∧ TakesFrom e l l') (operatorSetting e l) := by
  unfold operatorSetting
  refine .bind (findFirst?_settles e _) fun found same => ?_
  cases found with
  | none =>
    have unnamed : operatorOf e.entries = none := by simp [operatorOf, ← same]
    refine .bind (.warn _) fun _ _ => .pure ⟨⟨.conv2d, ?_, ?_⟩, .refl l⟩
    · simp [Links.withOperator, keepsPadding, unnamed, linksOf, plain, common]
    · simp [isOneDimensional, unnamed]
  | some found =>
    obtain ⟨key, v⟩ := found
    dsimp -zeta only
    extract_lets passing
    refine .bind (lowerCase_settles v) ?_
    rintro name ⟨s, rfl, rfl⟩
    have named : operatorOf e.entries = some s.toLower := by simp [operatorOf, ← same, Value.text?]
    have zero : GivenList e (.ofInts 0 0) := fun _ _ _ _ _ => rfl
    have passes : TakesFrom e l passing :=
      ((TakesFrom.refl l).plain (fun m => { m with operator := .passthrough }) fun _ _ => ⟨rfl, rfl⟩).padding zero
    have linear : TakesFrom e l { l with operator := .linear, kernelSize := (1, 1), padding := .ofInts 0 0 } :=
      ((TakesFrom.refl l).plain (fun m => { m with operator := .linear, kernelSize := (1, 1) })
        fun _ _ => ⟨rfl, rfl⟩).padding zero
    have operates : ∀ operator, TakesFrom e l { l with operator := operator } := fun operator =>
      (TakesFrom.refl l).plain (fun m => { m with operator := operator }) fun _ _ => ⟨rfl, rfl⟩
    have kept : keepsPadding e.entries = ["conv1d", "conv2d", "convtranspose2d"].contains s.toLower := by
      simp [keepsPadding, named]
    have one : isOneDimensional e.entries = (s.toLower == "conv1d") := by simp [isOneDimensional, named]
    split
    · rename_i is
      exact .pure ⟨⟨.conv1d, by simp [Links.withOperator, kept, linksOf, common, is], by simp [one, is]⟩, operates _⟩
    · rename_i is
      exact .pure ⟨⟨.conv2d, by simp [Links.withOperator, kept, linksOf, common, is], by simp [one, is]⟩, operates _⟩
    · rename_i is
      exact .pure ⟨⟨.convTranspose2d, by simp [Links.withOperator, kept, linksOf, common, is], by simp [one, is]⟩, operates _⟩
    · rename_i is
      exact .pure ⟨⟨.passthrough, by simp [Links.withOperator, kept, linksOf, passing, is], by simp [one, is]⟩, passes⟩
    · rename_i is
      exact .pure ⟨⟨.passthrough, by simp [Links.withOperator, kept, linksOf, passing, is], by simp [one, is]⟩, passes⟩
    · rename_i is
      exact .pure ⟨⟨.linear, by simp [Links.withOperator, kept, linksOf, is], by simp [one, is]⟩, linear⟩
    · rename_i is
      exact .pure ⟨⟨.linear, by simp [Links.withOperator, kept, linksOf, is], by simp [one, is]⟩, linear⟩
    · rename_i is
      exact .pure ⟨⟨.linear, by simp [Links.withOperator, kept, linksOf, is], by simp [one, is]⟩, linear⟩
    · rename_i not_conv1d not_conv2d not_transposed _ _ _ _ _
      have unlisted : ["conv1d", "conv2d", "convtranspose2d"].contains s.toLower = false := by
        simpa using And.intro not_conv1d ⟨not_conv2d, not_transposed⟩
      cases elementwise? s.toLower with
      | none => exact .throw
      | some w =>
        refine .pure ⟨⟨.passthrough, ?_, by simpa [one] using not_conv1d⟩,
          passes.plain (fun m => { m with elementwise := w, operands := .int 2 }) fun _ _ => ⟨rfl, rfl⟩⟩
        rw [Links.withOperator, kept, unlisted]
        rfl

def Links.withPadding (k : Links) (v : Value) : Links :=
  { k with padding := ((v.get? "pad").map .both).getD k.padding }

theorem shapeSettings_settles :
    Settles (fun l' => linksOf l' = (linksOf l).withPadding e.entries ∧ TakesFrom e l l') (shapeSettings e l) := by
  unfold shapeSettings
  refine .bind (find?_settles e _) fun found same => ?_
  extract_lets rest
  have dilated : ∀ m : LayerConfig, linksOf m = (linksOf l).withPadding e.entries → TakesFrom e l m →
      Settles (fun l' => linksOf l' = (linksOf l).withPadding e.entries ∧ TakesFrom e l l') (rest m) := by
    intro m links takes
    refine .bind (find?_settles e _) fun found same => ?_
    cases found with
    | some v =>
      refine .guard fun _ => .pure ⟨links, ?_⟩
      exact takes.list (Given.get? same.symm).ofValue (fun m x => { m with dilation := x }) fun _ _ _ => ⟨rfl, rfl⟩
    | none => exact .pure ⟨links, takes⟩
  cases found with
  | some v =>
    refine .bind (isBelow_settles v 0) fun below _ => ?_
    refine .guard fun _ => ?_
    refine .pure_bind ?_
    refine dilated _ ?_ ((TakesFrom.refl l).padding (Given.get? same.symm).both)
    simp [linksOf, Links.withPadding, ← same]
  | none =>
    refine .pure_bind ?_
    exact dilated l (by simp [linksOf, Links.withPadding, ← same]) (.refl l)

theorem operandSettings_settles : Settles (Unlinked e l) (operandSettings e l) := by
  unfold operandSettings
  refine .bind (find?_settles e _) fun found same => ?_
  extract_lets rest
  have combined : ∀ m, Unlinked e l m → Settles (Unlinked e l) (rest m) := by
    rintro m ⟨links, takes⟩
    refine .bind (flag_settles e _ _) fun first _ => ?_
    extract_lets m'
    have takes' : TakesFrom e l m' := takes.plain (fun m => { m with poolFirst := first }) fun _ _ => ⟨rfl, rfl⟩
    refine .bind (find?_settles e _) fun found same => ?_
    cases found with
    | none => exact .pure ⟨links, takes'⟩
    | some v =>
      have given : Unlinked e l { m' with operands := v } :=
        ⟨links, takes'.value (.get? same.symm) (fun m v => { m with operands := v }) fun _ _ _ => ⟨rfl, rfl⟩⟩
      refine .ite (fun _ => ?_) fun _ => .throw_bind
      refine .bind (isBelow_settles v 2) fun below _ => .guard fun _ => ?_
      refine .bind (isAbove_settles v 16) fun above _ => .guard fun _ => ?_
      exact .pure given
  cases found with
  | none => exact .bind (.pure ⟨rfl, .refl l⟩) combined
  | some v =>
    refine .bind (lowerCase_settles v) fun name _ => ?_
    cases elementwise? name with
    | none => exact .throw_bind
    | some w =>
      refine .bind (.pure ⟨rfl, ?_⟩) combined
      exact (TakesFrom.refl l).plain (fun m => { m with elementwise := w, operands := .int 2 }) fun _ _ => ⟨rfl, rfl⟩

theorem formatSettings_settles : Settles (Unlinked e l) (formatSettings e l) := by
  unfold formatSettings
  refine .bind (find?_settles e _) fun found same => ?_
  extract_lets rest
  have formatted : ∀ m, Unlinked e l m → Settles (Unlinked e l) (rest m) := by
    rintro m ⟨links, takes⟩
    refine .bind (find?_settles e _) fun found same => ?_
    cases found with
    | none => exact .pure ⟨links, takes⟩
    | some v =>
      refine .ite (fun _ => .pure ⟨links, ?_⟩) fun _ =>
        .throw_bind
      exact takes.value (.get? same.symm) (fun m v => { m with outputWidth := v }) fun _ _ _ => ⟨rfl, rfl⟩
  have big : Unlinked e l { l with bigData := true } :=
    ⟨rfl, (TakesFrom.refl l).plain (fun m => { m with bigData := true }) fun _ _ => ⟨rfl, rfl⟩⟩
  cases found with
  | none => exact .bind (.pure ⟨rfl, .refl l⟩) formatted
  | some v =>
    refine .bind (lowerCase_settles v) fun name _ => ?_
    split
    · exact .bind (.pure big) formatted
    · exact .bind (.pure big) formatted
    · exact .bind (.pure ⟨rfl, .refl l⟩) formatted
    · exact .bind (.pure ⟨rfl, .refl l⟩) formatted
    · exact .throw_bind

theorem updated_shown (v : Value) : (∀ c, updated c v = v) ∨
    ∃ first, (first = '[' ∨ first = '\x7b') ∧ ∀ c, (updated c v).shown.toLower.toList.head? = some first := by
  have lower (s : String) : s.toLower = s.map Char.toLower := rfl
  cases v with
  | list xs | named n xs =>
    refine .inr ⟨'[', .inl rfl, fun c => ?_⟩
    simp only [updated, Value.shown, Value.quoted, lower, String.toList_map, String.toList_append]
    rfl
  | table es =>
    refine .inr ⟨'\x7b', .inr rfl, fun c => ?_⟩
    simp only [updated, Value.shown, Value.quoted, lower, String.toList_map, String.toList_append]
    rfl
  | _ => exact .inl fun _ => rfl

theorem kernelsOfSize_settles (size : String) :
    Settles (Unlinked e l) (kernelsOfSize e l size) := by
  have sized : ∀ size, Unlinked e l { l with kernelSize := size } := fun size =>
    ⟨rfl, (TakesFrom.refl l).plain (fun m => { m with kernelSize := size }) fun _ _ => ⟨rfl, rfl⟩⟩
  unfold kernelsOfSize
  split
  · split
    · exact .pure (sized _)
    · exact .pure (sized _)
    · exact .throw
  · exact .ite (fun _ => .pure (sized _)) fun _ => .throw
  · split
    · exact .guard fun _ => .pure (sized _)
    · exact .throw

theorem kernelsOfSize_bracket {size : String} {first : Char}
    (starts : size.toList.head? = some first) (bracket : first = '[' ∨ first = '\x7b') (s : ConfigState)
    (m : LayerConfig) (t : ConfigState) : (kernelsOfSize e l size).run s ≠ .ok m t := by
  have other : ∀ text : String, text.toList.head? ≠ some '[' → text.toList.head? ≠ some '\x7b' → size ≠ text := by
    rintro text square curly rfl
    rcases bracket with rfl | rfl
    · exact square starts
    · exact curly starts
  intro run
  unfold kernelsOfSize at run
  split at run
  · split at run
    · exact other "1x1" (by decide) (by decide) rfl
    · exact other "3x3" (by decide) (by decide) rfl
    · exact throw_ok.mp run
  · split at run
    · exact other "3x3" (by decide) (by decide) (beq_iff_eq.mp ‹_›)
    · exact throw_ok.mp run
  · rw [Text.readInt?_bracket starts bracket] at run
    exact throw_ok.mp run

theorem kernelSetting_settles : Settles (Unlinked e l) (kernelSetting e l) := by
  unfold kernelSetting
  refine .bind (find?_settles e _) fun found same => ?_
  cases found with
  | none =>
    refine .ite (fun _ => .pure ⟨rfl, ?_⟩) fun _ => .pure ⟨rfl, .refl l⟩
    exact (TakesFrom.refl l).plain (fun m => { m with kernelSize := (9, 1) }) fun _ _ => ⟨rfl, rfl⟩
  | some v =>
    refine .guard fun _ => ?_
    rcases updated_shown v with scalar | ⟨first, bracket, shown⟩
    · refine .bind (present_settles scalar) fun w _ => kernelsOfSize_settles e l _
    · refine .never fun s m t run => ?_
      obtain ⟨w, _, showing, run⟩ := bind_ok.mp run
      obtain ⟨rfl, -⟩ := present_ok.mp showing
      exact kernelsOfSize_bracket e l (shown _) bracket _ _ _ run

theorem strideValue_settles {v : Value} (given : Given e v) : Settles (Given e) (strideValue e v) := by
  cases elements : v.list? with
  | none =>
    refine .determined given fun s w t run => ?_
    obtain ⟨_, _, showing, run⟩ := bind_ok.mp run
    obtain ⟨-, rfl⟩ := present_ok.mp showing
    rw [elements] at run
    obtain ⟨rfl, rfl⟩ := pure_ok.mp run
    exact ⟨rfl, rfl⟩
  | some xs =>
    cases xs with
    | nil =>
      refine .never fun s w t run => ?_
      obtain ⟨_, _, _, run⟩ := bind_ok.mp run
      rw [elements] at run
      exact throw_ok.mp run
    | cons x xs =>
      refine .determined (given.list? elements) fun s w t run => ?_
      obtain ⟨_, _, showing, run⟩ := bind_ok.mp run
      obtain ⟨-, rfl⟩ := present_ok.mp showing
      rw [elements] at run
      split at run
      · rename_i same _
        obtain ⟨rfl, rfl⟩ := List.cons.inj (Option.some.inj same)
        split at run
        · obtain ⟨rfl, rfl⟩ := pure_ok.mp run
          exact ⟨rfl, rfl⟩
        · obtain ⟨_, _, stopped, -⟩ := bind_ok.mp run
          exact (throw_ok.mp stopped).elim
      · exact (throw_ok.mp run).elim
      · rename_i missing
        cases missing

def Links.withStride (k : Links) (xs : List Value) : Links := { k with stride := .own xs }

theorem strideSetting_settles (own : ∃ xs, l.stride = .own xs) :
    Settles (fun l' => (∃ xs, linksOf l' = (linksOf l).withStride xs) ∧ TakesFrom e l l') (strideSetting e l) := by
  obtain ⟨xs, own⟩ := own
  have unchanged : (∃ xs, linksOf l = (linksOf l).withStride xs) ∧ TakesFrom e l l :=
    ⟨⟨xs, by simp [Links.withStride, linksOf, own]⟩, .refl l⟩
  unfold strideSetting
  refine .bind (find?_settles e _) fun found same => ?_
  cases found with
  | none => exact .pure unchanged
  | some v =>
    refine .bind (strideValue_settles e (.get? same.symm)) fun w given => ?_
    refine .ite (fun _ => .ite (fun _ => .pure unchanged) fun _ => ?_) fun _ => ?_
    · exact .throw_bind
    · refine .guard fun _ => .pure ⟨⟨[w, w], rfl⟩, ?_⟩
      exact (TakesFrom.refl l).list given.both (fun m x => { m with stride := x }) fun _ _ _ => ⟨rfl, rfl⟩

/-- The numbers of the layers that an entry takes its input from, as a list. -/
def inSequencesOf (v : Value) : Value :=
  match v.get? "in_sequences" with
  | some w => if w.list?.isSome then w else .list [w]
  | none => .null

def Links.withSequences (k : Links) (v : Value) : Links :=
  { k with
    inSequences := inSequencesOf v
    nextSequence := sequenceOrStop ((v.get? "next_sequence").getD .null)
    simulatedSequence := sequenceOrStop ((v.get? "simulated_sequence").getD .null)
    snoopSequence := (v.get? "snoop_sequence").getD .null }

theorem Given.sequenceOrStop {v : Value} (given : Given e v) : Given e (sequenceOrStop v) := by
  cases v with
  | text s =>
    refine .fixed fun c => ?_
    simp only [Config.sequenceOrStop]
    split <;> rfl
  | _ => exact given

theorem given_inSequences : Given e (inSequencesOf e.entries) := by
  unfold inSequencesOf
  cases found : e.entries.get? "in_sequences" with
  | none => exact .fixed fun _ => rfl
  | some w =>
    dsimp only
    split
    · exact .get? found
    · intro c c' entries
      have alike : updated c w = updated c' w := entries.get? found
      simp [Alike, updated, updatedList, alike]

theorem sequenceSettings_settles :
    Settles (fun l' => linksOf l' = (linksOf l).withSequences e.entries ∧ TakesFrom e l l')
      (sequenceSettings e l) := by
  unfold sequenceSettings
  refine .bind (flag_settles e _ _) fun streaming _ => ?_
  refine .bind (flag_settles e _ _) fun flatten _ => ?_
  refine .bind (find?_settles e _) fun found same => ?_
  extract_lets inSequences
  have inputs : inSequences = inSequencesOf e.entries := by
    simp only [inSequencesOf, ← same]
    rfl
  refine .bind (value_settles e _ _) fun next next_same => ?_
  extract_lets nextSequence
  refine .bind (value_settles e _ _) fun simulated simulated_same => ?_
  extract_lets simulatedSequence
  refine .bind (value_settles e _ _) fun snoop snoop_same => .pure ⟨?_, ?_⟩
  · simp only [linksOf, Links.withSequences, nextSequence, simulatedSequence, inputs, next_same, simulated_same,
      snoop_same]
  · have null : Given e .null := .fixed fun _ => rfl
    have flags := (TakesFrom.refl (e := e) l).plain (fun m => { m with streaming := streaming, flatten := flatten })
      fun _ _ => ⟨rfl, rfl⟩
    have inputs := flags.value (inputs ▸ given_inSequences e) (fun m v => { m with inSequences := v })
      fun _ _ _ => ⟨rfl, rfl⟩
    have nexts := inputs.value (next_same ▸ null.getD _).sequenceOrStop (fun m v => { m with nextSequence := v })
      fun _ _ _ => ⟨rfl, rfl⟩
    have simulations := nexts.value (simulated_same ▸ null.getD _).sequenceOrStop
      (fun m v => { m with simulatedSequence := v }) fun _ _ _ => ⟨rfl, rfl⟩
    exact simulations.value (snoop_same ▸ null.getD _) (fun m v => { m with snoopSequence := v })
      fun _ _ _ => ⟨rfl, rfl⟩

theorem groupSettings_settles : Settles (Unlinked e l) (groupSettings e l) := by
  unfold groupSettings
  refine .bind (findFirst?_settles e _) fun found same => ?_
  extract_lets convGroups
  have groups : Given e convGroups := by
    cases found with
    | none => exact .fixed fun _ => rfl
    | some found => exact .first same.symm
  refine .bind (value_given e _ fun _ => rfl) fun writeGap gap => ?_
  refine .bind (flag_settles e _ _) fun bypass _ => ?_
  refine .bind (value_given e _ fun _ => rfl) fun bias bias_given => ?_
  extract_lets biasGroups
  have biases : Given e biasGroups := by
    cases bias with
    | int n | bool b => exact .fixed fun _ => rfl
    | _ => exact bias_given
  refine .bind (flag_settles e _ _) fun calcx4 _ => ?_
  refine .bind (find?_settles e _) fun tcalc _ => ?_
  extract_lets tcalc
  refine .bind (flag_settles e _ _) fun readAhead _ => .pure ⟨rfl, ?_⟩
  have flags := (TakesFrom.refl (e := e) l).plain
    (fun m => { m with bypass := bypass, calcx4 := calcx4, tcalc := tcalc, readAhead := readAhead }) fun _ _ => ⟨rfl, rfl⟩
  have grouped := flags.value groups (fun m v => { m with convGroups := v }) fun _ _ _ => ⟨rfl, rfl⟩
  have gapped := grouped.value gap (fun m v => { m with writeGap := v }) fun _ _ _ => ⟨rfl, rfl⟩
  exact gapped.value biases (fun m v => { m with biasGroups := v }) fun _ _ _ => ⟨rfl, rfl⟩

theorem outputSettings_settles : Settles (Unlinked e l) (outputSettings e l) := by
  unfold outputSettings
  refine .bind (find?_settles e _) fun found same => ?_
  extract_lets rest
  have padded : ∀ m, Unlinked e l m → Settles (Unlinked e l) (rest m) := by
    rintro m ⟨links, takes⟩
    refine .bind (find?_settles e _) fun found same => ?_
    cases found with
    | none =>
      refine .ite (fun _ => .pure ⟨links, ?_⟩) fun _ => .pure ⟨links, takes⟩
      exact takes.plain (fun m => { m with outputPadding := .ofInts 1 1 }) fun _ _ => ⟨rfl, rfl⟩
    | some v =>
      refine .bind (isBelow_settles v 0) fun below _ => .guard fun _ => .pure ⟨links, ?_⟩
      exact takes.list (Given.get? same.symm).both (fun m x => { m with outputPadding := x }) fun _ _ _ => ⟨rfl, rfl⟩
  cases found with
  | none => exact .bind (.pure ⟨rfl, .refl l⟩) padded
  | some v =>
    refine .ite (fun _ => .bind (.pure ⟨rfl, ?_⟩) padded) fun _ =>
      .throw_bind
    exact (TakesFrom.refl l).list (Given.get? same.symm).ofValue (fun m x => { m with poolDilation := x })
      fun _ _ _ => ⟨rfl, rfl⟩

end

def givenLinks (v : Value) (operator : Operator) (stride : List Value) : Links :=
  (((((linksOf {}).withPools v).withOperator v operator).withPadding v).withStride stride).withSequences v

structure Settings (e : LayerEntry) (l : LayerConfig) : Prop where
  links : ∃ operator stride, linksOf l = givenLinks e.entries operator stride ∧
    (operator = .conv1d ↔ isOneDimensional e.entries = true)
  alike : ∀ c c', Alike c c' e.entries → LayerAlike c c' l

theorem readSettings_settles (limits : Limits) : Settles (Settings e) (readSettings limits e) := by
  unfold readSettings
  refine .bind (processorSettings_settles e limits {}) fun l₁ ⟨links₁, takes⟩ => ?_
  have pools : l₁.pool = .ofInts 1 1 ∧ l₁.poolStride = .own [.null, .null] :=
    ⟨congrArg Links.pool links₁, congrArg Links.poolStride links₁⟩
  refine .bind (poolSettings_settles e l₁ pools.1 pools.2) fun l₂ ⟨links₂, takes₂⟩ => ?_
  refine .bind (quantizationSetting_settles e l₂) fun l₃ ⟨links₃, takes₃⟩ => ?_
  refine .bind (dataSettings_settles e l₃) fun l₄ ⟨links₄, takes₄⟩ => ?_
  refine .bind (activationSetting_settles e l₄) fun l₅ ⟨links₅, takes₅⟩ => ?_
  have start : linksOf l₅ = (linksOf {}).withPools e.entries := by rw [links₅, links₄, links₃, links₂, links₁]
  have plain : l₅.operator = .conv2d ∧ l₅.padding = .common :=
    ⟨congrArg Links.operator start, congrArg Links.padding start⟩
  refine .bind (operatorSetting_settles e l₅ plain.1 plain.2) fun l₆ ⟨⟨operator, links₆, one⟩, takes₆⟩ => ?_
  refine .bind (shapeSettings_settles e l₆) fun l₇ ⟨links₇, takes₇⟩ => ?_
  refine .bind (operandSettings_settles e l₇) fun l₈ ⟨links₈, takes₈⟩ => ?_
  refine .bind (formatSettings_settles e l₈) fun l₉ ⟨links₉, takes₉⟩ => ?_
  refine .bind (kernelSetting_settles e l₉) fun l₁₀ ⟨links₁₀, takes₁₀⟩ => ?_
  have shaped : linksOf l₁₀ = (((linksOf {}).withPools e.entries).withOperator e.entries operator).withPadding
      e.entries := by rw [links₁₀, links₉, links₈, links₇, links₆, start]
  have own : ∃ xs, l₁₀.stride = .own xs := ⟨_, congrArg Links.stride shaped⟩
  refine .bind (strideSetting_settles e l₁₀ own) fun l₁₁ ⟨⟨stride, links₁₁⟩, takes₁₁⟩ => ?_
  refine .bind (sequenceSettings_settles e l₁₁) fun l₁₂ ⟨links₁₂, takes₁₂⟩ => ?_
  refine .bind (groupSettings_settles e l₁₂) fun l₁₃ ⟨links₁₃, takes₁₃⟩ => ?_
  refine (outputSettings_settles e l₁₃).mono fun l ⟨links₁₄, takes₁₄⟩ => ⟨⟨operator, stride, ?_, one⟩, ?_⟩
  · rw [links₁₄, links₁₃, links₁₂, links₁₁, shaped]
    rfl
  · intro c c' entries
    have chain := takes.trans <| takes₂.trans <| takes₃.trans <| takes₄.trans <| takes₅.trans <| takes₆.trans <|
      takes₇.trans <| takes₈.trans <| takes₉.trans <| takes₁₀.trans <| takes₁₁.trans <| takes₁₂.trans <|
      takes₁₃.trans takes₁₄
    exact chain c c' entries ⟨.inl rfl, fun _ _ => rfl⟩

end

end Config

end CnnForge
