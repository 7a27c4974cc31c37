import CnnForge.Proofs.SequenceContraction
import Mathlib.Data.List.Nodup

namespace CnnForge

namespace Outcome.Ends

variable {ε σ α β : Type} {Q : α → Prop} {c : Prop}

theorem any {x : EStateM ε σ α} : Ends (fun _ => True) (fun _ => True) (fun _ => True) x := by
  intro s _
  cases x.run s <;> trivial

theorem fails {f : ε} {g : β → EStateM ε σ α} :
    Ends (fun _ => True) (fun _ => True) Q (MonadExcept.throw f >>= g) :=
  bind (Q := fun _ => False) (throw trivial) fun _ never => never.elim

theorem refuse [Decidable c] {f : ε} {g : PUnit → EStateM ε σ α}
    (rest : ¬c → Ends (fun _ => True) (fun _ => True) Q (g ⟨⟩)) :
    Ends (fun _ => True) (fun _ => True) Q (if c then MonadExcept.throw f >>= g else g ⟨⟩) :=
  ite (fun _ => fails) rest

end Outcome.Ends

namespace Config

open Outcome List Value

variable {limits : Limits} {v : Value} {l l' : LayerConfig} {e : LayerEntry} {x : ListSetting} {α : Type}
  {Q : α → Prop}

/-- Settings of a layer are no fractions, and its lists are its own. -/
def Plain (v : Value) : Prop :=
  ∀ key w, v.get? key = some w → (∀ x, w ≠ .real x) ∧ ∀ n xs, w ≠ .named n xs

structure Core where
  processors : Value
  quantization : Value
  operands : Value
  elementwise : Elementwise
  operator : Operator
  kernelSize : Int × Int
  padding : ListSetting
  pooling : Bool
  pool : ListSetting
  dilation : ListSetting
  poolDilation : ListSetting

def core (l : LayerConfig) : Core :=
  { processors := l.processors
    quantization := l.quantization
    operands := l.operands
    elementwise := l.elementwise
    operator := l.operator
    kernelSize := l.kernelSize
    padding := l.padding
    pooling := l.pooling
    pool := l.pool
    dilation := l.dilation
    poolDilation := l.poolDilation }

/-- A map of some of the processors. Software has none, and one is noted for it. -/
def Limits.Maps (limits : Limits) (v : Value) : Prop :=
  ∃ n : Int, v.int? = some n ∧ 1 ≤ n ∧ if limits.usesProcessors then n < (1 <<< limits.processors : Nat) else n = 1

/-- What holds of the settings of a layer from one key to the next. -/
structure Sound (limits : Limits) (k : Core) : Prop where
  processors : limits.Maps k.processors
  quantization : k.quantization = .null ∨ ∃ n ∈ [-1, 1, 2, 4, 8], k.quantization.int? = some n
  operands : ∃ n, k.operands.int? = some n ∧ 1 ≤ n ∧ n ≤ 16 ∧ (1 < n ↔ k.elementwise.isOperator = true)
  padding : k.padding = .common ∨ ∃ w n, k.padding = .both w ∧ w.int? = some n ∧ 0 ≤ n
  pool : k.pooling = false → k.pool = .ofInts 1 1 ∧ k.poolDilation = .ofInts 1 1
  dilation : k.operator = .passthrough → k.dilation = .ofInts 1 1

def Core.Blank (k : Core) : Prop := k.operator = .conv2d ∧ k.kernelSize = (3, 3) ∧ k.dilation = .ofInts 1 1

def Core.Unsized (k : Core) : Prop :=
  (∀ code, k.operator ≠ .unknown code) ∧ k.kernelSize = if k.operator = .linear then (1, 1) else (3, 3)

def Core.Sized (k : Core) : Prop :=
  match k.operator with
  | .passthrough => True
  | .linear => k.kernelSize = (1, 1)
  | .conv1d => ∃ n, 1 ≤ n ∧ n ≤ 9 ∧ k.kernelSize = (n, 1)
  | .conv2d => k.kernelSize = (1, 1) ∨ k.kernelSize = (3, 3)
  | .convTranspose2d => k.kernelSize = (3, 3)
  | .unknown _ => False

abbrev Gives (Q : α → Prop) (x : Configure α) : Prop := Ends (fun _ => True) (fun _ => True) Q x

theorem Gives.of_settles {x : Configure α} (settles : Settles Q x) : Gives Q x := by
  intro s _
  cases ran : x.run s with
  | ok a t => exact ⟨settles.gives ran, trivial⟩
  | error f t => trivial

theorem find?_gives (key : String) : Gives (fun o => o = e.entries.get? key) (e.find? key) :=
  .of_settles (find?_settles e key)

theorem isBelow_gives {n : Int} (whole : ∀ x, v ≠ .real x) :
    Gives (fun below => below = false → ∃ m, v.int? = some m ∧ n ≤ m) (isBelow v n) := by
  unfold isBelow
  cases v with
  | real x => exact absurd rfl (whole x)
  | int m | bool b => exact .pure (by simp [int?])
  | _ => exact .throw trivial

theorem isAbove_gives {n : Int} (whole : ∀ x, v ≠ .real x) :
    Gives (fun above => above = false → ∃ m, v.int? = some m ∧ m ≤ n) (isAbove v n) := by
  unfold isAbove
  cases v with
  | real x => exact absurd rfl (whole x)
  | int m | bool b => exact .pure (by simp [int?])
  | _ => exact .throw trivial

theorem same_int {n : Int} (whole : ∀ x, v ≠ .real x) (same : v.same (.int n) = true) : v.int? = some n := by
  cases v with
  | real x => exact absurd rfl (whole x)
  | int m | bool b => simpa [Value.same, int?] using same
  | _ => simp [Value.same, int?, real?] at same

section

variable (l)

theorem readProcessors_gives (assigned : limits.usesProcessors = true) (key : String) (v : Value) :
    Gives limits.Maps (readProcessors e limits key v) := by
  unfold readProcessors
  extract_lets w
  cases number : w.int? with
  | none => exact .throw trivial
  | some n =>
    refine .refuse fun range => .pure ⟨n, number, ?_⟩
    simp only [Bool.or_eq_true, decide_eq_true_eq, not_or, Int.not_lt, ge_iff_le, Int.not_le] at range
    rw [if_pos assigned, Nat.one_shiftLeft]
    exact ⟨range.1, by simpa using range.2⟩

theorem processorSettings_sound :
    Gives (fun l' => Sound limits (core l') ∧ (core l').Blank) (processorSettings limits e {}) := by
  have start : ∀ p q, limits.Maps p → Sound limits (core { processors := p, outputProcessors := q }) ∧
      (core { processors := p, outputProcessors := q }).Blank := by
    intro p q maps
    exact ⟨⟨maps, .inl rfl, ⟨1, rfl, by decide, by decide, by simp [core, Elementwise.isOperator]⟩, .inl rfl,
      fun _ => ⟨rfl, rfl⟩, fun _ => rfl⟩, rfl, rfl, rfl⟩
  refine .ite (fun assigned => ?_) fun software => .pure (start _ _ ⟨1, rfl, by decide, by rw [if_neg software]⟩)
  refine .bind .any fun v _ => .refuse fun _ => .bind (readProcessors_gives assigned _ _) fun p maps => ?_
  refine .bind .any fun found _ => ?_
  cases found with
  | some v => exact .bind .any fun q _ => .pure (start p q maps)
  | none => exact .pure (start p _ maps)

theorem poolSettings_sound (sound : Sound limits (core l)) (blank : (core l).Blank) :
    Gives (fun l' => Sound limits (core l') ∧ (core l').Blank) (poolSettings e l) := by
  refine .bind .any fun found _ => ?_
  extract_lets rest
  have strided : ∀ m : LayerConfig, Sound limits (core m) ∧ (core m).Blank →
      Gives (fun l' => Sound limits (core l') ∧ (core l').Blank) (rest m) := by
    intro m kept
    refine .bind .any fun found _ => ?_
    cases found with
    | some v => exact .pure kept
    | none => exact .pure kept
  cases found with
  | none => exact strided _ ⟨sound, blank⟩
  | some found =>
    refine strided _ ⟨{ sound with pool := fun off => (by cases off) }, blank⟩

theorem quantizationSetting_sound (plain : Plain e.entries) (sound : Sound limits (core l)) (blank : (core l).Blank) :
    Gives (fun l' => Sound limits (core l') ∧ (core l').Blank) (quantizationSetting e l) := by
  unfold quantizationSetting
  refine .bind (find?_gives _) fun found same => ?_
  cases found with
  | none => exact .pure ⟨sound, blank⟩
  | some v =>
    dsimp -zeta only
    extract_lets w
    have quantized : ∀ q, (∃ n ∈ [-1, 1, 2, 4, 8], q.int? = some n) →
        Sound limits (core { l with quantization := q }) ∧ (core { l with quantization := q }).Blank := fun q known =>
      ⟨{ sound with quantization := .inr known }, blank⟩
    refine .ite (fun _ => .pure (quantized _ ⟨-1, by decide, rfl⟩)) fun _ => ?_
    refine .ite (fun listed => .pure (quantized _ ?_)) fun _ => .fails
    have whole : ∀ x, w ≠ .real x := by
      intro x real
      cases v with
      | text s => nomatch show Value.text s.toLower = .real x from real
      | _ => exact (plain _ _ same.symm).1 x real
    obtain ⟨k, member, equal⟩ := any_eq_true.mp listed
    simp only [mem_cons, not_mem_nil, or_false] at member
    rcases member with rfl | rfl | rfl | rfl
    all_goals exact ⟨_, by decide, same_int whole equal⟩

theorem dataSettings_core : Gives (fun l' => core l' = core l) (dataSettings e l) := by
  unfold dataSettings
  refine .bind .any fun _ _ => .bind .any fun _ _ => .bind .any fun _ _ => ?_
  extract_lets _ rest
  refine .refuse fun _ => .bind .any fun _ _ => .bind .any fun _ _ => .bind .any fun _ _ => ?_
  refine .bind .any fun _ _ => .bind .any fun found _ => ?_
  cases found with
  | some w => exact .pure rfl
  | none => exact .bind .any fun _ _ => .pure rfl

theorem activationSetting_core : Gives (fun l' => core l' = core l) (activationSetting e l) := by
  unfold activationSetting
  refine .bind .any fun found _ => ?_
  cases found with
  | none => exact .pure rfl
  | some found =>
    refine .bind .any fun name _ => ?_
    split
    · exact .pure rfl
    · exact .pure rfl
    · exact .pure rfl
    · exact .throw trivial

theorem elementwise?_isOperator {name : String} {w : Elementwise} (found : elementwise? name = some w) :
    w.isOperator = true := by
  unfold elementwise? at found
  split at found
  all_goals
    cases found
    try rfl

theorem operatorSetting_sound (sound : Sound limits (core l)) (blank : (core l).Blank) :
    Gives (fun l' => Sound limits (core l') ∧ (core l').Unsized) (operatorSetting e l) := by
  obtain ⟨operator, kernel, dilation⟩ := blank
  have operates : ∀ operator, operator ≠ .linear → (∀ code, operator ≠ .unknown code) →
      Sound limits (core { l with operator := operator }) ∧ (core { l with operator := operator }).Unsized :=
    fun operator other known => ⟨{ sound with dilation := fun _ => dilation }, known, kernel.trans (if_neg other).symm⟩
  have padding : ∃ w n, ListSetting.ofInts 0 0 = .both w ∧ w.int? = some n ∧ 0 ≤ n := ⟨.int 0, 0, rfl, rfl, by decide⟩
  have passes : Sound limits (core { l with operator := .passthrough, padding := .ofInts 0 0 }) ∧
      (core { l with operator := .passthrough, padding := .ofInts 0 0 }).Unsized :=
    ⟨{ sound with padding := .inr padding, dilation := fun _ => dilation }, by simp [core], kernel⟩
  have linear : Sound limits (core { l with operator := .linear, kernelSize := (1, 1), padding := .ofInts 0 0 }) ∧
      (core { l with operator := .linear, kernelSize := (1, 1), padding := .ofInts 0 0 }).Unsized :=
    ⟨{ sound with padding := .inr padding, dilation := fun _ => dilation }, by simp [core], rfl⟩
  unfold operatorSetting
  refine .bind .any fun found _ => ?_
  cases found with
  | none =>
    refine .bind .any fun _ _ => .pure ?_
    have same : core l = core { l with operator := .conv2d } := by rw [← show l.operator = .conv2d from operator]
    rw [same]
    exact operates .conv2d (by simp) (by simp)
  | some found =>
    refine .bind .any fun name _ => ?_
    split
    · exact .pure (operates _ (by simp) (by simp))
    · exact .pure (operates _ (by simp) (by simp))
    · exact .pure (operates _ (by simp) (by simp))
    · exact .pure passes
    · exact .pure passes
    · exact .pure linear
    · exact .pure linear
    · exact .pure linear
    · cases combined : elementwise? name with
      | none => exact .throw trivial
      | some w =>
        have combines := elementwise?_isOperator combined
        exact .pure ⟨{ passes.1 with operands := ⟨2, rfl, by decide, by decide, by simp [core, combines]⟩ }, passes.2⟩

theorem shapeSettings_sound (plain : Plain e.entries) (sound : Sound limits (core l)) (unsized : (core l).Unsized) :
    Gives (fun l' => Sound limits (core l') ∧ (core l').Unsized) (shapeSettings e l) := by
  unfold shapeSettings
  refine .bind (find?_gives _) fun found same => ?_
  extract_lets rest
  have dilated : ∀ m : LayerConfig, Sound limits (core m) ∧ (core m).Unsized →
      Gives (fun l' => Sound limits (core l') ∧ (core l').Unsized) (rest m) := by
    rintro m ⟨sound, unsized⟩
    refine .bind .any fun found _ => ?_
    cases found with
    | none => exact .pure ⟨sound, unsized⟩
    | some v =>
      refine .refuse fun convolves => .pure ⟨{ sound with dilation := fun passes => ?_ }, unsized⟩
      exact absurd (beq_iff_eq.mpr passes) convolves
  cases found with
  | none => exact dilated l ⟨sound, unsized⟩
  | some v =>
    refine .bind (isBelow_gives (plain _ _ same.symm).1) fun below range => .refuse fun fits => ?_
    obtain ⟨n, number, positive⟩ := range (by simpa using fits)
    exact dilated _ ⟨{ sound with padding := .inr ⟨v, n, rfl, number, positive⟩ }, unsized⟩

theorem operandSettings_sound (plain : Plain e.entries) (sound : Sound limits (core l)) (unsized : (core l).Unsized) :
    Gives (fun l' => Sound limits (core l') ∧ (core l').Unsized) (operandSettings e l) := by
  unfold operandSettings
  refine .bind (find?_gives _) fun found same => ?_
  extract_lets rest
  have combined : ∀ m : LayerConfig, Sound limits (core m) ∧ (core m).Unsized →
      Gives (fun l' => Sound limits (core l') ∧ (core l').Unsized) (rest m) := by
    rintro m ⟨sound, unsized⟩
    refine .bind .any fun first _ => .bind (find?_gives _) fun found same => ?_
    cases found with
    | none => exact .pure ⟨sound, unsized⟩
    | some v =>
      have whole := (plain _ _ same.symm).1
      refine .ite (fun combines => ?_) fun _ => .fails
      refine .bind (isBelow_gives whole) fun below least => .refuse fun fits => ?_
      refine .bind (isAbove_gives whole) fun above most => .refuse fun fits' => ?_
      obtain ⟨n, number, least⟩ := least (by simpa using fits)
      obtain ⟨n', number', most⟩ := most (by simpa using fits')
      obtain rfl : n = n' := Option.some.inj (number.symm.trans number')
      have count : 1 < n ↔ m.elementwise.isOperator = true := iff_of_true (by omega) combines
      exact .pure ⟨{ sound with operands := ⟨n, number, by omega, most, count⟩ }, unsized⟩
  cases found with
  | none => exact combined l ⟨sound, unsized⟩
  | some v =>
    refine .bind .any fun name _ => ?_
    cases named : elementwise? name with
    | none => exact .fails
    | some w =>
      have combines := elementwise?_isOperator named
      exact combined _
        ⟨{ sound with operands := ⟨2, rfl, by decide, by decide, by simp [core, combines]⟩ }, unsized⟩

theorem formatSettings_core : Gives (fun l' => core l' = core l) (formatSettings e l) := by
  unfold formatSettings
  refine .bind .any fun found _ => ?_
  extract_lets rest
  have formatted : ∀ m, core m = core l → Gives (fun l' => core l' = core l) (rest m) := by
    intro m same
    refine .bind .any fun found _ => ?_
    cases found with
    | none => exact .pure same
    | some v => exact .ite (fun _ => .pure same) fun _ => .fails
  cases found with
  | none => exact formatted l rfl
  | some v =>
    refine .bind .any fun name _ => ?_
    split
    · exact formatted _ rfl
    · exact formatted _ rfl
    · exact formatted _ rfl
    · exact formatted _ rfl
    · exact .fails

theorem kernelSetting_sound (sound : Sound limits (core l)) (unsized : (core l).Unsized) :
    Gives (fun l' => Sound limits (core l') ∧ (core l').Sized) (kernelSetting e l) := by
  have sized : ∀ size, (core { l with kernelSize := size }).Sized →
      Sound limits (core { l with kernelSize := size }) ∧ (core { l with kernelSize := size }).Sized := fun size fits =>
    ⟨{ sound with }, fits⟩
  obtain ⟨known, kernel⟩ := unsized
  unfold kernelSetting
  refine .bind .any fun found _ => ?_
  cases found with
  | none =>
    refine .ite (fun line => .pure (sized _ ?_)) fun other => .pure ⟨sound, ?_⟩
    · simp only [Core.Sized, core, beq_iff_eq.mp line]
      exact ⟨9, by decide, by decide, rfl⟩
    · rw [Core.Sized]
      split
      · trivial
      · rename_i linear
        rw [kernel, if_pos linear]
      · rename_i line
        exact absurd (beq_iff_eq.mpr line) other
      · rename_i plane
        exact .inr (by rw [kernel, plane]; rfl)
      · rename_i transposed
        rw [kernel, transposed]
        rfl
      · rename_i code unknown
        exact known code unknown
  | some v =>
    refine .refuse fun other => .bind .any fun w _ => ?_
    unfold kernelsOfSize
    split
    · rename_i plane
      split
      · exact .pure (sized _ (by simp [Core.Sized, core, plane]))
      · exact .pure (sized _ (by simp [Core.Sized, core, plane]))
      · exact .throw trivial
    · rename_i transposed
      exact .ite (fun _ => .pure (sized _ (by simp [Core.Sized, core, transposed]))) fun _ => .throw trivial
    · rename_i not_plane not_transposed
      split
      · rename_i n _
        refine .refuse fun range => .pure (sized _ ?_)
        simp only [Bool.or_eq_true, decide_eq_true_eq, not_or, Int.not_lt] at range
        rw [Core.Sized]
        split
        · trivial
        · rename_i linear
          exact absurd (beq_iff_eq.mpr linear) other
        · exact ⟨n, range.1, range.2, rfl⟩
        · rename_i plane
          exact absurd plane not_plane
        · rename_i transposed
          exact absurd transposed not_transposed
        · rename_i code unknown
          exact known code unknown
      · exact .throw trivial

theorem strideSetting_core : Gives (fun l' => core l' = core l) (strideSetting e l) := by
  unfold strideSetting
  refine .bind .any fun found _ => ?_
  cases found with
  | none => exact .pure rfl
  | some v =>
    refine .bind .any fun w _ => .ite (fun _ => .ite (fun _ => .pure rfl) fun _ => .fails) fun _ => ?_
    exact .refuse fun _ => .pure rfl

theorem sequenceSettings_core : Gives (fun l' => core l' = core l) (sequenceSettings e l) := by
  unfold sequenceSettings
  refine .bind .any fun _ _ => .bind .any fun _ _ => .bind .any fun _ _ => .bind .any fun _ _ => ?_
  exact .bind .any fun _ _ => .bind .any fun _ _ => .pure rfl

theorem groupSettings_core : Gives (fun l' => core l' = core l) (groupSettings e l) := by
  unfold groupSettings
  refine .bind .any fun _ _ => .bind .any fun _ _ => .bind .any fun _ _ => .bind .any fun _ _ => ?_
  exact .bind .any fun _ _ => .bind .any fun _ _ => .bind .any fun _ _ => .pure rfl

theorem outputSettings_sound (sound : Sound limits (core l)) (sized : (core l).Sized) :
    Gives (fun l' => Sound limits (core l') ∧ (core l').Sized) (outputSettings e l) := by
  unfold outputSettings
  refine .bind .any fun found _ => ?_
  extract_lets rest
  have padded : ∀ m : LayerConfig, Sound limits (core m) ∧ (core m).Sized →
      Gives (fun l' => Sound limits (core l') ∧ (core l').Sized) (rest m) := by
    intro m kept
    refine .bind .any fun found _ => ?_
    cases found with
    | none => exact .ite (fun _ => .pure kept) fun _ => .pure kept
    | some v => exact .bind .any fun below _ => .refuse fun _ => .pure kept
  cases found with
  | none => exact padded l ⟨sound, sized⟩
  | some v =>
    refine .ite (fun pooled => ?_) fun _ => .fails
    refine padded _ ⟨{ sound with pool := fun off => absurd pooled ?_ }, sized⟩
    simpa [core] using off

theorem readSettings_sound (plain : Plain e.entries) :
    Gives (fun l => Sound limits (core l) ∧ (core l).Sized) (readSettings limits e) := by
  refine .bind processorSettings_sound fun l₁ ⟨sound, blank⟩ => ?_
  refine .bind (poolSettings_sound l₁ sound blank) fun l₂ ⟨sound, blank⟩ => ?_
  refine .bind (quantizationSetting_sound l₂ plain sound blank) fun l₃ ⟨sound, blank⟩ => ?_
  refine .bind (dataSettings_core l₃) fun l₄ same => .bind (activationSetting_core l₄) fun l₅ same' => ?_
  rw [← same, ← same'] at sound blank
  refine .bind (operatorSetting_sound l₅ sound blank) fun l₆ ⟨sound, unsized⟩ => ?_
  refine .bind (shapeSettings_sound l₆ plain sound unsized) fun l₇ ⟨sound, unsized⟩ => ?_
  refine .bind (operandSettings_sound l₇ plain sound unsized) fun l₈ ⟨sound, unsized⟩ => ?_
  refine .bind (formatSettings_core l₈) fun l₉ same => ?_
  rw [← same] at sound unsized
  refine .bind (kernelSetting_sound l₉ sound unsized) fun l₁₀ ⟨sound, sized⟩ => ?_
  refine .bind (strideSetting_core l₁₀) fun l₁₁ same => .bind (sequenceSettings_core l₁₁) fun l₁₂ same' => ?_
  refine .bind (groupSettings_core l₁₂) fun l₁₃ same'' => ?_
  rw [← same, ← same', ← same''] at sound sized
  exact outputSettings_sound l₁₃ sound sized

end

section

variable {s t : ConfigState} {vs : List Value}

def ints (x : ListSetting) : List (Option Int) := x.toList.map int?

/-- A layer that the rest of the program can rely on. -/
structure WellFormed (limits : Limits) (l : LayerConfig) : Prop where
  processors : limits.Maps l.processors
  kernel : match l.operator with
    | .passthrough | .linear => l.kernelSize = (1, 1)
    | .conv1d => ∃ k, 1 ≤ k ∧ k ≤ 9 ∧ l.kernelSize = (k, 1)
    | .conv2d => l.kernelSize = (1, 1) ∨ l.kernelSize = (3, 3)
    | .convTranspose2d => l.kernelSize = (3, 3)
    | .unknown _ => False
  operands : ∃ n, l.operands.int? = some n ∧ 1 ≤ n ∧ n ≤ 16 ∧ (1 < n ↔ l.elementwise.isOperator = true)
  padding : ∃ rows columns, ints l.padding = [some rows, some columns] ∧ 0 ≤ rows ∧ 0 ≤ columns
  line : l.operator = .conv1d → (ints l.padding)[1]? = some (some 0) ∧ (ints l.pool)[1]? = some (some 1) ∧
    (ints l.stride)[1]? = some (some 1) ∧ (ints l.poolStride)[1]? = some (some 1)
  dilation : l.operator = .passthrough → ints l.dilation = [some 1, some 1]
  poolDilation : l.pooling = false → ints l.poolDilation = [some 1, some 1]
  transposed : l.operator = .convTranspose2d → ints l.stride = [some 2, some 2]
  poolFirst : l.poolFirst = false → l.elementwise.isOperator = true ∧ l.pooling = true
  quantization : l.quantization = .null ∨ ∃ n ∈ [-1, 1, 2, 4, 8], l.quantization.int? = some n

theorem ints_resolve (s : ConfigState) (xs : List Value) : ints (resolve s (.own xs)) = xs.map int? :=
  int?_updatedList s.changed xs

def Second (n : Int) (x : ListSetting) : Prop := ∃ xs, x = .own xs ∧ xs[1]? = some (.int n)

theorem Second.resolve {n : Int} (second : Second n x) (s : ConfigState) :
    (ints (resolve s x))[1]? = some (some n) := by
  obtain ⟨xs, rfl, second⟩ := second
  rw [ints_resolve, getElem?_map, second]
  rfl

theorem setColumns_second {n : Int} {y : ListSetting} (own : ∃ xs, x = .own xs)
    (run : (setColumns (.int n) x).run s = .ok y t) : Second n y := by
  obtain ⟨xs, rfl⟩ := own
  obtain ⟨ys, _, second, result⟩ := bind_ok.mp run
  obtain ⟨rfl, rfl⟩ := pure_ok.mp result
  match xs with
  | _ :: _ :: _ =>
    obtain ⟨rfl, rfl⟩ := pure_ok.mp second
    exact ⟨_, rfl, rfl⟩
  | [] | [_] => exact (throw_ok.mp second).elim

theorem ofValue_own (unnamed : ∀ m xs, v ≠ .named m xs) : ∃ xs, ListSetting.ofValue v = .own xs := by
  cases v with
  | named m xs => exact absurd rfl (unnamed m xs)
  | list xs => exact ⟨xs, rfl⟩
  | _ => exact ⟨_, rfl⟩

theorem Plain.poolOf (plain : Plain v) : ∃ xs, poolOf v = .own xs := by
  unfold Config.poolOf
  cases found : ["max_pool", "avg_pool"].findSome? (v.get? ·) with
  | none => exact ⟨_, rfl⟩
  | some w =>
    obtain ⟨key, -, there⟩ := exists_of_findSome?_eq_some found
    exact ofValue_own (plain key w there).2

theorem Plain.poolStrideOf (plain : Plain v) : ∃ xs, poolStrideOf v = .own xs := by
  unfold Config.poolStrideOf
  cases found : v.get? "pool_stride" with
  | none => exact ⟨_, rfl⟩
  | some w => exact ofValue_own (plain _ w found).2

theorem operatorFixes_second (line : l.operator = .conv1d) (pool : ∃ xs, l.pool = .own xs)
    (poolStride : ∃ xs, l.poolStride = .own xs) (stride : ∃ xs, l.stride = .own xs)
    (run : (operatorFixes l).run s = .ok l' t) : Second 1 l'.pool ∧ Second 1 l'.poolStride ∧ Second 1 l'.stride := by
  simp only [operatorFixes, line] at run
  obtain ⟨_, _, _, run⟩ := bind_ok.mp run
  obtain ⟨_, _, pooled, run⟩ := bind_ok.mp run
  obtain ⟨_, _, stepped, run⟩ := bind_ok.mp run
  obtain ⟨_, _, strided, run⟩ := bind_ok.mp run
  obtain ⟨rfl, -⟩ := pure_ok.mp run
  exact ⟨setColumns_second pool pooled, setColumns_second poolStride stepped, setColumns_second stride strided⟩

theorem fixedSettings_core (l : LayerConfig) : core (fixedSettings l) = { core l with
    kernelSize := if l.operator = .passthrough then (1, 1) else l.kernelSize
    padding := if l.operator = .conv1d then withColumns (.int 0) l.padding else l.padding
    pool := if l.operator = .conv1d then withColumns (.int 1) l.pool else l.pool } := by
  unfold fixedSettings
  split
  · rename_i line
    simp [core, narrow, line]
  · rename_i passes
    simp [core, passes]
  · rename_i transposed
    simp [core, transposed]
  · rename_i line passes transposed
    rw [if_neg line, if_neg line, if_neg passes]
    rfl

def resolution (vs : List Value) : ConfigState := { commonPadding := commonPaddingOf vs, changed := changesOf vs }

theorem settled_core (vs : List Value) (l : LayerConfig) : core (settled vs l) = { core l with
    processors := updated (changesOf vs) (core l).processors
    quantization := updated (changesOf vs) (core l).quantization
    operands := updated (changesOf vs) (core l).operands
    padding := resolve (resolution vs) (core l).padding
    pool := resolve (resolution vs) (core l).pool
    dilation := resolve (resolution vs) (core l).dilation
    poolDilation := resolve (resolution vs) (core l).poolDilation } := by
  unfold settled finished
  split <;> rfl

theorem settled_stride (vs : List Value) (l : LayerConfig) :
    (settled vs l).stride = resolve (resolution vs) l.stride := by
  unfold settled finished
  split <;> rfl

theorem settled_poolStride (second : Second 1 l.poolStride) (vs : List Value) :
    (ints (settled vs l).poolStride)[1]? = some (some 1) := by
  have kept := second.resolve (resolution vs)
  unfold settled finished
  split
  · rfl
  · exact kept

theorem same_of_int? {n : Int} (number : v.int? = some n) : v.same (.int n) = true := by
  cases v with
  | int m | bool b => simpa [Value.same, int?] using number
  | _ => cases number

def PoolsAfter (l : LayerConfig) : Prop :=
  l.poolFirst = false → l.operands.int? ≠ some 1 ∧ ints l.pool ≠ [some 1, some 1]

theorem finishLayer_pools (l : LayerConfig) (index : Nat) : Gives PoolsAfter (finishLayer l index) := by
  unfold finishLayer
  extract_lets e rest warned
  have checked : ∀ m, Gives PoolsAfter (rest m) := by
    intro m
    refine .ite (fun first => .pure fun off => ?_) fun _ => .refuse fun many => ?_
    · rw [off] at first
      cases first
    have operands : m.operands.int? ≠ some 1 := fun one => many (same_of_int? one)
    cases window : m.pool.toList with
    | nil => exact .fails
    | cons p ps =>
      refine .ite (fun _ => ?_) fun other => .pure fun _ => ⟨operands, ?_⟩
      · cases ps with
        | nil => exact .fails
        | cons q qs =>
          refine .refuse fun other => .pure fun _ => ⟨operands, fun ones => ?_⟩
          simp only [ints, window, map_cons, cons.injEq] at ones
          exact other (same_of_int? ones.2.1)
      · intro ones
        simp only [ints, window, map_cons, cons.injEq] at ones
        exact other (same_of_int? ones.1)
  cases l.poolStride.toList with
  | nil => exact .fails
  | cons y ys =>
    cases y with
    | null => exact .ite (fun _ => .bind .any fun _ _ => checked _) fun _ => checked _
    | _ => exact checked _

theorem finishLayers_pools (ls : List LayerConfig) (index : Nat) :
    Gives (fun ls' => ∀ l ∈ ls', PoolsAfter l) (finishLayers ls index) := by
  induction ls generalizing index with
  | nil => exact .pure (by simp)
  | cons l ls ih =>
    refine .bind (finishLayer_pools l index) fun l' first => .bind (ih (index + 1)) fun ls' rest => .pure ?_
    intro m member
    rcases mem_cons.mp member with rfl | member
    · exact first
    · exact rest m member

theorem readLayer_wellFormed (plain : Plain e.entries) (member : e.entries ∈ vs)
    (run : (readLayer limits e).run s = .ok l t) (pools : PoolsAfter (settled vs l)) :
    WellFormed limits (settled vs l) := by
  have padded := (readLayer_ok run).padding
  obtain ⟨given, _, reads, fixed⟩ := bind_ok.mp run
  obtain ⟨⟨sound, sized⟩, -⟩ := (readSettings_sound plain).result trivial reads
  obtain ⟨⟨operator, stride, links, one⟩, -⟩ := (readSettings_settles e limits).gives reads
  have pool : given.pool = poolOf e.entries := congrArg Links.pool links
  have poolStride : given.poolStride = poolStrideOf e.entries := congrArg Links.poolStride links
  have own : given.stride = .own stride := congrArg Links.stride links
  have operates : given.operator = operator := congrArg Links.operator links
  have second : given.operator = .conv1d → Second 1 l.pool ∧ Second 1 l.poolStride ∧ Second 1 l.stride := fun line =>
    operatorFixes_second line (pool ▸ plain.poolOf) (poolStride ▸ plain.poolStrideOf) ⟨stride, own⟩ fixed
  obtain ⟨rfl, -⟩ := operatorFixes_ok fixed
  have final := settled_core vs (fixedSettings given)
  have strides := settled_stride vs (fixedSettings given)
  have steps := fun line => settled_poolStride (second line).2.1 vs
  have line_stride : given.operator = .conv1d → Second 1 (fixedSettings given).stride := fun line => (second line).2.2
  have line_pool : given.operator = .conv1d → Second 1 (core (fixedSettings given)).pool := fun line => (second line).1
  have common : given.operator = .conv1d → (core (fixedSettings given)).padding = .common →
      vs.any narrowsCommonPadding = true := by
    intro line common
    refine any_eq_true.mpr ⟨e.entries, member, ?_⟩
    rw [narrowsCommonPadding, Bool.and_eq_true]
    exact ⟨one.mp (operates ▸ line), padded.mp common⟩
  rw [fixedSettings_core] at final line_pool common
  generalize settled vs (fixedSettings given) = m at *
  have operator_eq : m.operator = given.operator := congrArg Core.operator final
  have elementwise : m.elementwise = given.elementwise := congrArg Core.elementwise final
  have pooling : m.pooling = given.pooling := congrArg Core.pooling final
  have operands : m.operands = updated (changesOf vs) given.operands := congrArg Core.operands final
  have processors : m.processors = updated (changesOf vs) given.processors := congrArg Core.processors final
  have quantization : m.quantization = updated (changesOf vs) given.quantization := congrArg Core.quantization final
  have dilation : m.dilation = resolve (resolution vs) given.dilation := congrArg Core.dilation final
  have poolDilation : m.poolDilation = resolve (resolution vs) given.poolDilation := congrArg Core.poolDilation final
  have kernel : m.kernelSize = if given.operator = .passthrough then (1, 1) else given.kernelSize :=
    congrArg Core.kernelSize final
  have window : m.pool = resolve (resolution vs)
    (if given.operator = .conv1d then withColumns (.int 1) given.pool else given.pool) := congrArg Core.pool final
  have padding : m.padding = resolve (resolution vs)
    (if given.operator = .conv1d then withColumns (.int 0) given.padding else given.padding) :=
    congrArg Core.padding final
  have padding_values : ∃ rows columns, ints m.padding = [some rows, some columns] ∧ 0 ≤ rows ∧ 0 ≤ columns ∧
      (given.operator = .conv1d → columns = 0) := by
    rw [padding]
    rcases sound.padding with shared | ⟨w, n, both, number, positive⟩
    · replace shared : given.padding = .common := shared
      by_cases line : given.operator = .conv1d
      · have kept : withColumns (.int 0) .common = .common := rfl
        have narrows := common line (by dsimp only; rw [if_pos line, shared, kept])
        rw [if_pos line, shared, kept, resolve, resolution, commonPaddingOf, if_pos narrows]
        exact ⟨1, 0, rfl, by decide, by decide, fun _ => rfl⟩
      · rw [if_neg line, shared, resolve]
        exact ⟨1, _, rfl, by decide, by split <;> decide, fun one => absurd one line⟩
    · replace both : given.padding = .own [w, w] := both
      by_cases line : given.operator = .conv1d
      · rw [if_pos line, both, withColumns, ints_resolve]
        exact ⟨n, 0, congrArg (· :: [some 0]) number, positive, by decide, fun _ => rfl⟩
      · rw [if_neg line, both, ints_resolve]
        exact ⟨n, n, by simp [number], positive, positive, fun one => absurd one line⟩
  have unpooled : given.pooling = false → ints m.pool = [some 1, some 1] ∧ ints m.poolDilation = [some 1, some 1] := by
    intro off
    obtain ⟨whole, apart⟩ : given.pool = .ofInts 1 1 ∧ given.poolDilation = .ofInts 1 1 := sound.pool off
    rw [window, poolDilation, whole, apart]
    exact ⟨by split <;> rfl, rfl⟩
  obtain ⟨count, number, positive, most, many⟩ := sound.operands
  rw [← int?_updated (changesOf vs)] at number
  refine ⟨?_, ?_, ⟨count, operands ▸ number, positive, most, elementwise ▸ many⟩, ?_, ?_, ?_, ?_, ?_, ?_, ?_⟩
  · obtain ⟨n, number, range⟩ := sound.processors
    exact ⟨n, by rw [processors, int?_updated]; exact number, range⟩
  · rw [operator_eq, kernel]
    simp only [Core.Sized, core] at sized
    cases is : given.operator with
    | passthrough => rfl
    | linear | conv1d | conv2d | convTranspose2d | unknown =>
      rw [is] at sized
      exact sized
  · obtain ⟨rows, columns, values, low, low', _⟩ := padding_values
    exact ⟨rows, columns, values, low, low'⟩
  · intro line
    obtain ⟨rows, columns, values, _, _, zero⟩ := padding_values
    rw [operator_eq] at line
    refine ⟨by rw [values, zero line]; rfl, ?_, ?_, steps line⟩
    · rw [window]
      exact (line_pool line).resolve _
    · rw [strides]
      exact (line_stride line).resolve _
  · intro passes
    rw [dilation, show given.dilation = _ from sound.dilation (operator_eq.symm.trans passes)]
    rfl
  · intro off
    exact (unpooled (pooling ▸ off)).2
  · intro transposed
    rw [operator_eq] at transposed
    rw [strides, fixedSettings, transposed]
    rfl
  · intro last
    obtain ⟨other, apart⟩ := pools last
    refine ⟨elementwise ▸ many.mp ?_, ?_⟩
    · have : count ≠ 1 := fun one => other (by rw [operands, ← one]; exact number)
      omega
    · rw [pooling, ← Bool.not_eq_false]
      exact fun off => apart (unpooled off).1
  · rw [quantization]
    rcases sound.quantization with unset | ⟨n, listed, number⟩
    · left
      rw [show given.quantization = .null from unset]
      rfl
    · exact .inr ⟨n, listed, (int?_updated _ _).trans number⟩

/-- Accepted layers are well formed, and there is one for each sequence number. -/
theorem readNetwork_wellFormed {entries : Value} {n : NetworkConfig}
    (run : (readNetwork limits entries).run {} = .ok n t) :
    ∃ vs, layerEntries entries = some vs ∧ n.layers.length = (sequenceNumbers vs).length ∧ (sequenceNumbers vs).Nodup ∧
      ((∀ v ∈ vs, Plain v) → ∀ l ∈ n.layers, WellFormed limits l) := by
  obtain ⟨vs, u, _, given, reading, ended⟩ := readNetwork_run run
  obtain ⟨distinct, count⟩ := readNetwork_places run given
  have entries_eq := numbered_entries vs 0
  refine ⟨vs, given, ?_, Nodup.of_map _ distinct, fun plain l member => ?_⟩
  · rw [count, sequenceNumbers, length_map, ← congrArg length entries_eq, length_map]
  have pools := ((finishLayers_pools _ _).result trivial ended).1 l member
  rw [finishLayers_ok ended, map_map] at member
  obtain ⟨⟨place, given⟩, inside, rfl⟩ := mem_map.mp member
  obtain ⟨e, listed, rfl⟩ := mem_map.mp (reading.places.mem_iff.mp (mem_map_of_mem inside))
  obtain ⟨l, there, _, _, read⟩ := reading.each e listed
  -- Places are distinct, so the layer at the place of an entry is the one that was read from it.
  have once : (u.layers.map Prod.fst).Nodup := pairwise_map.mpr (reading.sorted.imp Nat.ne_of_lt)
  obtain rfl : given = l := congrArg Prod.snd (inj_on_of_nodup_map once inside there rfl)
  have written : e.entries ∈ vs := entries_eq ▸ mem_map_of_mem listed
  have settles : finished (resolveLayer u given) = settled vs given := by
    have resolved : resolveLayer u given =
      resolveLayer { commonPadding := u.commonPadding, changed := u.changed } given := rfl
    rw [settled, resolved, reading.commonPadding, reading.changed, entries_eq]
  simp only [Function.comp, settles] at pools ⊢
  exact readLayer_wellFormed (plain _ written) written read pools

theorem plain_table {es : List (Value × Value)}
    (own : es.all fun x => match x.2 with | .real _ | .named _ _ => false | _ => true) : Plain (.table es) := by
  intro key w found
  obtain ⟨x, there, rfl⟩ := Option.map_eq_some_iff.mp found
  have kind := all_eq_true.mp own x (mem_of_find?_eq_some there)
  constructor
  · intro y real
    simp [real] at kind
  · intro n xs named
    simp [named] at kind

def pooledLayers : List Value :=
  [layerWith [("op", .text "Conv1d"), ("max_pool", .list [.int 2, .int 2]), ("stride", .int 1)],
    layerWith [("op", .text "add"), ("operands", .int 3), ("max_pool", .int 2), ("pool_first", .bool false)]]

theorem readNetwork_wellFormed_pooled :
    ∃ n t, (readNetwork assignedLimits (networkWith pooledLayers)).run {} = .ok n t ∧
    n.layers.length = 2 ∧ ∀ l ∈ n.layers, WellFormed assignedLimits l := by
  have ran : (result? ((readNetwork assignedLimits (networkWith pooledLayers)).run {})).isSome = true := by
    decide +kernel
  obtain ⟨⟨n, t⟩, ran⟩ := Option.isSome_iff_exists.mp ran
  have run := result?_eq_some.mp ran
  obtain ⟨vs, given, count, _, layers⟩ := readNetwork_wellFormed run
  obtain rfl : vs = pooledLayers := Option.some.inj (given.symm.trans rfl)
  refine ⟨n, t, run, count, layers fun v member => ?_⟩
  simp only [pooledLayers, mem_cons, not_mem_nil, or_false] at member
  rcases member with rfl | rfl
  · exact plain_table (by decide)
  · exact plain_table (by decide)

def dilatedLayers : List Value := [layerWith [("op", .text "Linear"), ("dilation", .int 2)]]

/-- A fully connected layer is accepted with a dilation. -/
theorem readNetwork_dilates_linear :
    ∃ n t, (readNetwork assignedLimits (networkWith dilatedLayers)).run {} = .ok n t ∧
      n.layers.map (fun l => (l.operator, ints l.dilation)) = [(.linear, [some 2, some 2])] := by
  have ran : (result? ((readNetwork assignedLimits (networkWith dilatedLayers)).run {})).map
      (fun x => x.1.layers.map fun l => (l.operator, ints l.dilation)) = some [(.linear, [some 2, some 2])] := by
    decide +kernel
  obtain ⟨⟨n, t⟩, ran, dilated⟩ := Option.map_eq_some_iff.mp ran
  exact ⟨n, t, result?_eq_some.mp ran, dilated⟩

end

end Config

end CnnForge
