import CnnForge.Config.Network
import CnnForge.Proofs.Endings

namespace CnnForge.Config

open Outcome

variable {v w : Value} {key : String} {f : ConfigFault} {c : Prop}

/-- Every success of `x` gives the same result, with `Q`, whatever the state, and only adds warnings. -/
structure Settles {α : Type} (Q : α → Prop) (x : Configure α) : Prop where
  gives : ∀ {s t : ConfigState} {a : α}, x.run s = .ok a t → Q a
  quiet : ∀ {s t : ConfigState} {a : α}, x.run s = .ok a t → ∃ warnings, t = { s with warnings := warnings }
  steady : ∀ {s s' t t' : ConfigState} {a a' : α}, x.run s = .ok a t → x.run s' = .ok a' t' → a = a'

namespace Settles

variable {α β : Type} {P : β → Prop} {Q R : α → Prop}

theorem pure {a : α} (holds : Q a) : Settles Q (pure a : Configure α) where
  gives run := (pure_ok.mp run).1 ▸ holds
  quiet run := ⟨_, (pure_ok.mp run).2.symm⟩
  steady run run' := (pure_ok.mp run).1.symm.trans (pure_ok.mp run').1

theorem throw : Settles Q (throw f : Configure α) where
  gives run := (throw_ok.mp run).elim
  quiet run := (throw_ok.mp run).elim
  steady run := (throw_ok.mp run).elim

theorem bind {x : Configure α} {f : α → Configure β} (first : Settles Q x) (rest : ∀ a, Q a → Settles P (f a)) :
    Settles P (x >>= f) where
  gives run := by
    obtain ⟨a, _, ran, next⟩ := bind_ok.mp run
    exact (rest a (first.gives ran)).gives next
  quiet run := by
    obtain ⟨a, _, ran, next⟩ := bind_ok.mp run
    obtain ⟨_, rfl⟩ := first.quiet ran
    obtain ⟨warnings, rfl⟩ := (rest a (first.gives ran)).quiet next
    exact ⟨warnings, rfl⟩
  steady run run' := by
    obtain ⟨a, _, ran, next⟩ := bind_ok.mp run
    obtain ⟨a', _, ran', next'⟩ := bind_ok.mp run'
    obtain rfl := first.steady ran ran'
    exact (rest a (first.gives ran)).steady next next'

theorem mono {x : Configure α} (settles : Settles Q x) (weaker : ∀ a, Q a → R a) : Settles R x where
  gives run := weaker _ (settles.gives run)
  quiet := settles.quiet
  steady := settles.steady

theorem determined {x : Configure α} {a : α} (holds : Q a)
    (only : ∀ s b t, x.run s = .ok b t → b = a ∧ t = s) : Settles Q x where
  gives run := (only _ _ _ run).1 ▸ holds
  quiet run := ⟨_, (only _ _ _ run).2⟩
  steady run run' := (only _ _ _ run).1.trans (only _ _ _ run').1.symm

theorem never {x : Configure α} (fails : ∀ s a t, x.run s ≠ .ok a t) : Settles Q x where
  gives run := (fails _ _ _ run).elim
  quiet run := (fails _ _ _ run).elim
  steady run := (fails _ _ _ run).elim

theorem ite [Decidable c] {x y : Configure α} (left : c → Settles Q x) (right : ¬c → Settles Q y) :
    Settles Q (if c then x else y) := by
  split
  · exact left ‹c›
  · exact right ‹¬c›

theorem throw_bind {g : β → Configure α} : Settles Q (MonadExcept.throw f >>= g) :=
  bind (Q := fun _ => False) throw fun _ never => never.elim

theorem pure_bind {b : β} {g : β → Configure α} (rest : Settles Q (g b)) : Settles Q (Pure.pure b >>= g) := rest

theorem guard [Decidable c] {g : PUnit → Configure α} (rest : ¬c → Settles Q (g ⟨⟩)) :
    Settles Q (if c then MonadExcept.throw f >>= g else g ⟨⟩) :=
  ite (fun _ => throw_bind) rest

theorem warn (message : String) : Settles (fun _ => True) (warn message) where
  gives _ := trivial
  quiet run := ⟨_, (modify_ok.mp run).symm⟩
  steady _ _ := rfl

end Settles

abbrev Alike (c c' : List (Nat × Value)) (v : Value) : Prop := updated c v = updated c' v

section

variable {c c' : List (Nat × Value)}

theorem updatedList_eq_map (c : List (Nat × Value)) (xs : List Value) : updatedList c xs = xs.map (updated c) := by
  induction xs with
  | nil => rfl
  | cons x xs ih => rw [updatedList, ih, List.map_cons]

theorem updatedEntries_eq_map (c : List (Nat × Value)) (es : List (Value × Value)) :
    updatedEntries c es = es.map fun (k, v) => (k, updated c v) := by
  induction es with
  | nil => rfl
  | cons e es ih => rw [updatedEntries, ih, List.map_cons]

theorem Alike.get? (alike : Alike c c' v) (found : v.get? key = some w) : Alike c c' w := by
  cases v with
  | table es =>
    obtain ⟨⟨k, w'⟩, there, rfl⟩ := Option.map_eq_some_iff.mp found
    have equal : updatedEntries c es = updatedEntries c' es := by simpa [Alike, updated] using alike
    rw [updatedEntries_eq_map, updatedEntries_eq_map, List.map_inj_left] at equal
    exact (Prod.mk.inj (equal _ (List.mem_of_find?_eq_some there))).2
  | _ => cases found

abbrev ListAlike (c c' : List (Nat × Value)) (x : ListSetting) : Prop :=
  ∀ p p', resolve { commonPadding := p, changed := c } x = resolve { commonPadding := p', changed := c' } x

def unpadded (l : LayerConfig) : LayerConfig := { l with padding := .ofInts 0 0 }

/-- Two sets of changes make the same of all lists in the settings of a layer, up to the common padding. -/
structure LayerAlike (c c' : List (Nat × Value)) (l : LayerConfig) : Prop where
  padding : l.padding = .common ∨ ListAlike c c' l.padding
  rest : ∀ p p', resolveLayer { commonPadding := p, changed := c } (unpadded l) =
    resolveLayer { commonPadding := p', changed := c' } (unpadded l)

theorem Alike.both (alike : Alike c c' v) : ListAlike c c' (.both v) := by
  have equal : updated c v = updated c' v := alike
  simp [ListAlike, ListSetting.both, resolve, updatedList, equal]

theorem Alike.ofValue (alike : Alike c c' v) : ListAlike c c' (.ofValue v) := by
  cases v with
  | list xs =>
    have equal : updatedList c xs = updatedList c' xs := by simpa [Alike, updated] using alike
    simp [ListAlike, ListSetting.ofValue, resolve, equal]
  | named n xs =>
    have equal : current c n (updatedList c xs) = current c' n (updatedList c' xs) := by
      simpa [Alike, updated] using alike
    simp [ListAlike, ListSetting.ofValue, resolve, equal]
  | _ => exact alike.both

end

section

variable (e : LayerEntry)

theorem setting?_ok {o : Option Value} (found : setting? v key = .ok o) : o = v.get? key := by
  cases v with
  | list xs | named n xs =>
    simp only [setting?] at found
    split at found
    · cases found
    · cases found
      rfl
  | _ =>
    cases found
    rfl

theorem find?_settles (key : String) : Settles (fun o => o = e.entries.get? key) (e.find? key) := by
  unfold LayerEntry.find?
  split
  · exact .throw
  · exact .pure (setting?_ok ‹_›)

theorem value_settles (key : String) (default : Value) :
    Settles (fun v => v = (e.entries.get? key).getD default) (e.value key default) :=
  Settles.bind (find?_settles e key) fun _ same => .pure (same ▸ rfl)

theorem flag_settles (key : String) (default : Bool) : Settles (fun _ => True) (e.flag key default) :=
  Settles.bind (find?_settles e key) fun _ _ => .pure trivial

theorem findFirst?_settles (keys : List String) :
    Settles (fun r => r.map Prod.snd = keys.findSome? (e.entries.get? ·)) (e.findFirst? keys) := by
  induction keys with
  | nil => exact .pure rfl
  | cons key keys ih =>
    refine .bind (find?_settles e key) fun found same => ?_
    cases found with
    | some v => exact .pure (by simp [← same])
    | none => exact ih.mono fun r rest => by simpa [← same] using rest

theorem present_ok {s t : ConfigState} : (present v).run s = .ok w t ↔ updated s.changed v = w ∧ s = t := by
  simp only [present, bind_ok, get_ok, pure_ok]
  constructor
  · rintro ⟨_, _, ⟨rfl, rfl⟩, rfl, rfl⟩
    exact ⟨rfl, rfl⟩
  · rintro ⟨rfl, rfl⟩
    exact ⟨_, _, ⟨rfl, rfl⟩, rfl, rfl⟩

theorem present_settles (same : ∀ c, updated c v = v) : Settles (fun w => w = v) (present v) where
  gives run := (present_ok.mp run).1.symm.trans (same _)
  quiet run := ⟨_, (present_ok.mp run).2.symm⟩
  steady run run' := by
    rw [← (present_ok.mp run).1, ← (present_ok.mp run').1, same, same]

theorem isBelow_settles (v : Value) (n : Int) : Settles (fun _ => True) (isBelow v n) := by
  unfold isBelow
  split
  · exact .pure trivial
  · exact .pure trivial
  · exact .throw

theorem isAbove_settles (v : Value) (n : Int) : Settles (fun _ => True) (isAbove v n) := by
  unfold isAbove
  split
  · exact .pure trivial
  · exact .pure trivial
  · exact .throw

theorem lowerCase_settles (v : Value) : Settles (fun name => ∃ s, v = .text s ∧ name = s.toLower) (lowerCase v) := by
  cases v with
  | text s => exact .pure ⟨s, rfl, rfl⟩
  | _ => exact .throw

structure Links where
  operator : Operator
  padding : ListSetting
  pool : ListSetting
  poolStride : ListSetting
  stride : ListSetting
  inSequences : Value
  nextSequence : Value
  simulatedSequence : Value
  snoopSequence : Value

def linksOf (l : LayerConfig) : Links :=
  ⟨l.operator, l.padding, l.pool, l.poolStride, l.stride, l.inSequences, l.nextSequence, l.simulatedSequence,
    l.snoopSequence⟩

/-- A value that the entries of a layer give: what changes make of the entries determines what they make of it. -/
def Given (e : LayerEntry) (v : Value) : Prop := ∀ c c', Alike c c' e.entries → Alike c c' v

def GivenList (e : LayerEntry) (x : ListSetting) : Prop := ∀ c c', Alike c c' e.entries → ListAlike c c' x

def TakesFrom (e : LayerEntry) (l l' : LayerConfig) : Prop :=
  ∀ c c', Alike c c' e.entries → LayerAlike c c' l → LayerAlike c c' l'

def Unlinked (e : LayerEntry) (l l' : LayerConfig) : Prop := linksOf l' = linksOf l ∧ TakesFrom e l l'

variable {e}

theorem Given.get? (found : e.entries.get? key = some v) : Given e v :=
  fun _ _ alike => alike.get? found

theorem Given.getD (default : Given e v) (key : String) : Given e ((e.entries.get? key).getD v) := by
  cases found : e.entries.get? key with
  | none => exact default
  | some w => exact .get? found

theorem Given.first {keys : List String} (found : keys.findSome? (e.entries.get? ·) = some v) : Given e v := by
  obtain ⟨key, -, there⟩ := List.exists_of_findSome?_eq_some found
  exact .get? there

theorem Given.int? {n : Int} (number : v.int? = some n) : Given e v := by
  cases v with
  | int _ | bool _ => exact fun _ _ _ => rfl
  | _ => cases number

theorem Given.fixed (same : ∀ c, updated c v = v) : Given e v :=
  fun c c' _ => (same c).trans (same c').symm

theorem Given.list? {x : Value} {xs : List Value} (given : Given e v) (elements : v.list? = some (x :: xs)) :
    Given e x := by
  intro c c' entries
  have alike := given c c' entries
  cases v with
  | list ys =>
    obtain rfl : ys = x :: xs := Option.some.inj elements
    simp only [Alike, updated, updatedList, Value.list.injEq, List.cons.injEq] at alike
    exact alike.1
  | named n ys =>
    obtain rfl : ys = x :: xs := Option.some.inj elements
    have head : ∀ c, (current c n (updatedList c (x :: xs))).head? = some (updated c x) := by
      intro c
      unfold current
      split <;> simp [updatedList]
    have equal : current c n (updatedList c (x :: xs)) = current c' n (updatedList c' (x :: xs)) := by
      simpa [Alike, updated] using alike
    exact Option.some.inj ((head c).symm.trans (equal ▸ head c'))
  | _ => cases elements

theorem Given.ofValue (given : Given e v) : GivenList e (.ofValue v) := fun c c' entries =>
  (given c c' entries).ofValue

theorem Given.both (given : Given e v) : GivenList e (.both v) := fun c c' entries =>
  (given c c' entries).both

namespace TakesFrom

variable {l l' : LayerConfig}

theorem refl (l : LayerConfig) : TakesFrom e l l := fun _ _ _ alike => alike

theorem trans {l'' : LayerConfig} (first : TakesFrom e l l') (second : TakesFrom e l' l'') : TakesFrom e l l'' :=
  fun c c' entries alike => second c c' entries (first c c' entries alike)

variable (takes : TakesFrom e l l')
include takes

theorem plain (f : LayerConfig → LayerConfig)
    (commutes : ∀ s m, (f m).padding = m.padding ∧ resolveLayer s (unpadded (f m)) = f (resolveLayer s (unpadded m))) :
    TakesFrom e l (f l') := by
  intro c c' entries alike
  obtain ⟨padding, rest⟩ := takes c c' entries alike
  refine ⟨by rwa [(commutes {} l').1], fun p p' => ?_⟩
  rw [(commutes _ _).2, (commutes _ _).2, rest p p']

theorem value (given : Given e v) (f : LayerConfig → Value → LayerConfig)
    (commutes : ∀ s m v, (f m v).padding = m.padding ∧
      resolveLayer s (unpadded (f m v)) = f (resolveLayer s (unpadded m)) (updated s.changed v)) :
    TakesFrom e l (f l' v) := by
  intro c c' entries alike
  obtain ⟨padding, rest⟩ := takes c c' entries alike
  refine ⟨by rwa [(commutes {} l' v).1], fun p p' => ?_⟩
  rw [(commutes _ _ _).2, (commutes _ _ _).2, rest p p', given c c' entries]

theorem list {x : ListSetting} (given : GivenList e x)
    (f : LayerConfig → ListSetting → LayerConfig)
    (commutes : ∀ s m x, (f m x).padding = m.padding ∧
      resolveLayer s (unpadded (f m x)) = f (resolveLayer s (unpadded m)) (resolve s x)) :
    TakesFrom e l (f l' x) := by
  intro c c' entries alike
  obtain ⟨padding, rest⟩ := takes c c' entries alike
  refine ⟨by rwa [(commutes {} l' x).1], fun p p' => ?_⟩
  rw [(commutes _ _ _).2, (commutes _ _ _).2, rest p p', given c c' entries p p']

theorem padding {x : ListSetting} (given : GivenList e x) :
    TakesFrom e l { l' with padding := x } := by
  intro c c' entries alike
  exact ⟨.inr (given c c' entries), (takes c c' entries alike).rest⟩

end TakesFrom

end

end CnnForge.Config
