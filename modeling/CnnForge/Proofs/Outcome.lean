namespace CnnForge.Outcome

section

variable {ε σ α β : Type} {before after : σ}

@[simp] theorem bind_ok {x : EStateM ε σ α} {f : α → EStateM ε σ β} {b : β} :
    (x >>= f).run before = .ok b after ↔
      ∃ a middle, x.run before = .ok a middle ∧ (f a).run middle = .ok b after := by
  simp only [EStateM.run, Bind.bind, EStateM.bind]
  cases result : x before with
  | ok a middle =>
    constructor
    · intro rest
      exact ⟨a, middle, rfl, rest⟩
    · rintro ⟨a', middle', same, rest⟩
      cases same
      exact rest
  | error e middle => simp

@[simp] theorem map_ok {x : EStateM ε σ α} {f : α → β} {b : β} :
    (f <$> x).run before = .ok b after ↔ ∃ a, x.run before = .ok a after ∧ f a = b := by
  simp only [EStateM.run, Functor.map, EStateM.map]
  cases x before with
  | ok a middle =>
    constructor
    · rintro ⟨rfl, rfl⟩
      exact ⟨a, rfl, rfl⟩
    · rintro ⟨_, ⟨rfl, rfl⟩, rfl⟩
      rfl
  | error e middle => simp

@[simp] theorem pure_ok {a b : α} :
    (pure a : EStateM ε σ α).run before = .ok b after ↔ a = b ∧ before = after := by
  simp [EStateM.run, Pure.pure, EStateM.pure]

@[simp] theorem get_ok {s : σ} :
    (get : EStateM ε σ σ).run before = .ok s after ↔ before = s ∧ before = after := by
  change EStateM.Result.ok before before = .ok s after ↔ _
  simp

@[simp] theorem modify_ok {f : σ → σ} {u : PUnit} :
    (modify f : EStateM ε σ PUnit).run before = .ok u after ↔ f before = after := by
  change EStateM.Result.ok ⟨⟩ (f before) = .ok u after ↔ _
  simp

@[simp] theorem throw_ok {e : ε} {a : α} :
    (throw e : EStateM ε σ α).run before = .ok a after ↔ False := by
  change EStateM.Result.error e before = .ok a after ↔ _
  simp

def result? : EStateM.Result ε σ α → Option (α × σ)
  | .ok a s => some (a, s)
  | .error _ _ => none

theorem result?_eq_some {r : EStateM.Result ε σ α} {a : α} {s : σ} : result? r = some (a, s) ↔ r = .ok a s := by
  cases r <;> simp [result?]

theorem bind_error {x : EStateM ε σ α} {f : α → EStateM ε σ β} {e : ε}
    (failed : (x >>= f).run before = .error e after) :
    x.run before = .error e after ∨ ∃ a middle, x.run before = .ok a middle ∧ (f a).run middle = .error e after := by
  simp only [EStateM.run, Bind.bind, EStateM.bind] at failed ⊢
  cases result : x before with
  | ok a middle =>
    rw [result] at failed
    exact .inr ⟨a, middle, rfl, failed⟩
  | error e' middle =>
    rw [result] at failed
    cases failed
    exact .inl rfl

theorem forM_error {f : α → EStateM ε σ PUnit} {items : List α} {e : ε}
    (failed : (items.forM f).run before = .error e after) :
    ∃ item ∈ items, ∃ middle, (f item).run middle = .error e after := by
  induction items generalizing before with
  | nil => cases failed
  | cons item items ih =>
    rcases bind_error failed with failed | ⟨_, middle, _, failed⟩
    · exact ⟨item, by simp, before, failed⟩
    · obtain ⟨other, member, found⟩ := ih failed
      exact ⟨other, by simp [member], found⟩

theorem refuse_ok {c : Prop} [Decidable c] {e : ε} {f : PUnit → EStateM ε σ α} {a : α}
    (run : (if c then throw e >>= f else f ⟨⟩).run before = .ok a after) :
    ¬c ∧ (f ⟨⟩).run before = .ok a after := by
  split at run
  · obtain ⟨_, _, stopped, -⟩ := bind_ok.mp run
    exact (throw_ok.mp stopped).elim
  · exact ⟨‹_›, run⟩

end

section

variable {ε σ α β γ : Type} {R : σ → σ → Prop}

def Keeps (R : σ → σ → Prop) (x : EStateM ε σ α) : Prop :=
  ∀ before a after, x.run before = .ok a after → R before after

theorem Keeps.pure (reflexive : ∀ s, R s s) (a : α) : Keeps R (pure a : EStateM ε σ α) := by
  intro before b after run
  obtain ⟨_, rfl⟩ := pure_ok.mp run
  exact reflexive before

theorem Keeps.get (reflexive : ∀ s, R s s) : Keeps R (get : EStateM ε σ σ) := by
  intro before s after run
  obtain ⟨_, rfl⟩ := get_ok.mp run
  exact reflexive before

theorem Keeps.throw (e : ε) : Keeps R (throw e : EStateM ε σ α) := by
  intro before b after run
  exact (throw_ok.mp run).elim

theorem Keeps.bind (transitive : ∀ a b c, R a b → R b c → R a c) {x : EStateM ε σ α}
    {f : α → EStateM ε σ β} (first : Keeps R x) (rest : ∀ a, Keeps R (f a)) : Keeps R (x >>= f) := by
  intro before b after run
  obtain ⟨a, middle, ran, next⟩ := bind_ok.mp run
  exact transitive _ _ _ (first _ _ _ ran) (rest a _ _ _ next)

theorem Keeps.ite {x y : EStateM ε σ α} {c : Prop} [Decidable c] (left : Keeps R x)
    (right : Keeps R y) : Keeps R (if c then x else y) := by
  split
  · exact left
  · exact right

variable (reflexive : ∀ s, R s s) (transitive : ∀ a b c, R a b → R b c → R a c) (items : List α)
include reflexive transitive

theorem Keeps.foldlM
    {f : β → α → EStateM ε σ β} (step : ∀ b, ∀ a ∈ items, Keeps R (f b a)) (b : β) :
    Keeps R (items.foldlM f b) := by
  induction items generalizing b with
  | nil => exact .pure reflexive b
  | cons item items ih =>
    rw [List.foldlM_cons]
    exact .bind transitive (step b item (by simp))
      (fun b' => ih (fun b a member => step b a (by simp [member])) b')

theorem Keeps.forIn
    {f : α → β → EStateM ε σ (ForInStep β)}
    (step : ∀ b, ∀ a ∈ items, Keeps R (f a b)) (b : β) : Keeps R (forIn items b f) := by
  induction items generalizing b with
  | nil => exact Keeps.pure reflexive b
  | cons item items ih =>
    rw [List.forIn_cons]
    apply Keeps.bind transitive (step b item (by simp))
    intro next
    cases next with
    | done b' => exact .pure reflexive b'
    | yield b' => exact ih (fun b a member => step b a (by simp [member])) b'

theorem Keeps.forM
    {f : α → EStateM ε σ PUnit} (step : ∀ a ∈ items, Keeps R (f a)) :
    Keeps R (items.forM f) := by
  induction items with
  | nil => exact .pure reflexive _
  | cons item items ih =>
    rw [List.forM_eq_forM, List.forM_cons]
    exact .bind transitive (step item (by simp))
      (fun _ => ih (fun a member => step a (by simp [member])))

theorem Keeps.mapM
    {f : α → EStateM ε σ β} (step : ∀ a ∈ items, Keeps R (f a)) : Keeps R (items.mapM f) := by
  induction items with
  | nil => exact Keeps.pure reflexive _
  | cons item items ih =>
    rw [List.mapM_cons]
    apply Keeps.bind transitive (step item (by simp))
    intro b
    apply Keeps.bind transitive (ih (fun a member => step a (by simp [member])))
    intro bs
    exact Keeps.pure reflexive _

end

section

variable {ε σ α β : Type} {before : σ}

theorem foldlM_collects {γ δ : Type} {I : σ → Prop} {R : List γ → σ → σ → Prop} {P : δ → Prop} {f : β → δ → EStateM ε σ β}
    {g : δ → List γ} (nothing : ∀ s, I s → R [] s s) (append : ∀ {xs ys a b c}, R xs a b → R ys b c → R (xs ++ ys) a c)
    (items : List δ) (step : ∀ b, ∀ x ∈ items, ∀ before b' after, I before → (f b x).run before = .ok b' after →
      I after ∧ R (g x) before after ∧ P x)
    {after : σ} {b b' : β} (start : I before) (run : (items.foldlM f b).run before = .ok b' after) :
    R (items.flatMap g) before after ∧ ∀ x ∈ items, P x := by
  induction items generalizing b before with
  | nil =>
    obtain ⟨_, rfl⟩ := pure_ok.mp run
    exact ⟨nothing before start, by simp⟩
  | cons x items ih =>
    rw [List.foldlM_cons] at run
    obtain ⟨_, middle, ran, rest⟩ := bind_ok.mp run
    obtain ⟨kept, first, here⟩ := step _ x (by simp) _ _ _ start ran
    obtain ⟨second, later⟩ := ih (fun b x member => step b x (by simp [member])) kept rest
    exact ⟨append first second, by simpa using ⟨here, later⟩⟩

theorem forM_eq_foldlM (f : α → EStateM ε σ PUnit) (items : List α) :
    items.forM f = items.foldlM (fun _ x => f x) ⟨⟩ := by
  induction items with
  | nil => rfl
  | cons x items ih =>
    rw [List.forM_eq_forM, List.forM_cons, List.foldlM_cons]
    exact congrArg (f x >>= ·) (funext fun _ => ih)

theorem forIn_eq_forM {f : α → PUnit → EStateM ε σ (ForInStep PUnit)} {g : α → EStateM ε σ PUnit} (items : List α)
    (same : ∀ x ∈ items, f x ⟨⟩ = (g x >>= fun _ => pure (.yield ⟨⟩))) : forIn items PUnit.unit f = forM items g := by
  induction items with
  | nil => rfl
  | cons x items ih =>
    rw [List.forIn_cons, List.forM_cons, same x (by simp), bind_assoc]
    congr 1
    funext _
    rw [pure_bind]
    exact ih fun y member => same y (List.mem_cons_of_mem _ member)

/-- A loop whose steps are known: it returns exactly if each item is allowed. -/
theorem forM_ok {f : α → EStateM ε σ PUnit} {allowed : α → Prop} {next : σ → α → σ} {u : PUnit} {items : List α}
    (step : ∀ a ∈ items, ∀ s v t, (f a).run s = .ok v t ↔ allowed a ∧ t = next s a) :
    (forM items f).run before = .ok u after ↔ (∀ a ∈ items, allowed a) ∧ after = items.foldl next before := by
  induction items generalizing before with
  | nil =>
    rw [List.forM_nil, pure_ok]
    simp [eq_comm]
  | cons a items ih =>
    have rest (s : σ) := @ih s fun b member => step b (List.mem_cons_of_mem _ member)
    rw [List.forM_cons, bind_ok, List.foldl_cons, List.forall_mem_cons]
    constructor
    · rintro ⟨_, middle, here, later⟩
      obtain ⟨holds, rfl⟩ := (step a List.mem_cons_self _ _ _).mp here
      exact ⟨⟨holds, ((rest _).mp later).1⟩, ((rest _).mp later).2⟩
    · rintro ⟨⟨holds, others⟩, same⟩
      exact ⟨⟨⟩, next before a, (step a List.mem_cons_self _ _ _).mpr ⟨holds, rfl⟩, (rest _).mpr ⟨others, same⟩⟩

def Returns (x : EStateM ε σ α) (before : σ) : Prop := ∃ a after, x.run before = .ok a after

theorem Returns.pure (a : α) : Returns (pure a : EStateM ε σ α) before := ⟨a, before, rfl⟩

theorem Returns.bind {x : EStateM ε σ α} {f : α → EStateM ε σ β} (first : Returns x before)
    (rest : ∀ a middle, x.run before = .ok a middle → Returns (f a) middle) : Returns (x >>= f) before := by
  obtain ⟨a, middle, ran⟩ := first
  obtain ⟨b, after, next⟩ := rest a middle ran
  exact ⟨b, after, bind_ok.mpr ⟨a, middle, ran, next⟩⟩

theorem Returns.step {x : EStateM ε σ α} {f : α → EStateM ε σ β} {a : α} {middle : σ} (ran : x.run before = .ok a middle)
    (rest : Returns (f a) middle) : Returns (x >>= f) before := by
  obtain ⟨b, after, next⟩ := rest
  exact ⟨b, after, bind_ok.mpr ⟨a, middle, ran, next⟩⟩

theorem Returns.modify (f : σ → σ) : Returns (modify f : EStateM ε σ PUnit) before :=
  ⟨⟨⟩, f before, modify_ok.mpr rfl⟩

theorem Returns.forM {I : σ → Prop} {f : α → EStateM ε σ PUnit} (items : List α)
    (step : ∀ a ∈ items, ∀ before, I before → Returns (f a) before ∧
      ∀ u after, (f a).run before = .ok u after → I after) (start : I before) :
    Returns (items.forM f) before := by
  induction items generalizing before with
  | nil => exact Returns.pure _
  | cons item items ih =>
    rw [List.forM_eq_forM, List.forM_cons]
    obtain ⟨returns, keeps⟩ := step item (by simp) before start
    apply Returns.bind returns
    intro u middle ran
    exact ih (fun a member => step a (by simp [member])) (keeps u middle ran)

end

end CnnForge.Outcome
