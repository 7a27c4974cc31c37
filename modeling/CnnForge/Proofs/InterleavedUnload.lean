import CnnForge.Proofs.OutputImage
import CnnForge.Proofs.UnloadText

namespace CnnForge

open Outcome List Interleaver Plan

namespace OutputLayout

variable {l : OutputLayout} {d : Device} {b : OutputBlock} {bs : List OutputBlock} {c : Nat}

theorem Packed.channels_eq (packed : Packed l d) (fits : Fits l b) : b.channels = b.usedLanes.map (b.first + ·) := by
  apply map_congr_left
  intro lane member
  obtain ⟨bound, used⟩ := mem_filter.mp member
  have bound := mem_range.mp bound
  rw [packed.testBit fits bound, decide_eq_true_eq] at used
  rw [packed.countBelow_lanes fits (Nat.le_of_lt bound)]
  omega

theorem Covers.consecutive (covers : Covers l c bs) :
    ∃ n, bs.flatMap OutputBlock.channels = range' c n ∧ l.shape.channels ≤ c + n := by
  induction covers with
  | done all => exact ⟨0, rfl, all⟩
  | @block c b bs first fits rest ih =>
    obtain ⟨n, listed, all⟩ := ih
    subst first
    exact ⟨b.count + n, by rw [flatMap_cons, listed, fits.channels_eq, range'_append_1], by omega⟩

end OutputLayout

namespace Interleaver

/-- Where the unit reads and the program stores; a word that was stored is listed with its channel, its first pixel and
its index in the output. -/
structure Unloading where
  channel : Nat := 0
  pixel : Nat := 0
  offset : Nat := 0
  stored : List (Nat × Nat × Nat) := []

namespace Unloading

def store (s : Unloading) : Unloading :=
  { s with stored := s.stored ++ [(s.channel, s.pixel, s.offset)], pixel := s.pixel + 4, offset := s.offset + 1 }

def stores (s : Unloading) : Nat → Unloading
  | 0 => s
  | n + 1 => (s.stores n).store

def step (s : Unloading) : InterleaverStatement → Unloading
  | .channel c => { s with channel := c, pixel := 0 }
  | .start _ n => { s with pixel := n }
  | .offset words => { s with offset := words }
  | .store _ => s.store
  | .loop times chunk => s.stores (times * chunk)
  | _ => s

theorem stores_add (s : Unloading) (m n : Nat) : s.stores (m + n) = (s.stores m).stores n := by
  induction n with
  | zero => rfl
  | succ n ih => rw [← Nat.add_assoc, stores, ih, stores]

theorem foldl_replicate (s : Unloading) (n : Nat) : (replicate n (.store "")).foldl step s = s.stores n := by
  induction n with
  | zero => rfl
  | succ n ih => rw [replicate_succ', foldl_append, ih, foldl_cons, foldl_nil, step, stores]

theorem foldl_stores (s : Unloading) {chunk : Nat} (several : chunk ≠ 1) (n : Nat) :
    (Interleaver.stores chunk n).foldl step s = s.stores n := by
  rw [Interleaver.stores, if_neg several]
  split
  · rw [foldl_cons, foldl_replicate, step, ← stores_add, Nat.div_add_mod']
  · exact foldl_replicate s n

end Unloading

def execute (program : List InterleaverStatement) : Unloading := program.foldl Unloading.step {}

namespace Plan

variable {chunk : Nat} {p : Plan}

def pending (p : Plan) (chunk : Nat) : Nat := if chunk = 1 then 0 else p.waiting

def settled (p : Plan) (chunk : Nat) : Unloading := (execute p.statements.toList).stores (p.pending chunk)

section

variable (p : Plan) (xs : List InterleaverStatement)

@[simp] theorem add_waiting : (p.add xs).waiting = p.waiting := rfl

@[simp] theorem add_readAddress : (p.add xs).readAddress = p.readAddress := rfl

@[simp] theorem add_writeAddress : (p.add xs).writeAddress = p.writeAddress := rfl

end

theorem settled_add (none : p.pending chunk = 0) (xs : List InterleaverStatement) :
    (p.add xs).settled chunk = xs.foldl Unloading.step (p.settled chunk) := by
  have none' : (p.add xs).pending chunk = 0 := none
  rw [settled, settled, none, none', add, execute, Array.toList_append, foldl_append]
  rfl

theorem flush_spec (p : Plan) (chunk : Nat) : (p.flush chunk).pending chunk = 0 ∧
    (p.flush chunk).settled chunk = p.settled chunk ∧ (p.flush chunk).writeAddress = p.writeAddress := by
  unfold flush
  split
  · refine ⟨by simp [pending], ?_, rfl⟩
    by_cases one : chunk = 1
    · simp [settled, pending, one, stores, add]
    · have all := Unloading.foldl_stores (execute p.statements.toList) one p.waiting
      simp only [settled, pending, if_neg one, Unloading.stores, add, ← all]
      rw [execute, Array.toList_append, foldl_append]
      rfl
  · refine ⟨?_, rfl, rfl⟩
    unfold pending
    split <;> omega

/-- The stores of the plan, and where it goes on: the next word of channel `c` is the one of pixel `n`. -/
structure At (p : Plan) (chunk c n : Nat) (stored : List (Nat × Nat × Nat)) : Prop where
  channel : (p.settled chunk).channel = c
  pixel : (p.settled chunk).pixel = n
  stored : (p.settled chunk).stored = stored
  offset : ∀ a, p.writeAddress = some a → (p.settled chunk).offset = a / 4

end Plan

variable {l : OutputLayout} {d : Device} {base : Int} {chunk : Nat} {b : OutputBlock} {lane c n : Nat} {p : Plan}
  {stored : List (Nat × Nat × Nat)}

namespace Plan

/-- The statements before the word at `goal`, if it does not follow the word before it. -/
def aim (p : Plan) (goal : Nat) : Plan := if p.writeAddress ≠ some goal then p.add [.offset (goal / 4)] else p

def restart (p : Plan) (d : Device) (base : Int) (chunk : Nat) (b : OutputBlock) (lane n : Nat) : Plan :=
  let group : Int := b.processor / d.groupSize
  (if n ≠ 0 then (p.flush chunk).add [.disable] else p.flush chunk).add
    [.start (base + d.layerAddress group d.layerReg.writeBase 0) n,
      .increment (base + d.layerAddress group d.layerReg.control2 0) b.pass, .enable lane, .prime]

def take (p : Plan) (chunk c row column : Nat) (source : Int) (goal : Nat) : Plan :=
  { (if chunk = 1 then p.add [.store s!" // {c},{row},{column}-{column + 3}"] else p) with
    waiting := p.waiting + 1, readAddress := some (source + 4), writeAddress := some (goal + 4) }

def word (p : Plan) (l : OutputLayout) (d : Device) (base : Int) (chunk : Nat) (b : OutputBlock) (lane c n : Nat) : Plan :=
  let source := l.offset + (OutputLayout.blockWord d b + (n / 4 * l.width + b.pass * l.size : Nat)) * 4
  let aimed := p.aim (target l c n)
  (if aimed.readAddress ≠ some source then aimed.restart d base chunk b lane n else aimed).take chunk c
    (n / l.shape.width) (n % l.shape.width) source (target l c n)

end Plan

theorem planWord_run : (planWord l d base chunk b lane c n).run p =
    if target l c n % 4 ≠ 0 then .error (.check "") p else .ok () (p.word l d base chunk b lane c n) := by
  unfold planWord Plan.word Plan.aim Plan.restart Plan.take
  dsimp only
  generalize l.offset + (OutputLayout.blockWord d b + (n / 4 * l.width + b.pass * l.size : Nat)) * 4 = source
  generalize target l c n = goal
  by_cases whole : goal % 4 = 0
  · by_cases goes : p.writeAddress = some goal <;> by_cases read : p.readAddress = some source <;>
      by_cases one : chunk = 1 <;> obtain first | first := Classical.propComplete (n = 0) <;>
      simp [whole, goes, read, one, first]
  · simp [whole]

namespace Plan

theorem settled_aim {goal : Nat} (offset : ∀ a, p.writeAddress = some a → (p.settled chunk).offset = a / 4)
    (straight : p.pending chunk = 0 ∨ p.writeAddress = some goal) :
    (p.aim goal).settled chunk = { p.settled chunk with offset := goal / 4 } := by
  unfold aim
  split
  · rename_i goes
    exact settled_add (straight.resolve_right goes) _
  · rename_i goes
    rw [← offset goal (Decidable.not_not.mp goes)]

theorem settled_restart (pixel : (p.settled chunk).pixel = n) :
    (p.restart d base chunk b lane n).settled chunk = p.settled chunk := by
  obtain ⟨none, same, _⟩ := p.flush_spec chunk
  generalize stopped : (if n ≠ 0 then (p.flush chunk).add [.disable] else p.flush chunk) = q
  have off : q.pending chunk = 0 ∧ q.settled chunk = p.settled chunk := by
    subst stopped
    split
    · refine ⟨none, ?_⟩
      rw [settled_add none, same]
      rfl
    · exact ⟨none, same⟩
  rw [restart, stopped, settled_add off.1, off.2, ← pixel]
  rfl

theorem settled_take {row column : Nat} {source : Int} {goal : Nat} :
    (p.take chunk c row column source goal).settled chunk = (p.settled chunk).store := by
  by_cases one : chunk = 1
  · have none : p.pending chunk = 0 := if_pos one
    have stored := settled_add none [.store s!" // {c},{row},{column}-{column + 3}"]
    simp only [settled, pending, one, if_true, take] at stored ⊢
    exact stored
  · simp [settled, pending, one, take, Unloading.stores]

theorem word_writeAddress : (p.word l d base chunk b lane c n).writeAddress = some (target l c n + 4) := rfl

theorem At.word (here : p.At chunk c n stored) (straight : p.pending chunk = 0 ∨ p.writeAddress = some (target l c n)) :
    (p.word l d base chunk b lane c n).At chunk c (n + 4) (stored ++ [(c, n, target l c n / 4)]) := by
  have aimed := settled_aim here.offset straight
  have all : (p.word l d base chunk b lane c n).settled chunk =
      { p.settled chunk with offset := target l c n / 4 : Unloading }.store := by
    rw [Plan.word, settled_take]
    dsimp only
    split
    · rw [settled_restart (by rw [aimed]; exact here.pixel), aimed]
    · rw [aimed]
  refine ⟨?_, ?_, ?_, ?_⟩
  · rw [all]
    exact here.channel
  · rw [all, ← here.pixel]
    rfl
  · rw [all, ← here.channel, ← here.pixel, ← here.stored]
    rfl
  · intro a goes
    rw [word_writeAddress, Option.some.injEq] at goes
    rw [all, ← goes, Nat.add_div_right _ (by omega)]
    rfl

/-- The words of a channel, from pixel 0 on. -/
def words (p : Plan) (l : OutputLayout) (d : Device) (base : Int) (chunk : Nat) (b : OutputBlock) (lane c count : Nat) :
    Plan :=
  (range count).foldl (fun p k => p.word l d base chunk b lane c (4 * k)) p

theorem At.words (here : p.At chunk c 0 stored) (none : p.pending chunk = 0) {count : Nat}
    (straight : chunk = 1 ∨ ∀ k, k + 1 < count → target l c (4 * (k + 1)) = target l c (4 * k) + 4) :
    (p.words l d base chunk b lane c count).At chunk c (4 * count)
      (stored ++ (range count).map fun k => (c, 4 * k, target l c (4 * k) / 4)) := by
  induction count with
  | zero => simpa [Plan.words] using here
  | succ count ih =>
    have before := ih (straight.imp_right fun follows k less => follows k (by omega))
    have goes : (p.words l d base chunk b lane c count).pending chunk = 0 ∨
        (p.words l d base chunk b lane c count).writeAddress = some (target l c (4 * count)) := by
      rcases straight with one | follows
      · exact .inl (if_pos one)
      · cases count with
        | zero => exact .inl none
        | succ count =>
          rw [follows count (by omega), Plan.words, range_succ, foldl_append]
          exact .inr word_writeAddress
    rw [range_succ, map_append, ← append_assoc, Plan.words, range_succ, foldl_append]
    exact before.word goes

structure Ready (p : Plan) (chunk : Nat) (stored : List (Nat × Nat × Nat)) : Prop where
  none : p.pending chunk = 0
  stored : (p.settled chunk).stored = stored
  offset : ∀ a, p.writeAddress = some a → (p.settled chunk).offset = a / 4

def select (p : Plan) (d : Device) (base : Int) (b : OutputBlock) : Plan :=
  let group : Int := b.processor / d.groupSize
  let unit := base + d.controlAddress group d.controlReg.mlator
  if p.unit ≠ some unit then
    { p with unit := some unit }.add [.units (base + d.controlAddress group d.controlReg.control) unit]
  else p

def channel (p : Plan) (l : OutputLayout) (d : Device) (base : Int) (chunk : Nat) (b : OutputBlock) (lane : Nat) : Plan :=
  (((p.add [.channel (b.first + lane)]).words l d base chunk b lane (b.first + lane) ((l.shape.pixels + 3) / 4)).flush
    chunk).add [.disable]

def block (p : Plan) (l : OutputLayout) (d : Device) (base : Int) (chunk : Nat) (b : OutputBlock) : Plan :=
  b.usedLanes.foldl (fun p lane => p.channel l d base chunk b lane) (p.select d base b)

theorem Ready.select (ready : p.Ready chunk stored) : (p.select d base b).Ready chunk stored := by
  unfold Plan.select
  dsimp only
  split
  · exact ⟨ready.none, (congrArg Unloading.stored (settled_add ready.none _)).trans ready.stored, fun a goes =>
      (congrArg Unloading.offset (settled_add ready.none _)).trans (ready.offset a goes)⟩
  · exact ready

theorem Ready.channel (ready : p.Ready chunk stored)
    (straight : chunk = 1 ∨ ∀ k, k + 1 < (l.shape.pixels + 3) / 4 →
      target l (b.first + lane) (4 * (k + 1)) = target l (b.first + lane) (4 * k) + 4) :
    (p.channel l d base chunk b lane).Ready chunk (stored ++ (range ((l.shape.pixels + 3) / 4)).map fun k =>
      (b.first + lane, 4 * k, target l (b.first + lane) (4 * k) / 4)) := by
  have named := settled_add ready.none [.channel (b.first + lane)]
  have start : (p.add [.channel (b.first + lane)]).At chunk (b.first + lane) 0 stored :=
    ⟨by rw [named]; rfl, by rw [named]; rfl, by rw [named]; exact ready.stored, by rw [named]; exact ready.offset⟩
  have read : ((p.add [.channel (b.first + lane)]).words l d base chunk b lane (b.first + lane)
      ((l.shape.pixels + 3) / 4)).At chunk _ _ _ := start.words ready.none straight
  unfold Plan.channel
  generalize (p.add [.channel (b.first + lane)]).words l d base chunk b lane (b.first + lane)
    ((l.shape.pixels + 3) / 4) = q at read ⊢
  obtain ⟨none, same, kept⟩ := q.flush_spec chunk
  have last : ((q.flush chunk).add [.disable]).settled chunk = q.settled chunk := by
    rw [settled_add none, same]
    rfl
  refine ⟨none, last ▸ read.stored, fun a goes => ?_⟩
  rw [last]
  exact read.offset a (kept ▸ goes)

end Plan

theorem forM_planWord_ok {u : PUnit} {count : Nat} {q : Plan} :
    (forM (range count) fun k => planWord l d base chunk b lane c (4 * k)).run p = .ok u q ↔
      (∀ k ∈ range count, target l c (4 * k) % 4 = 0) ∧ q = p.words l d base chunk b lane c count := by
  apply forM_ok
  intro k _ s u t
  rw [planWord_run]
  split
  · rename_i part
    simp [part]
  · rename_i whole
    simp [Decidable.not_not.mp whole, eq_comm]

/-- The channels of a block are read one after the other, if their words go to multiples of 4. -/
theorem planBlock_ok {u : Unit} {q : Plan} : (planBlock l d base chunk b).run p = .ok u q ↔
    (l.size = 1 ∧ ∀ lane ∈ b.usedLanes, ∀ k ∈ range ((l.shape.pixels + 3) / 4), target l (b.first + lane) (4 * k) % 4 = 0) ∧
      q = p.block l d base chunk b := by
  have lanes (s : Plan) : (do
      for lane in b.usedLanes do
        let c := b.first + lane
        modify (·.add [.channel c])
        for k in List.range ((l.shape.pixels + 3) / 4) do
          planWord l d base chunk b lane c (4 * k)
        modify (·.flush chunk)
        modify (·.add [.disable]) : Planning Unit).run s = .ok u q ↔
      (∀ lane ∈ b.usedLanes, ∀ k ∈ range ((l.shape.pixels + 3) / 4), target l (b.first + lane) (4 * k) % 4 = 0) ∧
        q = b.usedLanes.foldl (fun p lane => p.channel l d base chunk b lane) s := by
    rw [Outcome.forIn_eq_forM (g := fun lane => do
      modify (·.add [.channel (b.first + lane)])
      forM (range ((l.shape.pixels + 3) / 4)) fun k => planWord l d base chunk b lane (b.first + lane) (4 * k)
      modify (·.flush chunk)
      modify (·.add [.disable])), bind_pure_unit]
    · apply forM_ok
      intro lane _ s v t
      simp only [bind_ok, modify_ok, forM_planWord_ok]
      constructor
      · rintro ⟨_, _, rfl, _, _, ⟨whole, rfl⟩, _, _, rfl, rfl⟩
        exact ⟨whole, rfl⟩
      · rintro ⟨whole, rfl⟩
        exact ⟨(), _, rfl, (), _, ⟨whole, rfl⟩, (), _, rfl, rfl⟩
    · intro lane _
      dsimp only
      rw [Outcome.forIn_eq_forM _ fun _ _ => rfl]
      simp only [bind_assoc]
  unfold planBlock block select
  by_cases size : l.size = 1
  · simp only [size, ne_eq, not_true, if_false, true_and]
    rw [EStateM.run_bind, EStateM.run_get]
    dsimp only
    split
    · exact lanes _
    · exact lanes p
  · simp [size]

theorem Plan.Ready.foldl {α : Type} {f : Plan → α → Plan} {g : α → List (Nat × Nat × Nat)} (items : List α)
    (ready : p.Ready chunk stored)
    (step : ∀ a ∈ items, ∀ (q : Plan) (before : List (Nat × Nat × Nat)), q.Ready chunk before →
      (f q a).Ready chunk (before ++ g a)) :
    (items.foldl f p).Ready chunk (stored ++ items.flatMap g) := by
  induction items generalizing p stored with
  | nil => simpa using ready
  | cons a items ih =>
    rw [foldl_cons, flatMap_cons, ← append_assoc]
    exact ih (step a mem_cons_self p stored ready) fun b member => step b (mem_cons_of_mem _ member)

/-- The words of a channel: its pixels four at a time. -/
def channelWords (l : OutputLayout) (c : Nat) : List (Nat × Nat × Nat) :=
  (range ((l.shape.pixels + 3) / 4)).map fun k => (c, 4 * k, target l c (4 * k) / 4)

section

variable {bs : List OutputBlock} {count : Nat} (packed : l.Packed d) (fits : ∀ b ∈ bs, l.Fits b)
  (channels : bs.flatMap OutputBlock.channels = range count)

include packed fits channels

theorem planBlocks_ok (size : l.size = 1) {u : Unit} {q : Plan} : (bs.forM (planBlock l d base chunk)).run p = .ok u q ↔
    (∀ c < count, ∀ k ∈ range ((l.shape.pixels + 3) / 4), target l c (4 * k) % 4 = 0) ∧
      q = bs.foldl (fun p b => p.block l d base chunk b) p := by
  rw [forM_eq_forM, forM_ok fun b _ s v t => planBlock_ok]
  apply and_congr_left'
  constructor
  · intro whole c less
    obtain ⟨b, among, member⟩ := mem_flatMap.mp (channels ▸ mem_range.mpr less)
    rw [packed.channels_eq (fits b among)] at member
    obtain ⟨lane, used, rfl⟩ := mem_map.mp member
    exact (whole b among).2 lane used
  · intro whole b among
    refine ⟨size, fun lane used => whole _ (mem_range.mp ?_)⟩
    rw [← channels, mem_flatMap]
    exact ⟨b, among, packed.channels_eq (fits b among) ▸ mem_map_of_mem used⟩

theorem planBlocks_stored (straight : chunk = 1 ∨
      ∀ c k, k + 1 < (l.shape.pixels + 3) / 4 → target l c (4 * (k + 1)) = target l c (4 * k) + 4) :
    (execute (bs.foldl (fun p b => p.block l d base chunk b) ({} : Plan)).statements.toList).stored =
      (range count).flatMap (channelWords l) := by
  have start : ({} : Plan).Ready chunk [] := by
    have none : ({} : Plan).pending chunk = 0 := by simp [pending]
    exact ⟨none, by rw [settled, none]; rfl, nofun⟩
  have ready := start.foldl bs (g := fun b => b.channels.flatMap (channelWords l))
    (f := fun p b => p.block l d base chunk b) fun b among q before ready => by
      rw [packed.channels_eq (fits b among), flatMap_map]
      exact ready.select.foldl _ fun lane _ q before ready => ready.channel (straight.imp_right fun follows => follows _)
  have stored := ready.stored
  rwa [settled, ready.none, nil_append, ← flatMap_assoc, channels] at stored

end

/-- The words go where the output has them. Every word of the output is stored, and no word twice. -/
structure Placed (l : OutputLayout) (stored : List (Nat × Nat × Nat)) : Prop where
  index : ∀ c n i, (c, n, i) ∈ stored → i = (c * l.shape.pixels + n) / 4
  all : ∀ c < l.shape.channels, ∀ n < l.shape.pixels, n % 4 = 0 → (c, n, (c * l.shape.pixels + n) / 4) ∈ stored
  once : (stored.map fun x => x.2.2).Nodup

/-- The shapes in which no row that is unloaded begins elsewhere than `target` has it. -/
def Regular (l : OutputLayout) : Prop :=
  l.shape.height = l.shape.width ∨ (l.shape.height - 1) * l.shape.width < 4

theorem target_eq (regular : Regular l) (whole : l.shape.pixels % 4 = 0) {k : Nat} (inside : k < l.shape.pixels / 4)
    (c : Nat) : target l c (4 * k) = c * l.shape.pixels + 4 * k := by
  have row : 4 * k / l.shape.width * l.shape.height + 4 * k % l.shape.width = 4 * k := by
    rcases regular with square | small
    · rw [square, Nat.div_add_mod']
    · have first : 4 * k < l.shape.width := by
        have rows := Nat.sub_mul l.shape.height 1 l.shape.width
        unfold DataShape.pixels at whole inside
        omega
      rw [Nat.div_eq_of_lt first, Nat.mod_eq_of_lt first, Nat.zero_mul, Nat.zero_add]
  rw [target, Nat.mul_assoc, Nat.add_assoc, row, DataShape.pixels]

theorem target_ne (irregular : ¬Regular l) :
    4 ≤ l.shape.pixels ∧ target l 0 (l.shape.pixels - 4) ≠ l.shape.pixels - 4 := by
  obtain ⟨oblong, large⟩ := not_or.mp irregular
  have rows := Nat.sub_mul l.shape.height 1 l.shape.width
  unfold target DataShape.pixels
  rw [Nat.zero_mul, Nat.zero_mul, Nat.zero_add]
  generalize last : l.shape.height * l.shape.width - 4 = n
  refine ⟨by omega, fun same => oblong ?_⟩
  have positive : 0 < l.shape.width := Nat.pos_of_ne_zero fun none => by simp [none] at large
  have below : 0 < n / l.shape.width := Nat.div_pos (by omega) positive
  have split := Nat.div_add_mod' n l.shape.width
  exact Nat.eq_of_mul_eq_mul_left below (by omega)

theorem placed_of_regular (regular : Regular l) (whole : l.shape.pixels % 4 = 0) {count : Nat}
    (all : l.shape.channels ≤ count) : Placed l ((range count).flatMap (channelWords l)) := by
  have index (c k : Nat) : (c * l.shape.pixels + 4 * k) / 4 = c * (l.shape.pixels / 4) + k := by
    have quarter : c * l.shape.pixels = 4 * (c * (l.shape.pixels / 4)) := by
      rw [Nat.mul_left_comm, Nat.mul_div_cancel' (Nat.dvd_of_mod_eq_zero whole)]
    omega
  have words (c : Nat) : channelWords l c =
      (range (l.shape.pixels / 4)).map fun k => (c, 4 * k, c * (l.shape.pixels / 4) + k) := by
    rw [channelWords, show (l.shape.pixels + 3) / 4 = l.shape.pixels / 4 by omega]
    apply map_congr_left
    intro k member
    rw [target_eq regular whole (mem_range.mp member), index c k]
  refine ⟨?_, ?_, ?_⟩
  · intro c n i member
    obtain ⟨_, _, member⟩ := mem_flatMap.mp member
    rw [words] at member
    obtain ⟨k, _, same⟩ := mem_map.mp member
    cases same
    exact (index c k).symm
  · intro c less n inside multiple
    obtain ⟨k, rfl⟩ := Nat.dvd_of_mod_eq_zero multiple
    refine mem_flatMap.mpr ⟨c, mem_range.mpr (Nat.lt_of_lt_of_le less all), ?_⟩
    rw [words, index]
    exact mem_map.mpr ⟨k, mem_range.mpr (by omega), rfl⟩
  · have pairs := flatMap_range_flatMap count (l.shape.pixels / 4) fun c k => [c * (l.shape.pixels / 4) + k]
    simp only [← map_eq_flatMap, Nat.div_add_mod', map_id'] at pairs
    simp only [map_flatMap, words, map_map, Function.comp_def, pairs]
    exact nodup_range

end Interleaver

namespace Unload

variable {out : Sink} {d : Device} {o : Options} {l : OutputLayout} {before : Session}

def unrolling (o : Options) : Int := if o.embeddedCode then o.mlatorChunk else 1

def interleavedText (d : Device) (o : Options) (l : OutputLayout) (unchanged : Bool) (program : List InterleaverStatement) :
    String :=
  s!"// Custom unload for this network: {l.bits}-bit data, shape: {shapeText l.shape unchanged}\n"
    ++ CSource.functionHeader o { function := "unload", arguments := "uint32_t *out_buf32" }
    ++ declarations l true (unrolling o)
    ++ (String.join (program.map (text d)) ++ CSource.functionFooter)

theorem usesInterleaver_unit (before : Session) (program : o.blockMode = false) (on : o.mlator = true) (bits : l.bits = 8)
    (whole : l.shape.pixels % 4 = 0) : (usesInterleaver o l).run before = .ok true before := by
  refine bind_ok.mpr ⟨(), before, Run.check_ok.mpr ⟨by simp [program], rfl⟩, ?_⟩
  simp [on, bits, whole]

theorem generate_interleaves (writer : UnloadWriter out d o before) (on : o.mlator = true) (bits : l.bits = 8)
    (whole : l.shape.pixels % 4 = 0) (positive : 1 ≤ unrolling o) {bs : List OutputBlock} (listed : l.blocks d = .ok bs)
    {p : Interleaver.Plan}
    (planned : (bs.forM (planBlock l d o.apbBase (unrolling o).toNat)).run {} = .ok () p) (unchanged : Bool) :
    ∃ after, (generate (some out) l unchanged).run before = .ok () after ∧
      after.text out = before.text out ++ interleavedText d o l unchanged p.statements.toList := by
  have program : o.blockMode = false := writer.checked.resolve_right (by simp [on])
  let header := s!"// Custom unload for this network: {l.bits}-bit data, shape: {shapeText l.shape unchanged}\n"
    ++ CSource.functionHeader o { function := "unload", arguments := "uint32_t *out_buf32" }
    ++ declarations l true (unrolling o)
  let statements := String.join (p.statements.toList.map (text d))
  let headed := before.append out header
  have emits := (Emits.append before out header).trans
    ((Emits.append headed out statements).trans (.append _ out CSource.functionFooter))
  have filled : (interleaved l d o out (unrolling o) bs).run headed = .ok () (headed.append out statements) := by
    rw [interleaved, if_neg (by omega)]
    dsimp only
    rw [planned]
    rfl
  have buffer : (if l.bits = 32 then "out_buf" else "out_buf32") = "out_buf32" := by simp [bits]
  refine ⟨_, ?_, emits.text writer.takes⟩
  refine bind_ok.mpr ⟨d, before, Run.device_ok.mpr ⟨writer.device, rfl⟩, ?_⟩
  refine bind_ok.mpr ⟨o, before, Run.options_ok.mpr ⟨writer.options, rfl⟩, ?_⟩
  refine bind_ok.mpr ⟨true, before, usesInterleaver_unit before program on bits whole, ?_⟩
  refine bind_ok.mpr ⟨out, before, Run.orFail_ok.mpr ⟨rfl, rfl⟩, ?_⟩
  rw [buffer]
  refine bind_ok.mpr ⟨(), headed, rfl, bind_ok.mpr ⟨bs, headed, Run.lift_ok.mpr ⟨listed, rfl⟩, ?_⟩⟩
  exact bind_ok.mpr ⟨(), _, filled, rfl⟩

/-- The function is written, and what it stores is in its place. -/
def Unloads (out : Sink) (d : Device) (l : OutputLayout) (unchanged : Bool) (before : Session) : Prop :=
  ∃ after bs p, (generate (some out) l unchanged).run before = .ok () after ∧ l.blocks d = .ok bs ∧
    (bs.forM (planBlock l d before.options.apbBase (unrolling before.options).toNat)).run {} = .ok () p ∧
    after.text out = before.text out ++ interleavedText d before.options l unchanged p.statements.toList ∧
    Interleaver.Placed l (Interleaver.execute p.statements.toList).stored

/-- With every unrolling, the unit's words are stored in their places exactly if the output is square or all words begin
in its first row. -/
theorem unloads_iff_regular (writer : UnloadWriter out d o before) (packed : l.Packed d) (on : o.mlator = true)
    (bits : l.bits = 8) (whole : l.shape.pixels % 4 = 0) (some_channels : 0 < l.shape.channels) (unchanged : Bool) :
    (∀ n : Int, 1 ≤ n → Unloads out d l unchanged { before with options := { o with mlatorChunk := n } }) ↔
      Interleaver.Regular l := by
  obtain ⟨bs, listed, covers⟩ := packed.covers
  obtain ⟨count, channels, all⟩ := covers.consecutive
  rw [Nat.zero_add] at all
  rw [← range_eq_range'] at channels
  have size : l.size = 1 := by rw [OutputLayout.size, bits]
  have words : (l.shape.pixels + 3) / 4 = l.shape.pixels / 4 := by omega
  have placed {chunk : Nat} {base : Int} := @planBlocks_stored l d base chunk bs count packed covers.fits channels
  have plans {chunk : Nat} {base : Int} {q : Interleaver.Plan} {u : Unit} :=
    @planBlocks_ok l d base chunk {} bs count packed covers.fits channels size u q
  constructor
  · intro unloads
    apply Classical.byContradiction
    intro irregular
    obtain ⟨large, elsewhere⟩ := target_ne irregular
    obtain ⟨_, bs', p, _, listed', planned, _, stored⟩ := unloads 1 (by omega)
    cases listed.symm.trans listed'
    have one : (unrolling { o with mlatorChunk := 1 }).toNat = 1 := by
      unfold unrolling
      split <;> rfl
    obtain ⟨multiples, rfl⟩ := plans.mp planned
    have last := stored.all 0 some_channels (l.shape.pixels - 4) (by omega) (by omega)
    rw [placed (.inl one)] at last
    obtain ⟨c, among, last⟩ := mem_flatMap.mp last
    obtain ⟨k, inside, same⟩ := mem_map.mp last
    simp only [Prod.mk.injEq] at same
    obtain ⟨rfl, pixel, index⟩ := same
    have multiple := multiples 0 (mem_range.mp among) k inside
    rw [pixel] at index multiple
    omega
  · intro regular n positive
    have chunk : 1 ≤ unrolling { o with mlatorChunk := n } := by
      unfold unrolling
      split <;> simp [positive]
    have multiples : ∀ c < count, ∀ k ∈ range ((l.shape.pixels + 3) / 4), target l c (4 * k) % 4 = 0 := by
      intro c _ k member
      have quarter : c * l.shape.pixels % 4 = 0 := by rw [Nat.mul_mod, whole, Nat.mul_zero, Nat.zero_mod]
      rw [target_eq regular whole (words ▸ mem_range.mp member)]
      omega
    have writer' : UnloadWriter out d { o with mlatorChunk := n } { before with options := { o with mlatorChunk := n } } := by
      obtain rfl := writer.options
      exact ⟨rfl, writer.device, writer.reserved, writer.takes, writer.checked⟩
    have planned (chunk : Nat) := (@plans chunk o.apbBase _ ()).mpr ⟨multiples, rfl⟩
    obtain ⟨after, run, text⟩ := generate_interleaves writer' on bits whole chunk listed (planned _) unchanged
    refine ⟨after, bs, _, run, listed, planned _, text, ?_⟩
    rw [placed (.inr fun c k less => ?_)]
    · exact placed_of_regular regular whole all
    · rw [target_eq regular whole (by omega), target_eq regular whole (by omega)]
      omega

def unitSession : Session := { device := some Device.max78000, options := { mlator := true } }

def squareOutput : OutputLayout := { processors := 0x3f, shape := ⟨6, 4, 4⟩, outExpandThresh := 6 }

def oblongOutput : OutputLayout := { processors := 1, shape := ⟨1, 2, 4⟩, outExpandThresh := 1 }

theorem unitSession_writer : UnloadWriter (.stream "main") Device.max78000 { mlator := true } unitSession :=
  ⟨rfl, rfl, ⟨nofun, nofun⟩, trivial, .inl rfl⟩

theorem unloads_square_not_oblong :
    (∀ n : Int, 1 ≤ n → Unloads (.stream "main") Device.max78000 squareOutput false
      { unitSession with options := { mlator := true, mlatorChunk := n } }) ∧
    ¬∀ n : Int, 1 ≤ n → Unloads (.stream "main") Device.max78000 oblongOutput false
      { unitSession with options := { mlator := true, mlatorChunk := n } } := by
  refine ⟨(unloads_iff_regular unitSession_writer ⟨rfl, by decide, by decide⟩ rfl rfl rfl (by decide) false).mpr (.inl rfl), ?_⟩
  rw [unloads_iff_regular unitSession_writer ⟨rfl, by decide, by decide⟩ rfl rfl rfl (by decide) false]
  exact not_or.mpr ⟨by decide, by decide⟩

/-- The second row of two rows of four pixels would go to byte 2. -/
theorem generate_fails_oblong : ∃ after,
    (generate (some (.stream "main")) oblongOutput).run unitSession = .error (.check "") after := by
  have listed : oblongOutput.blocks Device.max78000 = .ok [⟨0, 0, 0, 1⟩] := by cbv
  have decided := usesInterleaver_unit (l := oblongOutput) (o := unitSession.options) unitSession rfl rfl rfl rfl
  rw [generate, Run.device_bind (d := Device.max78000) rfl, Run.options_bind, EStateM.run_bind, decided]
  simp only [Run.orFail, pure_bind, EStateM.run_bind, listed, Run.lift]
  exact ⟨_, rfl⟩

end Unload

end CnnForge
