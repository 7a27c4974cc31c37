import CnnForge.BiasMemory.Loader
import CnnForge.Device.Catalog
import CnnForge.Proofs.BiasPlacement
import CnnForge.Proofs.RegisterFile
import Mathlib

namespace CnnForge

open Outcome List Accelerator.Adds Keeps

namespace Accelerator

section

variable {stores : List Store} {a v : Int} (found : ∃ s ∈ stores, s.address = a)
  (agree : ∀ s ∈ stores, s.address = a → s.value = v)
include found agree

theorem execute_common (file : RegisterFile) :
    execute stores file a = v % 0x100000000 := by
  induction stores generalizing file with
  | nil => simp at found
  | cons s stores ih =>
    rw [execute_cons]
    by_cases later : ∃ s' ∈ stores, s'.address = a
    · exact ih later (fun s' member => agree s' (by simp [member])) _
    · have here : s.address = a := by
        obtain ⟨s', member, same⟩ := found
        rcases mem_cons.mp member with rfl | member
        · exact same
        · exact absurd ⟨s', member, same⟩ later
      have untouched : ∀ s' ∈ stores, s'.address ≠ a := fun s' member same => later ⟨s', member, same⟩
      rw [execute_untouched untouched, Store.execute, if_pos here.symm, agree s (by simp) here]
      rfl

theorem execute_agree (low : 0 ≤ v) (high : v < 0x100000000) (file : RegisterFile) :
    execute stores file a = v := by
  rw [execute_common found agree, Int.emod_eq_of_lt low high]

end

namespace Adds

variable {d : Device} {o : Options} {out : Sink}

theorem functionFooter (value : String) :
    Adds d o out (CSource.functionFooter value) True (Bus.functionFooter value) := by
  refine get fun s writer => ?_
  rw [writer.kind]
  refine get fun s writer => ?_
  dsimp only
  rw [writer.librarySink]
  exact emit _

theorem libraryOutput (t : String) : Adds d o out t True (Bus.output t true) := by
  refine get fun s writer => ?_
  obtain ⟨main, known, goes, _⟩ := writer.sink
  simp only [writer.kind, known, goes]
  exact emit t

end Adds

abbrev KeepsWriter (d : Device) (o : Options) (out : Sink) (x : Run Unit) : Prop :=
  Keeps (fun before after => WritesProgram d o out before → WritesProgram d o out after) x

section

variable {d : Device} {o : Options} {out : Sink}

theorem KeepsWriter.refl (s : Session) : WritesProgram d o out s → WritesProgram d o out s := id

theorem KeepsWriter.trans (a b c : Session) (first : WritesProgram d o out a → WritesProgram d o out b)
    (second : WritesProgram d o out b → WritesProgram d o out c) : WritesProgram d o out a → WritesProgram d o out c :=
  second ∘ first

theorem Adds.keeps {t : String} {P : Prop} {x : Run Unit} (adds : Adds d o out t P x) : KeepsWriter d o out x :=
  fun before u after ran writer => (adds before u after writer ran).1

end

end Accelerator

namespace BiasMemory

open Accelerator

variable {d : Device} {plan : BiasPlan} {m size offset : Nat}
variable {top first : Nat} {writes : List BiasWrite} {s : BiasSettings} {r : BiasRequest} {tops : List Nat}
  {group : Int}

def address (d : Device) (group : Int) (offset : Nat) : Int := d.groupSpacing * group + d.biasBase + offset * 4

theorem address_injective (spaced : 4 * d.biasSize ≤ d.groupSpacing) {g g' o o' : Nat} (inside : o < d.biasSize)
    (inside' : o' < d.biasSize) (same : address d g o = address d g' o') : g = g' ∧ o = o' := by
  have equal : d.groupSpacing * g + o * 4 = d.groupSpacing * g' + o' * 4 := by
    unfold address at same
    omega
  rcases Nat.lt_trichotomy g g' with less | rfl | more
  · have step : d.groupSpacing * (g + 1) ≤ d.groupSpacing * g' := Nat.mul_le_mul_left _ less
    rw [Nat.mul_succ] at step
    omega
  · omega
  · have step : d.groupSpacing * (g' + 1) ≤ d.groupSpacing * g := Nat.mul_le_mul_left _ more
    rw [Nat.mul_succ] at step
    omega

def setByte (d : Device) (memory : Nat) (a : Array Int) (w : BiasWrite) : Array Int :=
  if w.memory? d = some memory then a.setIfInBounds w.offset w.value else a

theorem size_setByte (a : Array Int) (w : BiasWrite) : (setByte d m a w).size = a.size := by
  unfold setByte
  split
  · exact Array.size_setIfInBounds
  · rfl

theorem size_setBytes (writes : List BiasWrite) (a : Array Int) : (writes.foldl (setByte d m) a).size = a.size := by
  induction writes generalizing a with
  | nil => rfl
  | cons w writes ih => rw [foldl_cons, ih, size_setByte]

theorem setBytes_untouched (untouched : ∀ w ∈ writes, w.cell d ≠ (some m, offset)) (a : Array Int) :
    (writes.foldl (setByte d m) a)[offset]? = a[offset]? := by
  induction writes generalizing a with
  | nil => rfl
  | cons w writes ih =>
    rw [foldl_cons, ih fun w member => untouched w (by simp [member]), setByte]
    have other := untouched w (by simp)
    split
    · rename_i memory
      have apart : w.offset ≠ offset := fun same => other (by rw [BiasWrite.cell, memory, same])
      rw [Array.getElem?_setIfInBounds_ne apart]
    · rfl

theorem setBytes_agree {v : Int} (found : ∃ w ∈ writes, w.cell d = (some m, offset))
    (agree : ∀ w ∈ writes, w.cell d = (some m, offset) → w.value = v) (a : Array Int) (inside : offset < a.size) :
    (writes.foldl (setByte d m) a)[offset]? = some v := by
  induction writes generalizing a with
  | nil => simp at found
  | cons w writes ih =>
    rw [foldl_cons]
    by_cases later : ∃ w' ∈ writes, w'.cell d = (some m, offset)
    · exact ih later (fun w' member => agree w' (by simp [member])) _ (by rwa [size_setByte])
    · have here : w.cell d = (some m, offset) := by
        obtain ⟨w', member, same⟩ := found
        rcases mem_cons.mp member with rfl | member
        · exact same
        · exact absurd ⟨w', member, same⟩ later
      have memory : w.memory? d = some m := congrArg Prod.fst here
      have place : w.offset = offset := congrArg Prod.snd here
      rw [setBytes_untouched fun w' member same => later ⟨w', member, same⟩, setByte, if_pos memory, place,
        Array.getElem?_setIfInBounds_self_of_lt inside, agree w (by simp) here]

theorem contents_eq (d : Device) (writes : Array BiasWrite) (m size : Nat) :
    contents d writes m size = (writes.toList.foldl (setByte d m) (Array.replicate size 0)).toList := by
  rw [contents, ← Array.foldl_toList]
  rfl

theorem length_contents (d : Device) (writes : Array BiasWrite) (m size : Nat) :
    (contents d writes m size).length = size := by
  rw [contents_eq, Array.length_toList, size_setBytes, Array.size_replicate]

def wordStore (d : Device) (base : Int) (w : BiasWrite) : Store :=
  ⟨address d w.group w.offset + base, Bits.byte w.value, " // Bias"⟩

def Statement.stores (d : Device) (base : Int) : Statement → List Store
  | store w => [wordStore d base w]
  | copy memory bytes => bytes.zipIdx.map fun x => ⟨address d memory x.2 + base, x.1, ""⟩

/-- What the program that loads a plan does to memory. -/
def run (d : Device) (base : Int) (plan : BiasPlan) (embedded : Bool) : RegisterFile → RegisterFile :=
  execute ((statements d plan embedded).flatMap (Statement.stores d base))

structure Loadable (d : Device) (plan : BiasPlan) : Prop where
  exclusive : plan.Exclusive d
  quads : 4 ∣ d.biasSize
  spaced : 4 * d.biasSize ≤ d.groupSpacing
  memory : ∀ w ∈ plan.writes, ∃ m : Nat, w.group = m ∧ w.memory? d = some m
  byte : ∀ w ∈ plan.writes, 0 ≤ w.value ∧ w.value < 256

namespace Loadable

variable {base : Int} {file : RegisterFile} {w : BiasWrite}

theorem top_le (loadable : Loadable d plan) (known : plan.tops[m]? = some top) : top ≤ d.biasSize :=
  loadable.exclusive.bounded loadable.quads top (mem_of_getElem? known)

section

variable (loadable : Loadable d plan) (member : w ∈ plan.writes)
include loadable member

theorem eq_of_cell {w' : BiasWrite}
    (member' : w' ∈ plan.writes) (same : w.cell d = w'.cell d) : w = w' :=
  inj_on_of_nodup_map loadable.exclusive.once (Array.mem_toList_iff.mpr member) (Array.mem_toList_iff.mpr member') same

theorem cell_of_address (inside : offset < d.biasSize)
    (same : address d w.group w.offset = address d m offset) : w.cell d = (some m, offset) := by
  obtain ⟨m', group, memory⟩ := loadable.memory w member
  rw [group] at same
  obtain ⟨rfl, rfl⟩ := address_injective loadable.spaced (loadable.exclusive.inside w member).1 inside same
  rw [BiasWrite.cell, memory]

theorem contents_of_write
    (here : w.cell d = (some m, offset)) (inside : offset < size) :
    (contents d plan.writes m size)[offset]? = some w.value := by
  rw [contents_eq, Array.getElem?_toList]
  apply setBytes_agree ⟨w, Array.mem_toList_iff.mpr member, here⟩
  · intro w' member' here'
    rw [loadable.eq_of_cell member (Array.mem_toList_iff.mp member') (here.trans here'.symm)]
  · rwa [Array.size_replicate]

end

theorem contents_unwritten (untouched : ∀ w ∈ plan.writes, w.cell d ≠ (some m, offset)) (inside : offset < size) :
    (contents d plan.writes m size)[offset]? = some 0 := by
  rw [contents_eq, Array.getElem?_toList, setBytes_untouched fun w member => untouched w (Array.mem_toList_iff.mp member),
    Array.getElem?_replicate, if_pos inside]

end Loadable

theorem Loadable.of_placed {layers : List BiasLayer} {early middle : BiasPlan} {given : List BiasGrant}
    (placed : plan.Placed s layers first early given middle) (quads : 4 ∣ s.device.biasSize)
    (spaced : 4 * s.device.biasSize ≤ s.device.groupSpacing)
    (available : ∀ l ∈ layers, ∀ g ∈ l.allowedGroups.getD s.groupsUsed, 0 ≤ g) : Loadable s.device plan := by
  have exclusive := placed.exclusive
  have source : ∀ w ∈ plan.writes, 0 ≤ w.group ∧ ∃ v, w.value = Bits.byte v := by
    intro w member
    rw [← Array.mem_toList_iff, placed.writes, mem_append] at member
    rcases member with member | member
    · exact placed.of_early member
    · obtain ⟨⟨l, i⟩, listed, member⟩ := mem_flatMap.mp member
      have layer := mem_of_getElem? (mem_numberedFrom.mp listed).1
      have served := placed.served _ listed
      cases found : grantOf given i with
      | none =>
        rw [found] at member
        cases member
      | some g =>
        rw [found] at member served
        obtain ⟨x, _, rfl⟩ := mem_map.mp member
        obtain ⟨_, _, _, _, _, shape⟩ := BiasLayer.request?_eq_some served.1
        have allowed := (placed.reserved.valid g (mem_of_find?_eq_some found)).listed
        rw [shape] at allowed
        exact ⟨available l layer g.group allowed, x.2, rfl⟩
  refine ⟨exclusive, quads, spaced, ?_, ?_⟩
  · intro w member
    obtain ⟨m, group⟩ := Int.eq_ofNat_of_zero_le (source w member).1
    obtain ⟨_, m', _, memory, _, _⟩ := exclusive.inside w member
    refine ⟨m, group, ?_⟩
    rw [BiasWrite.memory?, group] at memory ⊢
    rw [memory, eq_of_position?_natCast memory]
  · intro w member
    obtain ⟨_, v, byte⟩ := source w member
    rw [byte]
    exact ⟨Int.emod_nonneg v (by decide), Int.emod_lt_of_pos v (by decide)⟩

theorem mem_stores_single {base : Int} {s : Store} :
    s ∈ (statements d plan false).flatMap (Statement.stores d base) ↔
      ∃ w ∈ plan.writes, s = wordStore d base w := by
  simp [statements, Statement.stores]

theorem mem_stores_embedded {base : Int} {s : Store} :
    s ∈ (statements d plan true).flatMap (Statement.stores d base) ↔
      ∃ m top offset v, plan.tops[m]? = some top ∧ (contents d plan.writes m top)[offset]? = some v ∧
        s = ⟨address d (m : Nat) offset + base, v, ""⟩ := by
  rw [statements, if_pos rfl, tables, map_map, flatMap_map, mem_flatMap]
  constructor
  · rintro ⟨⟨top, m⟩, used, stored⟩
    have known := mem_zipIdx_iff_getElem?.mp (mem_filter.mp used).1
    obtain ⟨⟨v, offset⟩, listed, rfl⟩ := mem_map.mp stored
    exact ⟨m, top, offset, v, known, mem_zipIdx_iff_getElem?.mp listed, rfl⟩
  · rintro ⟨m, top, offset, v, known, listed, rfl⟩
    have inside := (List.getElem?_eq_some_iff.mp listed).1
    rw [length_contents] at inside
    have used : decide (top > 0) = true := decide_eq_true (by omega)
    refine ⟨(top, m), mem_filter.mpr ⟨mem_zipIdx_iff_getElem?.mpr known, used⟩, ?_⟩
    exact mem_map.mpr ⟨(v, offset), mem_zipIdx_iff_getElem?.mpr listed, rfl⟩

theorem zipIdx_distinct {α : Type} (xs : List α) : xs.zipIdx.Pairwise fun x y => x.2 ≠ y.2 := by
  rw [← pairwise_map, zipIdx_map_snd]
  exact nodup_range'

theorem Loadable.stores_once (loadable : Loadable d plan) (base : Int) (embedded : Bool) :
    (((statements d plan embedded).flatMap (Statement.stores d base)).map (·.address)).Nodup := by
  cases embedded with
  | false =>
    have single : (statements d plan false).flatMap (Statement.stores d base) =
        plan.writes.toList.map (wordStore d base) := by
      rw [statements, if_neg Bool.false_ne_true, flatMap_map]
      exact map_eq_flatMap.symm
    rw [single, map_map, Nodup, pairwise_map]
    apply (pairwise_map.mp loadable.exclusive.once).imp_of_mem
    intro w w' member member' different same
    rw [Array.mem_toList_iff] at member member'
    obtain ⟨m, group, memory⟩ := loadable.memory w' member'
    have same : address d w.group w.offset = address d m w'.offset := group ▸ (Int.add_left_inj base).mp same
    have cell := loadable.cell_of_address member (loadable.exclusive.inside w' member').1 same
    rw [← memory] at cell
    exact different cell
  | true =>
    rw [statements, if_pos rfl, tables, map_map, flatMap_map, map_flatMap, nodup_flatMap]
    have inside : ∀ x ∈ plan.tops.zipIdx.filter fun x => x.1 > 0, ∀ y ∈ (contents d plan.writes x.2 x.1).zipIdx,
        y.2 < d.biasSize := by
      intro x used y listed
      have known := mem_zipIdx_iff_getElem?.mp (mem_filter.mp used).1
      have bound := loadable.top_le known
      have here := (List.getElem?_eq_some_iff.mp (List.mem_zipIdx_iff_getElem?.mp listed)).1
      rw [length_contents] at here
      omega
    constructor
    · intro x used
      simp only [Function.comp, Statement.stores, map_map, Nodup, pairwise_map]
      apply (zipIdx_distinct _).imp_of_mem
      intro y y' listed listed' different same
      exact different (address_injective loadable.spaced (inside x used y listed) (inside x used y' listed')
        ((Int.add_left_inj base).mp same)).2
    · apply ((zipIdx_distinct plan.tops).sublist filter_sublist).imp_of_mem
      intro x x' used used' different a in_x in_x'
      simp only [Function.comp, Statement.stores, map_map, mem_map] at in_x in_x'
      obtain ⟨y, listed, rfl⟩ := in_x
      obtain ⟨y', listed', same⟩ := in_x'
      exact different (address_injective loadable.spaced (inside x' used' y' listed') (inside x used y listed)
        ((Int.add_left_inj base).mp same)).1.symm

def Cleared (d : Device) (base : Int) (plan : BiasPlan) (file : RegisterFile) : Prop :=
  ∀ m top offset : Nat, plan.tops[m]? = some top → offset < top → file (address d m offset + base) = 0

namespace Loadable

variable {base : Int} {file : RegisterFile} {w : BiasWrite}

theorem byte_of_write (loadable : Loadable d plan) (member : w ∈ plan.writes) : Bits.byte w.value = w.value := by
  obtain ⟨low, high⟩ := loadable.byte w member
  exact Int.emod_eq_of_lt low high

theorem run_of_write (loadable : Loadable d plan) (member : w ∈ plan.writes) (embedded : Bool) :
    run d base plan embedded file (address d w.group w.offset + base) = w.value := by
  obtain ⟨m, group, memory⟩ := loadable.memory w member
  obtain ⟨inside, m', top, memory', known, below⟩ := loadable.exclusive.inside w member
  obtain rfl : m = m' := Option.some.inj (memory.symm.trans memory')
  have here : w.cell d = (some m, w.offset) := by rw [BiasWrite.cell, memory]
  obtain ⟨low, high⟩ := loadable.byte w member
  cases embedded with
  | false =>
    refine execute_agree ⟨_, mem_stores_single.mpr ⟨w, member, rfl⟩, rfl⟩ ?_ low (by omega) file
    intro s stored same
    obtain ⟨w', member', rfl⟩ := mem_stores_single.mp stored
    have same : address d w'.group w'.offset = address d m w.offset := group ▸ (Int.add_left_inj base).mp same
    have there := loadable.cell_of_address member' inside same
    rw [loadable.eq_of_cell member' member (there.trans here.symm)]
    exact loadable.byte_of_write member
  | true =>
    have listed := loadable.contents_of_write member here below
    refine execute_agree
      ⟨_, mem_stores_embedded.mpr ⟨m, top, w.offset, w.value, known, listed, rfl⟩, by rw [group]⟩ ?_ low (by omega) file
    intro s stored same
    obtain ⟨m', top', offset, v, known', listed', rfl⟩ := mem_stores_embedded.mp stored
    have inside' := (List.getElem?_eq_some_iff.mp listed').1
    rw [length_contents] at inside'
    have bound := loadable.top_le known'
    rw [group] at same
    obtain ⟨rfl, rfl⟩ := address_injective loadable.spaced (by omega) inside ((Int.add_left_inj base).mp same)
    rw [loadable.contents_of_write member here inside', Option.some.injEq] at listed'
    exact listed'.symm

theorem run_unwritten {a : Int} (unwritten : ∀ w ∈ plan.writes, address d w.group w.offset + base ≠ a) :
    run d base plan false file a = file a := by
  apply execute_untouched
  intro s stored
  obtain ⟨w, member, rfl⟩ := mem_stores_single.mp stored
  exact unwritten w member

variable (loadable : Loadable d plan) (cleared : Cleared d base plan file)
include loadable cleared

theorem run_between {a : Int}
    (unwritten : ∀ w ∈ plan.writes, address d w.group w.offset + base ≠ a) : run d base plan true file a = file a := by
  by_cases table : ∃ s ∈ (statements d plan true).flatMap (Statement.stores d base), s.address = a
  · have zero : ∀ s ∈ (statements d plan true).flatMap (Statement.stores d base), s.address = a →
        s.value = 0 ∧ file a = 0 := by
      intro s stored same
      obtain ⟨m, top, offset, v, known, listed, rfl⟩ := mem_stores_embedded.mp stored
      subst same
      have inside := (List.getElem?_eq_some_iff.mp listed).1
      rw [length_contents] at inside
      refine ⟨?_, cleared m top offset known inside⟩
      have untouched : ∀ w ∈ plan.writes, w.cell d ≠ (some m, offset) := by
        intro w member here
        obtain ⟨m', group, memory⟩ := loadable.memory w member
        rw [BiasWrite.cell, memory, Prod.mk.injEq, Option.some.injEq] at here
        apply unwritten w member
        rw [group, here.1, here.2]
      rw [contents_unwritten untouched inside, Option.some.injEq] at listed
      exact listed.symm
    obtain ⟨s, stored, same⟩ := table
    rw [(zero s stored same).2]
    exact execute_agree ⟨s, stored, same⟩ (fun s stored same => (zero s stored same).1) (by decide) (by decide) file
  · apply execute_untouched
    intro s stored same
    exact table ⟨s, stored, same⟩

theorem run_embedded :
    run d base plan true file = run d base plan false file := by
  funext a
  by_cases written : ∃ w ∈ plan.writes, address d w.group w.offset + base = a
  · obtain ⟨w, member, rfl⟩ := written
    rw [loadable.run_of_write member, loadable.run_of_write member]
  · have unwritten : ∀ w ∈ plan.writes, address d w.group w.offset + base ≠ a := by
      intro w member same
      exact written ⟨w, member, same⟩
    rw [loadable.run_between cleared unwritten, run_unwritten unwritten]

end Loadable

def Statement.text (d : Device) (o : Options) : Statement → String
  | store w => (wordStore d o.apbBase w).statement o.verifyWrites
  | copy memory bytes =>
    s!"  memcpy_8to32((uint32_t *) 0x{Text.hex 8 (o.apbBase + d.groupSpacing * memory + d.biasBase)}, bias_{memory}, "
      ++ s!"sizeof(uint8_t) * {bytes.length});\n"

def opening (embedded : Bool) (d : Device) (plan : BiasPlan) : Run Unit := do
  if !embedded then Bus.functionHeader { function := "load_bias" }
  plan.warnings.toList.forM Run.warn
  if embedded then
    defineArrays (tables d plan)
    openLoader (tables d plan)

def begun (embedded : Bool) (d : Device) (base : Int) (plan : BiasPlan) : Run Unit := do
  if !embedded then Bus.functionHeader { function := "load_bias" }
  plan.warnings.toList.forM Run.warn
  if !embedded then (statements d plan embedded).forM (·.emit d base)

theorem raise_stops (d : Device) (e : BiasFailure) (s : Session) :
    ∃ cause after, (raise d e).run s = .error cause after := by
  cases e with
  | failure cause => exact ⟨cause, s, rfl⟩
  | mismatch _ _ _ | full _ _ _ | exhausted _ _ _ _ =>
    obtain ⟨after, stopped⟩ := Run.stop_run _ s
    exact ⟨_, after, stopped⟩

section Text

variable {o : Options} {out : Sink}

theorem emit_adds (s : Statement) : Accelerator.Adds d o out (s.text d o) True (s.emit d o.apbBase) := by
  cases s with
  | store w =>
    have stored : Accelerator.Adds d o out ((wordStore d o.apbBase w).statement o.verifyWrites) (0 ≤ Bits.byte w.value)
        (Bus.write (address d w.group w.offset) (Bits.byte w.value) { comment := " // Bias" }) := write rfl
    exact (device stored).mono fun _ => trivial
  | copy memory bytes =>
    unfold Statement.emit Statement.text
    exact libraryOutput _

theorem forM_adds {α : Type} {text : α → String} {f : α → Run Unit}
    (each : ∀ x, Accelerator.Adds d o out (text x) True (f x)) (items : List α) :
    Accelerator.Adds d o out (String.join (items.map text)) True (items.forM f) := by
  induction items with
  | nil => exact nothing
  | cons x items ih =>
    rw [forM_eq_forM, forM_cons, map_cons, String.join_cons]
    exact ((each x).seq ih).mono fun _ => trivial

theorem defineArray_ok {s s' : Session} {items : List Int} {name : String} {u : Unit} (kind : s.bus.kind = .program)
    (ran : (Bus.defineArray items name "0x%02x" 16).run s = .ok u s') :
    ∃ header, s.bus.settings.weightHeader = some header ∧
      s' = s.append header (CSource.arrayDefine name .hexByte 16 items) := by
  unfold Bus.defineArray Bus.ifProgram at ran
  obtain ⟨_, _, found, ran⟩ := bind_ok.mp ran
  obtain ⟨rfl, rfl⟩ := get_ok.mp found
  rw [kind] at ran
  obtain ⟨_, _, found, ran⟩ := bind_ok.mp ran
  obtain ⟨rfl, rfl⟩ := get_ok.mp found
  obtain ⟨f, _, read, ran⟩ := bind_ok.mp ran
  obtain ⟨format, rfl⟩ := Run.orFail_ok.mp read
  cases format
  obtain ⟨header, _, known, ran⟩ := bind_ok.mp ran
  obtain ⟨defined, rfl⟩ := Run.orFail_ok.mp known
  exact ⟨header, defined, (Run.emit_ok.mp ran).symm⟩

def withArrays (header : Sink) (tables : List (Nat × List Int)) (s : Session) : Session :=
  tables.foldl (fun s x => s.append header (CSource.arrayDefine s!"BIAS_{x.1}" .hexByte 16 x.2)) s

theorem defineArrays_ok {s s' : Session} {tables : List (Nat × List Int)} {header : Sink} {u : Unit}
    (kind : s.bus.kind = .program) (defined : s.bus.settings.weightHeader = some header)
    (ran : (defineArrays tables).run s = .ok u s') : s' = withArrays header tables s := by
  induction tables generalizing s with
  | nil => exact (pure_ok.mp ran).2.symm
  | cons x tables ih =>
    obtain ⟨_, _, one, ran⟩ := bind_ok.mp ran
    obtain ⟨k, found, rfl⟩ := defineArray_ok kind one
    cases found.symm.trans defined
    exact ih (by rwa [Session.append_bus]) (by rwa [Session.append_bus]) ran

theorem openLoader_keeps (tables : List (Nat × List Int)) : KeepsWriter d o out (openLoader tables) := by
  apply Keeps.ite
  · exact ((functionHeader _).seq (libraryOutput _)).keeps
  · exact ((forM_adds (fun x => libraryOutput _) tables).seq ((libraryOutput _).seq ((functionHeader _).seq
      ((libraryOutput _).seq ((functionFooter _).seq (functionHeader _)))))).keeps

theorem warnings_keeps : KeepsWriter d o out (plan.warnings.toList.forM Run.warn) :=
  forM KeepsWriter.refl KeepsWriter.trans _ fun message _ => (warn message).keeps

theorem opening_keeps (embedded : Bool) : KeepsWriter d o out (opening embedded d plan) := by
  cases embedded with
  | false =>
    apply bind KeepsWriter.trans (functionHeader _).keeps
    intro _
    exact bind KeepsWriter.trans warnings_keeps fun _ => pure KeepsWriter.refl _
  | true =>
    apply bind KeepsWriter.trans warnings_keeps
    intro _
    apply bind KeepsWriter.trans
    · refine forM KeepsWriter.refl KeepsWriter.trans _ fun x _ before u after ran writer => ?_
      obtain ⟨header, _, rfl⟩ := defineArray_ok writer.kind ran
      exact writer.append header _
    · exact fun _ => openLoader_keeps _

/-- After the warnings, the weights' header gets the arrays, and the loader is begun. -/
def Defines (d : Device) (plan : BiasPlan) (before opened : Session) : Prop :=
  ∃ warned, (plan.warnings.toList.forM Run.warn).run before = .ok () warned ∧
    ∀ header, warned.bus.settings.weightHeader = some header →
      (openLoader (tables d plan)).run (withArrays header (tables d plan) warned) = .ok () opened

end Text

section Load

variable {embedded : Bool} {layers : List BiasLayer} {used : List Int} {before after : Session}

theorem load_placed {u : Unit} (selected : before.device = some d)
    (placed : (placeBias (settings d before.options used) layers before.options.firstLayer).run {} = .ok u plan) :
    (load embedded layers used).run before = (opening embedded d plan >>= fun _ =>
      (statements d plan embedded).forM (·.emit d before.options.apbBase) >>= fun _ =>
        Bus.functionFooter >>= fun _ => pure plan).run before := by
  rw [load, Run.device_bind selected, Run.options_bind]
  simp only [placed]
  cases embedded with
  | false => simp only [opening, bind_assoc, pure_bind, Bool.not_false, if_true, Bool.false_eq_true, if_false]
  | true => simp only [opening, bind_assoc, Bool.not_true, if_true, Bool.false_eq_true, if_false]

theorem load_failed (embedded : Bool) {e : BiasFailure} (selected : before.device = some d)
    (failed : (placeBias (settings d before.options used) layers before.options.firstLayer).run {} = .error e plan) :
    ∃ rest : Run BiasPlan, (load embedded layers used).run before =
      (begun embedded d before.options.apbBase plan >>= fun _ => raise d e >>= fun _ => rest).run before := by
  rw [load, Run.device_bind selected, Run.options_bind]
  simp only [failed]
  cases embedded with
  | false =>
    simp only [begun, bind_assoc, Bool.not_false, if_true, Bool.false_eq_true, if_false]
    exact ⟨_, rfl⟩
  | true =>
    simp only [begun, bind_assoc, pure_bind, Bool.not_true, if_true, Bool.false_eq_true, if_false]
    exact ⟨_, rfl⟩

section

variable (selected : before.device = some d)
include selected

theorem load_ok (ran : (load embedded layers used).run before = .ok plan after) :
    (placeBias (settings d before.options used) layers before.options.firstLayer).run {} = .ok () plan ∧
      ∃ opened, (opening embedded d plan).run before = .ok () opened ∧
        ((statements d plan embedded).forM (·.emit d before.options.apbBase) >>= fun _ => Bus.functionFooter).run
          opened = .ok () after := by
  cases placed : (placeBias (settings d before.options used) layers before.options.firstLayer).run {} with
  | error e failed =>
    obtain ⟨rest, same⟩ := load_failed embedded selected placed
    rw [same] at ran
    obtain ⟨_, middle, _, ran⟩ := bind_ok.mp ran
    obtain ⟨_, _, raised, _⟩ := bind_ok.mp ran
    obtain ⟨_, _, stopped⟩ := raise_stops d e middle
    rw [stopped] at raised
    cases raised
  | ok u made =>
    rw [load_placed selected placed] at ran
    obtain ⟨_, opened, first, ran⟩ := bind_ok.mp ran
    obtain ⟨_, _, stored, ran⟩ := bind_ok.mp ran
    obtain ⟨_, _, closed, ran⟩ := bind_ok.mp ran
    obtain ⟨rfl, rfl⟩ := pure_ok.mp ran
    exact ⟨rfl, opened, first, bind_ok.mpr ⟨_, _, stored, closed⟩⟩

theorem load_reports
    (failed : (placeBias (settings d before.options used) layers before.options.firstLayer).run {} =
      .error (.exhausted r tops group top) plan)
    {opened : Session} (reached : (begun embedded d before.options.apbBase plan).run before = .ok () opened) :
    ∃ after, (raise d (.exhausted r tops group top)).run opened = .error (.exit 1) after ∧
      (load embedded layers used).run before = .error (.exit 1) after := by
  obtain ⟨rest, same⟩ := load_failed embedded selected failed
  obtain ⟨after, stopped⟩ := Run.stop_run _ opened
  refine ⟨after, stopped, ?_⟩
  rw [same, EStateM.run_bind, reached]
  dsimp only
  rw [EStateM.run_bind, raise, stopped]

variable (ran : (load embedded layers used).run before = .ok plan after)
include ran

theorem load_text {out : Sink} :
    ∃ opened, (opening embedded d plan).run before = .ok () opened ∧
      (WritesProgram d before.options out before → after.text out = opened.text out ++
        (String.join ((statements d plan embedded).map (Statement.text d before.options)) ++
          CSource.functionFooter "CNN_OK") ∧ (embedded = true → Defines d plan before opened)) := by
  obtain ⟨_, opened, first, rest⟩ := load_ok selected ran
  refine ⟨opened, first, ?_⟩
  intro writer
  have opened_writer := opening_keeps embedded _ _ _ first writer
  refine ⟨?_, fun embeds => ?_⟩
  · exact ((forM_adds emit_adds _).seq (functionFooter _) _ _ _ opened_writer rest).2.1
  · subst embeds
    obtain ⟨_, warned, warns, first⟩ := bind_ok.mp first
    obtain ⟨_, _, arrays, opens⟩ := bind_ok.mp first
    refine ⟨warned, warns, fun header defined => ?_⟩
    rwa [← defineArrays_ok (warnings_keeps _ _ _ warns writer).kind defined arrays]

theorem load_values {i : Nat} {l : BiasLayer} {bias : List Int} (known : layers[i]? = some l)
    (later : before.options.firstLayer ≤ i) (values : l.bias = some bias) (biased : l.hasBias = true)
    (single : l.groups = 1) (free : (settings d before.options used).quadLayer ≠ some i) :
    ∃ group offset, group ∈ l.allowedGroups.getD used ∧ plan.places[i]? = some (.single d group offset) ∧
      (l.interleaved = true → 4 ∣ offset) ∧ ∀ k b, bias[k]? = some b →
        ⟨i, group, offset + (l.lead d + (if l.needsGap d i then 1 else 0) + k), b % 256⟩ ∈ plan.writes := by
  obtain ⟨_, _, _, placed⟩ := placeBias_ok (load_ok selected ran).1
  obtain ⟨group, offset, allowed, place, aligned, written⟩ := placed.holds known later values biased single free
  refine ⟨group, offset, allowed, place, aligned, ?_⟩
  intro k b here
  apply written (_, b)
  rw [BiasLayer.values, mem_append]
  right
  exact mem_map.mpr ⟨(b, k), mem_zipIdx_iff_getElem?.mpr here, rfl⟩

end

theorem exhausted_layer (failed : (placeBias s layers first).run {} = .error (.exhausted r tops group top) plan) :
    ∃ l bias, layers[r.layer]? = some l ∧ first ≤ r.layer ∧ l.bias = some bias ∧ l.hasBias = true ∧ l.groups = 1 ∧
      s.quadLayer ≠ some r.layer ∧ ∀ g ∈ l.allowedGroups.getD s.groupsUsed, ∃ n, plan.top? g = some n ∧
        s.device.biasSize < (if l.interleaved then roundUpQuad n else n) +
          (bias.length + l.lead s.device + if l.needsGap s.device r.layer then 1 else 0) := by
  obtain ⟨_, ⟨l, i, known, later, asked⟩, full⟩ := placeBias_exhausted failed
  obtain ⟨bias, values, biased, single, free, rfl⟩ := BiasLayer.request?_eq_some asked
  exact ⟨l, bias, known, later, values, biased, single, free, full⟩

end Load

theorem ofCode?_biasMemory {code : Int} (known : Device.ofCode? code = some d) :
    4 ∣ d.biasSize ∧ 4 * d.biasSize ≤ d.groupSpacing := by
  unfold Device.ofCode? at known
  split at known <;> cases known <;> decide

/-- Every byte of a bias memory is written at most once, and the values of a layer are found where its place says, aligned
as it asks for. Both forms of the program load the same bytes. A layer without room has no room in any of its groups. -/
theorem load_places_bias {code : Int} {before : Session} (known : Device.ofCode? code = some d)
    (selected : before.device = some d) (layers : List BiasLayer) (used : List Int) (embedded : Bool) :
    let o := before.options
    let s := settings d o used
    (∀ plan after, (load embedded layers used).run before = .ok plan after →
      (placeBias s layers o.firstLayer).run {} = .ok () plan ∧ plan.Exclusive d ∧
      (∀ out, ∃ opened, (opening embedded d plan).run before = .ok () opened ∧
        (WritesProgram d o out before → after.text out = opened.text out ++
          (String.join ((statements d plan embedded).map (Statement.text d o)) ++ CSource.functionFooter "CNN_OK") ∧
          (embedded = true → Defines d plan before opened))) ∧
      (∀ i l bias, layers[i]? = some l → o.firstLayer ≤ i → l.bias = some bias → l.hasBias = true → l.groups = 1 →
        s.quadLayer ≠ some i →
        ∃ group offset, group ∈ l.allowedGroups.getD used ∧ plan.places[i]? = some (.single d group offset) ∧
          (l.interleaved = true → 4 ∣ offset) ∧ ∀ k b, bias[k]? = some b →
            ⟨i, group, offset + (l.lead d + (if l.needsGap d i then 1 else 0) + k), b % 256⟩ ∈ plan.writes) ∧
      ((∀ l ∈ layers, ∀ g ∈ l.allowedGroups.getD used, 0 ≤ g) →
        (((statements d plan embedded).flatMap (Statement.stores d o.apbBase)).map (·.address)).Nodup ∧
        ∀ file, (∀ w ∈ plan.writes,
          run d o.apbBase plan embedded file (address d w.group w.offset + o.apbBase) = w.value) ∧
          (Cleared d o.apbBase plan file → run d o.apbBase plan true file = run d o.apbBase plan false file))) ∧
    ∀ r tops group top plan, (placeBias s layers o.firstLayer).run {} = .error (.exhausted r tops group top) plan →
      (∀ opened, (begun embedded d o.apbBase plan).run before = .ok () opened →
        ∃ after, (raise d (.exhausted r tops group top)).run opened = .error (.exit 1) after ∧
          (load embedded layers used).run before = .error (.exit 1) after) ∧
      ∃ l bias, layers[r.layer]? = some l ∧ o.firstLayer ≤ r.layer ∧ l.bias = some bias ∧ l.hasBias = true ∧
        l.groups = 1 ∧ s.quadLayer ≠ some r.layer ∧ ∀ g ∈ l.allowedGroups.getD used, ∃ n, plan.top? g = some n ∧
          d.biasSize < (if l.interleaved then roundUpQuad n else n) +
            (bias.length + l.lead d + if l.needsGap d r.layer then 1 else 0) := by
  intro o s
  obtain ⟨quads, spaced⟩ := ofCode?_biasMemory known
  constructor
  · intro plan after ran
    have made := (load_ok selected ran).1
    obtain ⟨_, _, _, placed⟩ := placeBias_ok made
    refine ⟨made, placed.exclusive, fun out => load_text selected ran, ?_, ?_⟩
    · intro i l bias here later values biased single free
      exact load_values selected ran here later values biased single free
    · intro available
      have loadable := Loadable.of_placed placed quads spaced available
      refine ⟨loadable.stores_once _ embedded, ?_⟩
      intro file
      exact ⟨fun w member => loadable.run_of_write member embedded, loadable.run_embedded⟩
  · intro r tops group top plan failed
    exact ⟨fun opened reached => load_reports selected failed reached, exhausted_layer failed⟩

def mixedLayers : List BiasLayer :=
  [{ bias := some [5, -3], outputChannels := 2, streaming := true, outputProcessors := 12 },
   { bias := some [1, 2, 3], outputChannels := 3, groups := 3, processors := 0x15, outputProcessors := 7 },
   { bias := some [7, 8], outputChannels := 2, interleaved := true, allowedGroups := some [0], outputProcessors := 3 }]

def mixedPlan : BiasPlan :=
  { tops := [10, 5, 0, 0],
    places := [.single .max78000 1 0, { offsets := [some 0, none, none, none], group := .all }, .single .max78000 0 8],
    writes := #[⟨1, 0, 0, 1⟩, ⟨1, 0, 2, 2⟩, ⟨1, 0, 4, 3⟩, ⟨0, 1, 0, 0⟩, ⟨0, 1, 3, 5⟩, ⟨0, 1, 4, 253⟩, ⟨2, 0, 8, 7⟩,
                ⟨2, 0, 9, 8⟩],
    warnings := #["Layer 0 uses streaming and a bias. THIS COMBINATION MIGHT NOT FUNCTION CORRECTLY!!!"] }

def distantLayers : List BiasLayer := [{ bias := some [1], outputChannels := 1, outputProcessors := 8, outExpand := 200 }]

def endsFull : EStateM.Result BiasFailure BiasPlan Unit → Bool
  | .error (.exhausted ..) plan => plan.warnings.isEmpty
  | _ => false

def loaderSession (d : Device) : Session :=
  { device := some d, bus := { kind := .program, settings := { mainFile := some (.stream "program") } } }

set_option maxRecDepth 20000 in
theorem load_places_mixed_layers :
    (∃ after, (load false mixedLayers [0, 1]).run (loaderSession .max78000) = .ok mixedPlan after ∧
      mixedPlan.Exclusive .max78000 ∧
      (∃ group offset, mixedPlan.places[0]? = some (.single .max78000 group offset) ∧
        ⟨0, group, offset + 4, 253⟩ ∈ mixedPlan.writes) ∧
      ∀ file, Cleared .max78000 0 mixedPlan file →
        run .max78000 0 mixedPlan true file = run .max78000 0 mixedPlan false file) ∧
    ∃ after, (load true distantLayers [0, 1]).run (loaderSession .max78000) = .error (.exit 1) after := by
  have device : Device.ofCode? 85 = some .max78000 := rfl
  have selected : (loaderSession .max78000).device = some .max78000 := rfl
  constructor
  · have made : (placeBias (settings .max78000 {} [0, 1]) mixedLayers 0).run {} = .ok () mixedPlan := by cbv
    have returns : (result? ((load false mixedLayers [0, 1]).run (loaderSession .max78000))).isSome = true := by
      rw [load_placed selected made]
      decide +kernel
    obtain ⟨⟨plan, after⟩, ran⟩ := Option.isSome_iff_exists.mp returns
    have ran := result?_eq_some.mp ran
    obtain ⟨placed, exclusive, _, values, same⟩ :=
      (load_places_bias device selected mixedLayers [0, 1] false).1 plan after ran
    cases made.symm.trans placed
    obtain ⟨group, offset, _, place, _, written⟩ := values 0 _ [5, -3] rfl (Nat.le_refl 0) rfl rfl rfl (by decide)
    have available : ∀ l ∈ mixedLayers, ∀ g ∈ l.allowedGroups.getD [0, 1], (0 : Int) ≤ g := by decide
    exact ⟨after, ran, exclusive, ⟨group, offset, place, written 1 (-3) rfl⟩, fun file => ((same available).2 file).2⟩
  · have stops : endsFull ((placeBias (settings .max78000 {} [0, 1]) distantLayers 0).run {}) = true := by
      decide +kernel
    cases failed : (placeBias (settings .max78000 {} [0, 1]) distantLayers 0).run {} with
    | ok _ _ =>
      rw [failed] at stops
      cases stops
    | error e plan =>
      rw [failed] at stops
      cases e with
      | exhausted r tops group top =>
        have begins : (begun true .max78000 0 plan).run (loaderSession .max78000) = .ok () (loaderSession .max78000) := by
          rw [begun, Array.isEmpty_iff.mp stops]
          rfl
        have stopped := (load_places_bias device selected distantLayers [0, 1] true).2 r tops group top plan failed
        obtain ⟨after, _, ended⟩ := stopped.1 _ begins
        exact ⟨after, ended⟩
      | mismatch _ _ _ | full _ _ _ | failure _ => cases stops

/-- A depth-wise layer with a value for every channel. -/
def broadcastLayer (processors outExpand : Nat) (bias : List Int) : BiasLayer :=
  { bias := some bias, outputChannels := bias.length, groups := bias.length, broadcast := true, processors,
    outputProcessors := processors, outExpand }

/-- The turns of the third and the fourth processor come after the last one. -/
theorem load_loses_values : ∃ plan after,
    (load false [broadcastLayer 0x1f 1 [1, 2, 3, 4, 5]] [0]).run (loaderSession .max78000) = .ok plan after ∧
    plan.writes = #[⟨0, 0, 0, 1⟩, ⟨0, 0, 1, 5⟩, ⟨0, 0, 4, 2⟩] ∧
    ¬((plan.writes.toList.filter fun w => w.layer = 0).map fun w => (w.group, w.value)).Perm
      [(0, 1), (0, 2), (0, 3), (0, 4), (0, 5)] := by
  have returns : ((result? ((load false [broadcastLayer 0x1f 1 [1, 2, 3, 4, 5]] [0]).run (loaderSession .max78000))).map
      (·.1.writes)) = some #[⟨0, 0, 0, 1⟩, ⟨0, 0, 1, 5⟩, ⟨0, 0, 4, 2⟩] := by decide +kernel
  obtain ⟨⟨plan, after⟩, ran, writes⟩ := Option.map_eq_some_iff.mp returns
  refine ⟨plan, after, result?_eq_some.mp ran, writes, ?_⟩
  rw [show plan.writes = _ from writes]
  decide

end BiasMemory

end CnnForge
