import CnnForge.Proofs.BusSteps
import CnnForge.Proofs.ByteLanes
import CnnForge.Proofs.KernelLoaders
import CnnForge.Proofs.KernelRoundTrip

namespace CnnForge

open Outcome List LoadStatement

variable {p column : Nat} {w : KernelWord} {layers : List KernelLayer} {m : KernelMemory} {α : Type} {d : Device}
  {compare : Bool} {o : Options}

def Alike {α : Type} (I : Session → Prop) (x y : Run α) : Prop := ∀ s, I s → x.run s = y.run s

namespace Alike

variable {α β : Type} {I : Session → Prop}

theorem bind {x y : Run α} {f g : α → Run β} (first : Alike I x y)
    (keeps : ∀ before a after, I before → y.run before = .ok a after → I after)
    (rest : ∀ a, Alike I (f a) (g a)) : Alike I (x >>= f) (y >>= g) := by
  intro before start
  rw [EStateM.run_bind, EStateM.run_bind, first before start]
  cases ran : y.run before with
  | ok a middle => exact rest a middle (keeps before a middle start ran)
  | error e middle => rfl

theorem forIn {f : α → PUnit → Run (ForInStep PUnit)} {g : α → Run PUnit} (items : List α)
    (same : ∀ x ∈ items, Alike I (f x ⟨⟩) (g x >>= fun _ => pure (.yield ⟨⟩)))
    (keeps : ∀ x ∈ items, ∀ before u after, I before → (g x).run before = .ok u after → I after) :
    Alike I (forIn items PUnit.unit f) (forM items g) := by
  induction items with
  | nil => exact fun _ _ => rfl
  | cons x items ih =>
    have rest := ih (fun y member => same y (mem_cons_of_mem _ member))
      (fun y member => keeps y (mem_cons_of_mem _ member))
    intro before start
    rw [forIn_cons, forM_cons, EStateM.run_bind, EStateM.run_bind, same x (by simp) before start,
      EStateM.run_bind]
    cases ran : (g x).run before with
    | ok u middle => exact rest middle (keeps x (by simp) before u middle start ran)
    | error e middle => rfl

end Alike

namespace Run

variable {α β : Type}

theorem forM_flatMap (f : α → List β) (g : β → Run PUnit) (items : List α) :
    forM (items.flatMap f) g = forM items fun x => forM (f x) g := by
  induction items with
  | nil => rfl
  | cons x items ih => rw [flatMap_cons, forM_append, forM_cons, ih]

theorem forM_filter (c : α → Bool) (g : α → Run PUnit) (items : List α) :
    forM (items.filter c) g = forM items fun x => if c x then g x else pure ⟨⟩ := by
  induction items with
  | nil => rfl
  | cons x items ih =>
    rw [filter_cons, forM_cons]
    cases c x with
    | true => rw [if_pos rfl, if_pos rfl, forM_cons, ih]
    | false =>
      rw [if_neg Bool.false_ne_true, if_neg Bool.false_ne_true, pure_bind]
      exact ih

theorem forM_filterMap (h : α → Option β) (g : β → Run PUnit) (items : List α) :
    forM (items.filterMap h) g = forM items fun x => (h x).elim (pure ⟨⟩) g := by
  induction items with
  | nil => rfl
  | cons x items ih =>
    rw [filterMap_cons, forM_cons]
    cases h x with
    | none =>
      rw [Option.elim_none, pure_bind]
      exact ih
    | some b => rw [forM_cons, Option.elim_some, ih]

end Run

structure SameWriter (before after : Session) : Prop where
  device : after.device = before.device
  settings : after.bus.settings = before.bus.settings
  preloaded : after.bus.kernelMemory = before.bus.kernelMemory

namespace SameWriter

theorem refl (s : Session) : SameWriter s s := ⟨rfl, rfl, rfl⟩

theorem trans (a b c : Session) (first : SameWriter a b) (second : SameWriter b c) : SameWriter a c :=
  ⟨second.device.trans first.device, second.settings.trans first.settings, second.preloaded.trans first.preloaded⟩

theorem busFree : BusFree SameWriter := by
  refine ⟨fun a b k t same => trans a b _ same ⟨by simp, by simp, by simp⟩, fun a b f kept same => ?_⟩
  exact trans a b _ same ⟨rfl, (kept _).1, (kept _).2.1⟩

theorem write (address value : Int) (comment : String) :
    Keeps SameWriter (Bus.write address value { noVerify := true, comment }) :=
  (Stays.write busFree address value _).keeps refl

theorem verify (address value : Int) : Keeps SameWriter (Bus.verify address value { api := true }) :=
  (Stays.verify busFree address value _).keeps refl

end SameWriter

/-- A writer that writes kernels on the bus, and compares them if `compare` is set. -/
structure WritesKernels (d : Device) (compare : Bool) (s : Session) : Prop where
  device : s.device = some d
  direct : s.bus.kernelMemory = none
  verified : s.bus.settings.verifyWrites = compare

theorem WritesKernels.kept {x : Run α} (keeps : Keeps SameWriter x) (before : Session) (a : α) (after : Session)
    (writes : WritesKernels d compare before) (run : x.run before = .ok a after) : WritesKernels d compare after := by
  have same := keeps before a after run
  exact ⟨same.device.trans writes.device, same.preloaded.trans writes.direct,
    (congrArg BusSettings.verifyWrites same.settings).trans writes.verified⟩

theorem IsKernel.kernelBytes {bytes : List Int} (kernel : IsKernel bytes) :
    Bus.kernelBytes bytes false = .ok bytes := by
  have same : (bytes.take 9).map Bits.byte = bytes := by
    rw [take_of_length_le (Nat.le_of_eq kernel.nine)]
    refine (map_congr_left fun b member => ?_).trans (map_id _)
    have range := kernel.bytes b member
    exact Int.emod_eq_of_lt range.1 range.2
  simp [Bus.kernelBytes, kernel.nine, same]

namespace KernelMemory

variable {d : Device} {compare : Bool} (base : Int) (api : Bool)

theorem writeKernel_alike (kernel : IsKernel w.bytes) (processor : p < d.maxProcessors)
    (inside : column < d.maskWidth p) :
    Alike (WritesKernels d compare) (Bus.writeKernel w.layer p column w.bytes false false none)
      ((kernelStatements d compare p column w).forM (emit base api)) := by
  intro before writes
  let write (x : Int × Nat) : Run Unit := Bus.write (Bus.kernelAddress d p column + 4 * x.2) x.1
    { noVerify := true, comment := kernelNote w.layer p column x.2 }
  let verify (x : Int × Nat) : Run Unit :=
    Bus.verify (Bus.kernelAddress d p column + 4 * x.2) x.1 { api := true }
  have words : ∀ f : Int × Nat → Run Unit, (∀ x, Keeps SameWriter (f x)) → Alike (WritesKernels d compare)
      (ForIn.forIn (Bus.kernelWords w.bytes).zipIdx PUnit.unit fun x _ => do f x; pure (.yield PUnit.unit))
      (forM (Bus.kernelWords w.bytes).zipIdx f) := by
    intro f keeps
    exact .forIn _ (fun x _ _ _ => rfl) fun x _ => .kept (keeps x)
  have writeKept : ∀ x, Keeps SameWriter (write x) := fun x => .write _ _ _
  have reduced : (Bus.writeKernel w.layer p column w.bytes false false none).run before =
      (ForIn.forIn (Bus.kernelWords w.bytes).zipIdx PUnit.unit (fun x _ => do
          write x
          pure (.yield PUnit.unit)) >>= fun _ => get >>= fun s =>
        if s.bus.settings.verifyWrites then
          ForIn.forIn (Bus.kernelWords w.bytes).zipIdx PUnit.unit fun x _ => do
            verify x
            pure (.yield PUnit.unit)
        else pure () : Run Unit).run before := by
    have device : Run.device.run before = .ok d before := Run.device_ok.mpr ⟨writes.device, rfl⟩
    simp [Bus.writeKernel, EStateM.run_bind, device, writes.direct, kernel.kernelBytes, processor, inside,
      Bus.kernelColumn, Run.check, Run.lift, write, verify, kernelNote]
  rw [reduced]
  simp only [kernelStatements, forM_eq_forM, forM_append, forM_map]
  refine Alike.bind (words write writeKept) (WritesKernels.kept ?_) ?_ before writes
  · exact Keeps.forM SameWriter.refl SameWriter.trans _ fun x _ => writeKept x
  · intro _ s ready
    rw [EStateM.run_bind]
    simp only [EStateM.run_get, ready.verified]
    cases compare with
    | false => rfl
    | true =>
      simp only [if_true, forM_map]
      exact words verify (fun x => .verify _ _) s ready

theorem kernelStatement_kept {st : LoadStatement} (member : st ∈ kernelStatements d compare p column w) :
    Keeps SameWriter (st.emit base api) := by
  rcases mem_append.mp member with written | compared
  · obtain ⟨x, _, rfl⟩ := mem_map.mp written
    exact .write _ _ _
  · split at compared
    · obtain ⟨x, _, rfl⟩ := mem_map.mp compared
      exact .verify _ _
    · simp at compared

theorem kernelStatements_kept :
    Keeps SameWriter (forM (kernelStatements d compare p column w) (emit base api)) :=
  Keeps.forM SameWriter.refl SameWriter.trans _ fun _ member => kernelStatement_kept base api member

variable {m : KernelMemory}

theorem writeAll_alike (sound : m.Sound) (spans : Array KernelSpan) (skipZero : Bool)
    (plain : ∀ l ∈ layers, l.interleaved = false) :
    Alike (WritesKernels d compare) (writeAll m d layers.toArray spans false skipZero)
      (forM (m.inlineProgram d skipZero compare).statements (emit base api)) := by
  have noInterleaving : ∀ i, (layers.toArray.getD i default).interleaved = false := by
    intro i
    rw [Array.getD_eq_getD_getElem?, getElem?_toArray]
    cases found : layers[i]? with
    | none => rfl
    | some l => exact plain l (mem_of_getElem? found)
  have cell : ∀ p ∈ range d.maxProcessors, ∀ x ∈ m.row d p, Alike (WritesKernels d compare)
      (Bus.writeKernel x.2.layer p x.1 x.2.bytes false false none)
      (forM (kernelStatements d compare p x.1 x.2) (emit base api)) := by
    intro p used x member
    obtain ⟨column, inside, found⟩ := mem_filterMap.mp member
    obtain ⟨w, word, rfl⟩ := Option.map_eq_some_iff.mp found
    have kernel := sound p column
    rw [bytesAt_of_word? word] at kernel
    exact writeKernel_alike base api kernel (mem_range.mp used) (mem_range.mp inside)
  have kept : ∀ p, Keeps SameWriter (forM (m.row d p) fun x =>
      if !(skipZero && x.2.bytes.all (· = 0)) then
        forM (kernelStatements d compare p x.1 x.2) (emit base api)
      else pure ⟨⟩) := by
    intro p
    apply Keeps.forM SameWriter.refl SameWriter.trans
    intro x _
    exact Keeps.ite (kernelStatements_kept base api) (Keeps.pure SameWriter.refl _)
  simp only [inlineProgram, Run.forM_flatMap, writtenWords, Run.forM_filter, writeAll, bind_pure_unit]
  refine .forIn _ ?_ fun p _ => .kept (kept p)
  intro p used
  refine .bind (.forIn _ ?_ fun x _ => .kept ?_) (.kept (kept p))
    fun _ _ _ => rfl
  · intro x member s ready
    simp only [noInterleaving, Bool.false_eq_true, if_false]
    split
    · exact Alike.bind (cell p used x member) (WritesKernels.kept (kernelStatements_kept base api))
        (fun _ _ _ => rfl) s ready
    · rfl
  · exact .ite (kernelStatements_kept base api) (.pure SameWriter.refl _)

theorem definePlain_eq (m : KernelMemory) (d : Device) (legacy flash : Bool) :
    definePlain m (m.runs d legacy) flash api = (do
      (m.plainProgram d legacy).arrays.forM fun a => Bus.defineArray a.2 s!"KERNELS_{a.1}" "0x%08x" 8
      (m.plainProgram d legacy).arrays.forM fun a => declareArray a.1 flash api
      Bus.output "\n" api
      copyFunction api) := by
  simp only [definePlain, plainProgram, forM_eq_forM, forM_map]
  rw [Outcome.forIn_eq_forM _ (fun _ _ => rfl), Outcome.forIn_eq_forM _ (fun _ _ => rfl)]

theorem definePacked_eq (m : KernelMemory) (d : Device) (program : o.blockMode = false) (flash : Bool) :
    definePacked m d o flash api = (do
      (m.packedProgram d o.legacyKernels).arrays.forM fun a => do
        Bus.defineArray a.2 s!"KERNELS_{a.1}" "0x%08x" 8
        declareArray a.1 flash api
      Bus.output "\n" api) := by
  simp only [definePacked, packedProgram, forM_eq_forM, Run.forM_filterMap, program]
  congr 1
  apply Outcome.forIn_eq_forM
  intro p _
  cases m.columns? d o.legacyKernels p with
  | none => rfl
  | some c => simp

end KernelMemory

theorem Bits.or_one {x : Int} (even : x % 2 = 0) : Bits.or x 1 = x + 1 := by
  have mask : -(1 : Int) - 1 = .negSucc 1 := rfl
  rw [Bits.or, mask]
  cases odd : -x - 1 with
  | ofNat n =>
    rw [Int.ofNat_eq_natCast] at odd
    have bit : n &&& 1 = 1 := by
      rw [Nat.and_one_is_mod]
      omega
    simp only [Bits.and, bit, Int.ofNat_eq_natCast]
    omega
  | negSucc n =>
    rw [Int.negSucc_eq] at odd
    have bit : n ||| 1 = n + 1 := by
      have half : n = 2 ^ 1 * (n / 2) := by omega
      rw [half]
      exact (Nat.two_pow_add_eq_or_of_lt (by decide) (n / 2)).symm
    simp only [Bits.and, bit, Int.negSucc_eq]
    omega

namespace KernelMemory

theorem loadFunction_eq (d : Device) (o : Options) (runs : List KernelRun) (api : Bool)
    (aligned : ∀ p : Nat, (o.apbBase + baseAddress d p).fmod 16 = 0) :
    loadFunction d o runs api = (do
      Bus.functionHeader { function := "load_weights" }
      forM runs fun r => Bus.output (copyStatements d o.apbBase o.expressWeights r) api
      Bus.functionFooter) := by
  simp only [loadFunction]
  rw [Outcome.forIn_eq_forM]
  intro r _
  simp [aligned, Run.check]

theorem copyStatements_plain (d : Device) (base : Int) (api : Bool) (r : KernelRun) :
    Bus.output (copyStatements d base false r) api =
      emit base api (.copy (baseAddress d r.processor + r.columns.first * 16) r.processor r.size) := by
  simp only [copyStatements, emit, Bool.false_eq_true, if_false, Int.add_assoc]

theorem copyStatements_packed (d : Device) {base : Int} (api : Bool) (r : KernelRun)
    (aligned : (base + baseAddress d r.processor).fmod 16 = 0) :
    Bus.output (copyStatements d base true r) api =
      emit base api (.stream (baseAddress d r.processor + r.columns.first * 4 + 1)
        (baseAddress d r.processor) r.processor ((r.size * 9 + 3) / 4)) := by
  rw [Int.fmod_eq_emod_of_nonneg _ (by decide)] at aligned
  have byte : Bits.or (base + baseAddress d r.processor + r.columns.first * 4) 1 =
      base + (baseAddress d r.processor + r.columns.first * 4 + 1) := by
    rw [Bits.or_one (by omega)]
    omega
  simp only [copyStatements, emit, if_true, byte]

theorem emitLoad_eq {s : LoaderSettings} (spans : List KernelSpan) {before : Session} (sound : m.Sound)
    (plain : ∀ l ∈ layers, l.interleaved = false)
    (copies : s.style o ≠ .inline → o.blockMode = false ∧ ∀ p : Nat, (o.apbBase + baseAddress d p).fmod 16 = 0)
    (writes : WritesKernels d compare before) : (emitLoad s d o layers m spans).run before =
      ((m.loadProgram d o compare (s.style o)).emit o s.api (s.style o)).run before := by
  unfold LoaderSettings.style at copies ⊢
  unfold emitLoad LoadProgram.emit
  cases packed : o.expressWeights with
  | true =>
    obtain ⟨program, aligned⟩ := copies (by simp [packed])
    simp only [Bool.or_true, if_true, program, Bool.not_false, loadProgram, LoadProgram.emitArrays,
      definePacked_eq s.api m d program, loadFunction_eq d o _ s.api aligned, packed, packedProgram,
      forM_eq_forM, forM_map, copyStatements_packed d s.api _ (aligned _), bind_assoc]
  | false =>
    cases embedded : s.embedded with
    | true =>
      obtain ⟨program, aligned⟩ := copies (by simp [packed, embedded])
      simp only [Bool.or_false, if_true, Bool.false_eq_true, if_false, program, Bool.not_false, loadProgram,
        LoadProgram.emitArrays, definePlain_eq, loadFunction_eq d o _ s.api aligned, packed, plainProgram,
        forM_eq_forM, forM_map, copyStatements_plain, bind_assoc]
    | false =>
      simp only [Bool.or_false, Bool.false_eq_true, if_false, loadProgram, LoadProgram.emitArrays, pure_bind,
        forM_eq_forM]
      have function : Alike (WritesKernels d compare)
          (Bus.functionHeader { function := "load_weights" } >>= fun _ =>
            writeAll m d layers.toArray spans.toArray false o.zeroSram >>= fun _ => Bus.functionFooter)
          (Bus.functionHeader { function := "load_weights" } >>= fun _ =>
            forM (m.inlineProgram d o.zeroSram compare).statements (emit o.apbBase s.api) >>= fun _ =>
              Bus.functionFooter) := by
        refine Alike.bind (fun _ _ => rfl)
          (WritesKernels.kept ((Stays.functionHeader SameWriter.busFree _).keeps .refl)) fun _ => ?_
        refine Alike.bind (writeAll_alike o.apbBase s.api sound _ _ plain) ?_ fun _ _ _ => rfl
        apply WritesKernels.kept
        apply Keeps.forM SameWriter.refl SameWriter.trans
        intro st member
        obtain ⟨p, _, inside⟩ := mem_flatMap.mp member
        obtain ⟨x, _, here⟩ := mem_flatMap.mp inside
        exact kernelStatement_kept o.apbBase s.api here
      exact function before writes

/-- However kernels are loaded, every column in use gets its bytes. Copies read their arrays as a whole
and change no columns but those from the first one in use, or from column 0 on, to the last one in use. -/
theorem styles_agree {m : KernelMemory} {d : Device} (layout : d.KernelWindows) (sound : m.Sound) (o : Options)
    (compare : Bool) (style : LoadProgram.Style) (ram : KernelRam)
    (zeroed : style = .inline → o.zeroSram = true → ∀ p column, ram p column = List.replicate 9 0) :
    (∃ port, (m.loadProgram d o compare style).execute d { memory := ram } = some port ∧
      m.LoadedInto d port.memory ∧
      (style ≠ .inline → ∀ p column, port.memory p column ≠ ram p column →
        p < d.maxProcessors ∧ (∃ last < d.maskWidth p, m.taken p last = true ∧ column ≤ last) ∧
          (o.legacyKernels = true ∨ ∃ first ≤ column, m.taken p first = true))) ∧
    (style ≠ .inline → (m.loadProgram d o compare style).statements.map reads =
      (m.loadProgram d o compare style).arrays.map fun a => some (a.1, a.2.length)) ∧
    (∀ (s : LoaderSettings) (layers : List KernelLayer) (spans : List KernelSpan) (before : Session),
      s.style o = style → (∀ l ∈ layers, l.interleaved = false) → WritesKernels d compare before →
      (style ≠ .inline → o.blockMode = false ∧ ∀ p : Nat, (o.apbBase + baseAddress d p).fmod 16 = 0) →
      (emitLoad s d o layers m spans).run before =
        ((m.loadProgram d o compare style).emit o s.api style).run before) := by
  have emitted : ∀ (s : LoaderSettings) (layers : List KernelLayer) (spans : List KernelSpan) (before : Session),
      s.style o = style → (∀ l ∈ layers, l.interleaved = false) → WritesKernels d compare before →
      (style ≠ .inline → o.blockMode = false ∧ ∀ p : Nat, (o.apbBase + baseAddress d p).fmod 16 = 0) →
      (emitLoad s d o layers m spans).run before =
        ((m.loadProgram d o compare style).emit o s.api style).run before := by
    rintro s layers spans before rfl plain writes copies
    exact emitLoad_eq spans sound plain copies writes
  cases style with
  | inline =>
    obtain ⟨port, ran, loaded⟩ := inline_loads layout sound o.zeroSram compare ram (zeroed rfl)
    exact ⟨⟨port, ran, loaded, fun other => absurd rfl other⟩, fun other => absurd rfl other, emitted⟩
  | plain =>
    obtain ⟨⟨port, ran, memory⟩, whole⟩ := plain_loads o.legacyKernels layout sound ram
    obtain ⟨loaded, touched⟩ := fill_ranges (m := m) (d := d) o.legacyKernels ram
    exact ⟨⟨port, ran, memory ▸ loaded, fun _ => memory ▸ touched⟩, fun _ => whole, emitted⟩
  | packed =>
    obtain ⟨⟨port, ran, memory⟩, whole⟩ := packed_loads o.legacyKernels layout sound ram
    obtain ⟨loaded, touched⟩ := fill_ranges (m := m) (d := d) o.legacyKernels ram
    exact ⟨⟨port, ran, memory ▸ loaded, fun _ => memory ▸ touched⟩, fun _ => whole, emitted⟩

def StoresBytes (m : KernelMemory) : Prop := ∀ p column, ∀ b ∈ m.stored p column, 0 ≤ b.value ∧ b.value < 256

theorem StoresBytes.store {result : KernelMemory} {layer : Nat} {value : Int} (bytes : m.StoresBytes)
    (done : m.store layer p column value = .ok result) : result.StoresBytes := by
  obtain ⟨_, top, _, elsewhere⟩ := store_spec done
  intro q c b member
  by_cases here : (q, c) = (p, column)
  · cases here
    rw [top] at member
    rcases mem_cons.mp member with rfl | member
    · exact ⟨Int.emod_nonneg _ (by decide), Int.emod_lt_of_pos _ (by decide)⟩
    · exact bytes p column b member
  · rw [stored, elsewhere q c here] at member
    exact bytes q c b member

theorem sound_of_stores (fits : m.Fits) (bytes : m.StoresBytes) : m.Sound := by
  intro p column
  have room := fits p column
  rw [bytesAt_eq]
  refine ⟨?_, ?_⟩
  · simp only [length_append, length_replicate, length_map]
    omega
  · intro b member
    rcases mem_append.mp member with zero | stored
    · rw [eq_of_mem_replicate zero]
      omega
    · obtain ⟨x, inside, rfl⟩ := mem_map.mp stored
      exact bytes p column x inside

theorem packLayers_sound {s : PackSettings} {first : Nat} {spans : List KernelSpan} {packed : Packing}
    (run : (packLayers s layers first).run {} = .ok spans packed) : packed.memory.Sound := by
  simp only [packLayers, bind_ok, modify_ok] at run
  obtain ⟨_, _, rfl, run⟩ := run
  have kept := KernelLayer.mapM_pack_keeps
    (R := fun a b => a.memory.Fits ∧ a.memory.StoresBytes → b.memory.Fits ∧ b.memory.StoresBytes)
    (fun a b same => by rw [same]; exact id) (fun a b c first second => second ∘ first)
    (by
      intro pl d p target value before next after stored fits
      obtain ⟨m, done, rfl, _, _⟩ := Placement.storeByte_ok stored
      exact ⟨fits.1.store done, fits.2.store done⟩) layers _ _ _ run
  obtain ⟨fits, bytes⟩ := kept ⟨by simp [Fits, stored, word?], by simp [StoresBytes, stored, word?]⟩
  exact sound_of_stores fits bytes

set_option maxRecDepth 20000 in
theorem styles_agree_twoPassLayer :
    ∃ spans packed, (packLayers (packSettings threeProcessors.options threeProcessorDevice) [twoPassLayer] 0).run {} =
      .ok spans packed ∧
      packed.memory.taken 2 3 = true ∧
      ∀ style, ∃ port, (packed.memory.loadProgram threeProcessorDevice { zeroSram := true } true style).execute
          threeProcessorDevice { memory := fun _ _ => List.replicate 9 0 } = some port ∧
        packed.memory.LoadedInto threeProcessorDevice port.memory := by
  have returns : (result? ((packLayers (packSettings threeProcessors.options threeProcessorDevice) [twoPassLayer] 0).run
      {})).map (fun result => result.2.memory.taken 2 3) = some true := by cbv
  obtain ⟨⟨spans, packed⟩, ran, taken⟩ := Option.map_eq_some_iff.mp returns
  have ran := result?_eq_some.mp ran
  refine ⟨spans, packed, ran, taken, ?_⟩
  intro style
  obtain ⟨⟨port, executed, loaded, _⟩, _, _⟩ := styles_agree
    (d := threeProcessorDevice) ⟨by decide, by decide, by decide, by decide⟩ (packLayers_sound ran)
    { zeroSram := true } true style (fun _ _ => List.replicate 9 0) (fun _ _ _ _ => rfl)
  exact ⟨port, executed, loaded⟩

end KernelMemory

end CnnForge
