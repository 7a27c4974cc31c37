import CnnForge.Proofs.CheckRun

namespace CnnForge

open Outcome Bits List Session Stays

variable {records records' : List (Nat × Mark)} {i n : Nat} {words : Std.HashMap Nat Mark} {name : String}
  {processor channel row column count count' : Int} {b : OutputBlock} {limit : Option Int} {bs : List OutputBlock}

/-- Memories stay as they are, and so does what their checks go by. -/
structure SameMemory (before after : Session) : Prop where
  images : after.images = before.images
  options : after.options = before.options
  device : after.device = before.device

namespace SameMemory

variable {first s : Session}

theorem refl (s : Session) : SameMemory s s := ⟨rfl, rfl, rfl⟩

theorem append (same : SameMemory first s) (k : Sink) (t : String) : SameMemory first (s.append k t) := by
  cases k <;> exact ⟨same.images, same.options, same.device⟩

theorem logFree (first : Session) : LogFree (SameMemory first) :=
  ⟨fun _ _ _ same => ⟨same.images, same.options, same.device⟩, fun _ path t _ same => same.append (.file path) t⟩

end SameMemory

/-- A step that changes no memory, and does not run on. -/
abbrev Steady {α : Type} (x : Run α) : Prop :=
  ∀ first : Session, Ends (SameMemory first) (· ≠ .endless) (fun _ => True) x

theorem Steady.same {α : Type} {x : Run α} (steady : Steady x) {before after : Session} {a : α}
    (run : x.run before = .ok a after) : SameMemory before after :=
  keeps steady .refl before a after run

theorem SameMemory.busFree : BusFree SameMemory :=
  ⟨fun _ _ k t same => same.append k t, fun _ _ _ _ same => ⟨same.images, same.options, same.device⟩⟩

namespace Stays

theorem modifyFiles (f : FileTree → FileTree) : Steady (modify fun s => { s with files := f s.files } : Run Unit) :=
  fun _ => .modify fun _ same => ⟨same.images, same.options, same.device⟩

theorem createFile (path : String) : Steady (Run.createFile path) := by
  refine bind get fun s => ?_
  have failure : s.files.readFailure path ≠ .endless := by
    unfold FileTree.readFailure
    repeat' split
    all_goals decide
  have writable : Yields (· ≠ .endless) (fun _ => True) (s.files.checkWritable path) :=
    Yields.ite (fun _ => .throw (by decide)) fun _ => .ite (fun _ => .throw (by decide)) fun _ =>
      Yields.ite (fun _ => .pure trivial) fun _ => .throw failure
  exact bind (lift (.bind writable fun _ _ => .pure trivial)) fun t => modifyFiles fun _ => t

theorem saveResult (s : Unload.VerifySettings) (data : Tensor) : Steady (Unload.saveResult s data) := by
  refine bind options fun o => ?_
  split
  · exact bind (orFail (by decide) _) fun folder => bind (createFile _) fun _ => modifyFiles (·.add _ _)
  · exact pure _

end Stays

namespace Unload

variable {l : OutputLayout} {d : Device} {s : VerifySettings} {data : Tensor} {check : Verifier}

abbrev Halts {α : Type} (d : Device) (x : Run α) : Prop :=
  Ends (fun s : Session => s.device = some d) (· ≠ .endless) (fun _ => True) x

theorem halts_of_steady {α : Type} {x : Run α} (steady : Steady x) : Halts d x := by
  intro before selected
  have ends := steady before before (.refl before)
  cases result : x.run before with
  | ok a after =>
    rw [result] at ends
    exact ⟨trivial, ends.2.device.trans selected⟩
  | error e after =>
    rw [result] at ends
    exact ends

theorem takeWord_halts (processor offset channel row column value : Int) :
    Halts d (takeWord s processor offset channel row column value) := by
  refine .bind (halts_of_steady (Stays.checkWord SameMemory.logFree _ _ _ _ _ _)) fun _ _ => ?_
  split
  · refine .bind (halts_of_steady get) fun st _ => .bind (halts_of_steady (orFail (by decide) _)) fun i _ => ?_
    exact .modify fun _ selected => selected
  · exact .pure trivial

theorem verify_halts (steady : ∀ address value style, Steady (check address value style))
    (blocks : Yields (· ≠ .endless) (fun _ => True) (l.blocks d))
    (direct : s.interleaved = false ∨ s.embedded = true) : Halts d (verify check s l data) := by
  rw [verify_direct direct]
  refine .bind (halts_of_steady (Stays.saveResult s data)) fun _ _ => ?_
  refine verifyDirect_ends (fun _ => id) (fun _ => by decide) (fun _ _ => halts_of_steady (emit SameMemory.busFree _ _)) ?_
  refine blocks.mono (fun _ => id) fun bs _ place _ _ counted => verifyPixel_ends (fun _ => by decide) ?_ counted
  intro values _ w _
  exact ⟨takeWord_halts _ _ _ _ _ _, halts_of_steady (steady _ _ _)⟩

/-- What a pixel of a block with processors records: the index of its word, and its mark there. -/
def recordAt (s : VerifySettings) (l : OutputLayout) (d : Device) (data : Tensor) (room : Nat)
    (place : Nat × OutputBlock) : Option (Nat × Mark) := do
  let (n, b) := place
  let row := n / l.shape.width
  let column := n % l.shape.width
  let values ← (laneValues data l b row column).mapM id
  let i ← position? room (Bits.down (d.dataBase + l.address d b n s.gap) 2)
  return (i, .output s.layer b.first row column (packLanes values))

end Unload

def Session.used (s : Session) (name : String) : Std.HashMap Nat Mark := ((s.images[name]?.map (·.words)).getD {})

def recordAll (records : List (Nat × Mark)) (words : Std.HashMap Nat Mark) : Std.HashMap Nat Mark :=
  records.foldl (fun words r => words.insert r.1 r.2) words

theorem recordAll_other (other : ∀ r ∈ records, r.1 ≠ i) (words : Std.HashMap Nat Mark) :
    (recordAll records words)[i]? = words[i]? := by
  induction records generalizing words with
  | nil => rfl
  | cons r records ih =>
    have apart := other r (by simp)
    have rest := ih (fun r member => other r (by simp [member])) (words.insert r.1 r.2)
    rw [Std.HashMap.getElem?_insert, if_neg (by simpa using apart)] at rest
    exact rest

theorem recordAll_eq_none (free : (recordAll records words)[i]? = none) :
    words[i]? = none ∧ ∀ r ∈ records, r.1 ≠ i := by
  induction records generalizing words with
  | nil => exact ⟨free, by simp⟩
  | cons first rest ih =>
    obtain ⟨here, later⟩ : (words.insert first.1 first.2)[i]? = none ∧ ∀ r ∈ rest, r.1 ≠ i := ih free
    rw [Std.HashMap.getElem?_insert] at here
    split at here
    · cases here
    · rename_i apart
      rw [beq_iff_eq] at apart
      refine ⟨here, ?_⟩
      intro r member
      rcases mem_cons.mp member with rfl | member
      · exact apart
      · exact later r member

theorem recordAll_last {first rest : List (Nat × Mark)} {r : Nat × Mark} (last : ∀ r' ∈ rest, r'.1 ≠ r.1)
    (words : Std.HashMap Nat Mark) : (recordAll (first ++ r :: rest) words)[r.1]? = some r.2 := by
  rw [recordAll, foldl_append, foldl_cons]
  have kept := recordAll_other last ((recordAll first words).insert r.1 r.2)
  rwa [Std.HashMap.getElem?_insert_self] at kept

def Free (records : List (Nat × Mark)) (words : Std.HashMap Nat Mark) : Prop :=
  (records.map Prod.fst).Nodup ∧ ∀ r ∈ records, words[r.1]? = none

theorem free_append :
    Free (records ++ records') words ↔ Free records words ∧ Free records' (recordAll records words) := by
  rw [Free, map_append, nodup_append]
  constructor
  · rintro ⟨⟨nodup, nodup', apart⟩, free⟩
    refine ⟨⟨nodup, fun r member => free r (mem_append_left _ member)⟩, nodup', fun r' member' => ?_⟩
    rw [recordAll_other]
    · exact free r' (mem_append_right _ member')
    · intro r member
      exact apart _ (mem_map_of_mem member) _ (mem_map_of_mem member')
  · rintro ⟨⟨nodup, free⟩, nodup', free'⟩
    -- A word of the second list is free when the first one is done, so it is not on the first one.
    have apart : ∀ r' ∈ records', ∀ r ∈ records, r.1 ≠ r'.1 :=
      fun r' member' => (recordAll_eq_none (free' r' member')).2
    refine ⟨⟨nodup, nodup', ?_⟩, ?_⟩
    · intro i left j right
      obtain ⟨r, member, rfl⟩ := mem_map.mp left
      obtain ⟨r', member', rfl⟩ := mem_map.mp right
      exact apart r' member' r member
    · intro r member
      rcases mem_append.mp member with member | member
      · exact free r member
      · rw [← recordAll_other (apart r member)]
        exact free' r member

structure Taken (refuses : Prop) (records : List (Nat × Mark)) (before after : Std.HashMap Nat Mark) : Prop where
  words : after = recordAll records before
  fresh : refuses → Free records before

theorem Taken.trans {refuses : Prop} {before middle after : Std.HashMap Nat Mark}
    (first : Taken refuses records before middle) (second : Taken refuses records' middle after) :
    Taken refuses (records ++ records') before after := by
  refine ⟨?_, fun refused => ?_⟩
  · rw [second.words, first.words, recordAll, recordAll, recordAll, foldl_append]
  · have free := second.fresh refused
    rw [first.words] at free
    exact free_append.mpr ⟨first.fresh refused, free⟩

structure Recorded (refuses : Prop) (out : String) (records : List (Nat × Mark)) (before after : Session) : Prop extends
    Taken refuses records (before.used out) (after.used out) where
  options : after.options = before.options
  device : after.device = before.device
  room : after.room out = before.room out

namespace Recorded

variable {refuses : Prop} {out : String} {records records' : List (Nat × Mark)} {before middle after : Session}

theorem of_same (same : SameMemory before after) : Recorded refuses out [] before after := by
  refine ⟨⟨?_, fun _ => ⟨nodup_nil, by simp⟩⟩, same.options, same.device, ?_⟩
  · rw [used, same.images]
    rfl
  · rw [Session.room, same.images]
    rfl

theorem trans (first : Recorded refuses out records before middle) (second : Recorded refuses out records' middle after) :
    Recorded refuses out (records ++ records') before after :=
  ⟨first.toTaken.trans second.toTaken, second.options.trans first.options, second.device.trans first.device,
    second.room.trans first.room⟩

end Recorded

namespace Unload

variable {l : OutputLayout} {d : Device} {s : VerifySettings} {data : Tensor} {check : Verifier} {out : String}
  {offset : Int} {before after : Session} {u : Unit}

theorem imageWord_ok {word : Option Mark} : (imageWord name offset).run before = .ok word after ↔
      before = after ∧ ∃ i, position? (before.room name) (Bits.down offset 2) = some i ∧ (before.used name)[i]? = word := by
  simp only [imageWord, bind_ok, get_ok, Run.orFail_ok, Run.lift_ok, room, used]
  constructor
  · rintro ⟨_, _, ⟨rfl, rfl⟩, image, _, ⟨found, rfl⟩, read, rfl⟩
    refine ⟨rfl, ?_⟩
    simp only [found, Option.map_some, Option.getD_some]
    rw [MemoryImage.get] at read
    split at read
    · rename_i i here
      exact ⟨i, here, Except.ok.inj read⟩
    · cases read
  · rintro ⟨rfl, i, here, read⟩
    cases found : before.images[name]? with
    | none =>
      have inside := position?_lt here
      simp [found] at inside
    | some image =>
      simp only [found, Option.map_some, Option.getD_some] at here read
      refine ⟨_, _, ⟨rfl, rfl⟩, image, _, ⟨found, rfl⟩, ?_, rfl⟩
      rw [MemoryImage.get, here]
      exact congrArg Except.ok read

theorem used_mark (here : position? (before.room name) (Bits.down offset 2) = some i) (mark : Mark) :
    (before.mark name i mark).used name = (before.used name).insert i mark := by
  have inside := position?_lt here
  cases found : before.images[name]? with
  | none => simp [room, found] at inside
  | some image => simp [Session.used, Session.mark, Std.HashMap.getElem?_modify_self, found]

theorem checkWord_free (recorded : s.output = some out)
    (refuses : s.overwriteOk = false ∧ before.options.noErrorStop = false)
    (run : (checkWord s processor offset channel row column).run before = .ok u after)
    (here : position? (before.room out) (Bits.down offset 2) = some i) : (before.used out)[i]? = none := by
  simp only [checkWord, refuses.1, recorded, Bool.false_eq_true, if_false, bind_ok, Run.options_ok] at run
  obtain ⟨_, _, ⟨rfl, rfl⟩, _, middle, input, run⟩ := run
  have same := Steady.same (Stays.checkInput SameMemory.logFree _ _ _ _ _ _ _) input
  rw [refuses.2] at run
  simp only [checkOutput, bind_ok] at run
  obtain ⟨word, _, read, run⟩ := run
  obtain ⟨rfl, j, there, holds⟩ := imageWord_ok.mp read
  rw [room, same.images, ← room, here, Option.some.injEq] at there
  subst there
  rw [used, same.images, ← used] at holds
  rw [holds]
  cases word with
  | none => rfl
  | some mark =>
    cases mark with
    | loaded => exact (throw_ok.mp run).elim
    | output layer c y x v =>
      simp only [Run.stopIf, Bool.not_false, if_true, Run.stop, bind_ok, throw_ok, and_false, exists_false] at run

theorem takeWord_records {value : Int} (recorded : s.output = some out)
    (run : (takeWord s processor offset channel row column value).run before = .ok u after) :
    ∃ i, position? (before.room out) (Bits.down offset 2) = some i ∧
      Recorded (s.overwriteOk = false ∧ before.options.noErrorStop = false) out
        [(i, .output s.layer channel row column value)] before after := by
  simp only [takeWord, recorded, bind_ok] at run
  obtain ⟨_, middle, checked, run⟩ := run
  have same := Steady.same (Stays.checkWord SameMemory.logFree _ _ _ _ _ _) checked
  have first : Recorded (s.overwriteOk = false ∧ before.options.noErrorStop = false) out [] before middle :=
    Recorded.of_same same
  obtain ⟨i, here, rfl⟩ := recordWord_ok.mp run
  have words := used_mark here (.output s.layer channel row column value)
  rw [first.words] at words
  rw [first.room] at here
  refine ⟨i, here, ⟨words, ?_⟩, first.options, first.device, (middle.room_mark ..).trans first.room⟩
  intro refuses
  refine ⟨by simp, ?_⟩
  simpa using checkWord_free recorded refuses checked here

def recordsAt (s : VerifySettings) (l : OutputLayout) (d : Device) (data : Tensor) (room : Nat)
    (place : Nat × OutputBlock) : List (Nat × Mark) :=
  if place.2.lanes = 0 then [] else (recordAt s l d data room place).toList

section

variable (bytes : l.size = 1) (steady : ∀ address value style, Steady (check address value style))
  (recorded : s.output = some out)
include bytes steady recorded

theorem verifyPixel_records {counted : Bool}
    (run : (verifyPixel check s l d data n b counted).run before = .ok u after) :
    ∃ r, recordAt s l d data (before.room out) (n, b) = some r ∧
      Recorded (s.overwriteOk = false ∧ before.options.noErrorStop = false) out [r] before after := by
  simp only [verifyPixel, bind_ok, Run.orFail_ok] at run
  obtain ⟨values, _, ⟨known, rfl⟩, run⟩ := run
  simp only [pixelWords, bytes, if_true, forM_eq_forM, forM_cons, forM_nil, bind_ok, pure_ok] at run
  obtain ⟨_, _, ⟨_, middle, taken, checked⟩, _, rfl⟩ := run
  obtain ⟨i, here, records⟩ := takeWord_records recorded taken
  refine ⟨(i, .output s.layer b.first (n / l.shape.width : Nat) (n % l.shape.width : Nat) (packLanes values)), ?_, ?_⟩
  · simp only [recordAt, known, here, Option.bind_eq_bind, Option.bind_some, Option.pure_def]
  · have rest : SameMemory middle _ := Steady.same (ite (steady _ _ _) (.pure _)) checked
    simpa using records.trans (.of_same rest)

theorem verifyCounted_records
    (run : (verifyCounted check s l d data limit count n b).run before = .ok count' after) :
    (b.lanes ≠ 0 → ∃ r, recordAt s l d data (before.room out) (n, b) = some r) ∧
      Recorded (s.overwriteOk = false ∧ before.options.noErrorStop = false) out
        (recordsAt s l d data (before.room out) (n, b)) before after := by
  unfold verifyCounted at run
  by_cases none : b.lanes = 0
  · simp only [none, if_true, pure_ok] at run
    obtain ⟨_, rfl⟩ := run
    refine ⟨fun used => absurd none used, ?_⟩
    rw [recordsAt, if_pos none]
    exact Recorded.of_same (SameMemory.refl before)
  · rw [if_neg none, bind_ok] at run
    obtain ⟨_, middle, verified, run⟩ := run
    obtain ⟨r, here, records⟩ := verifyPixel_records bytes steady recorded verified
    refine ⟨fun _ => ⟨r, here⟩, ?_⟩
    have noted : SameMemory middle after := by
      refine Steady.same ?_ run
      apply Stays.ite
      · split
        · exact .bind (.emit SameMemory.busFree _ _) fun _ => .pure _
        · exact .pure _
      · exact .pure _
    rw [recordsAt, if_neg none, here]
    simpa using records.trans (.of_same noted)

theorem verifyDirect_records (selected : before.device = some d) (found : l.blocks d = .ok bs)
    (run : (verifyDirect check s l data).run before = .ok u after) :
    (∀ place ∈ places l bs, place.2.lanes ≠ 0 → ∃ r, recordAt s l d data (before.room out) place = some r) ∧
      Recorded (s.overwriteOk = false ∧ before.options.noErrorStop = false) out
        ((places l bs).flatMap (recordsAt s l d data (before.room out))) before after := by
  obtain ⟨count, run⟩ := (verifyDirect_ok selected run).2 bs found
  -- What is recorded depends on the room of the image and the options, which no pixel changes.
  refine And.comm.mp (foldlM_collects (I := fun st => st.room out = before.room out ∧ st.options = before.options)
    (fun st _ => .of_same (.refl st)) .trans (places l bs) ?_ ⟨rfl, rfl⟩ run)
  rintro count place - st count' st' ⟨room, options⟩ ran
  obtain ⟨known, records⟩ := verifyCounted_records bytes steady recorded ran
  rw [room, options] at records
  rw [room] at known
  exact ⟨⟨records.room.trans room, records.options.trans options⟩, records, known⟩

end

theorem verify_records (bytes : l.bits = 8) (steady : ∀ address value style, Steady (check address value style))
    (direct : s.interleaved = false ∨ s.embedded = true) (recorded : s.output = some out)
    (selected : before.device = some d) (found : l.blocks d = .ok bs)
    (run : (verify check s l data).run before = .ok u after) :
    (∀ place ∈ places l bs, place.2.lanes ≠ 0 → ∃ r, recordAt s l d data (before.room out) place = some r) ∧
      Recorded (s.overwriteOk = false ∧ before.options.noErrorStop = false) out
        ((places l bs).flatMap (recordsAt s l d data (before.room out))) before after := by
  rw [verify_direct direct] at run
  obtain ⟨_, middle, saved, run⟩ := bind_ok.mp run
  have same := Steady.same (Stays.saveResult _ _) saved
  have first : Recorded (s.overwriteOk = false ∧ before.options.noErrorStop = false) out [] before middle :=
    Recorded.of_same same
  have rest := verifyDirect_records (by simp [OutputLayout.size, bytes]) steady recorded
    (same.device.trans selected) found run
  rw [first.room, first.options] at rest
  exact ⟨rest.1, first.trans rest.2⟩

end Unload

end CnnForge
