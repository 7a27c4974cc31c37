import CnnForge.Bus.Access

namespace CnnForge.Bus

structure Interleaving where
  first : Int
  count : Int
deriving Repr, Inhabited

def kernelColumn (d : Device) (index : Int) : Option Interleaving → Except Failure Int
  | none => .ok index
  | some il =>
    let share := (il.count + 3).fdiv 4
    if share = 0 then .error .divisionByZero
    else
      let memory := (index - il.first).fdiv share
      let rest := (index - il.first).fmod share
      let first := il.first.fdiv 4
      if index < d.maskWidthSmall then
        if 0 ≤ memory ∧ memory < 4 then
          .ok (memory * Int.fdiv d.maskWidthSmall 4 + rest + first)
        else .error (.check "")
      else
        .ok (memory * Int.fdiv (d.maskWidthLarge - d.maskWidthSmall) 4 + rest + d.maskWidthSmall
          + first)

def kernelAddress (d : Device) (processor column : Int) : Int :=
  d.groupSpacing * processor.fdiv d.groupSize + d.maskBase
    + processor.fmod d.groupSize * d.maskSpacing * 16 + column * 16

def kernelBytes (k : List Int) (single : Bool) : Except Failure (List Int) :=
  if single then
    match k with
    | [] => .error .index
    | b :: _ => .ok (Bits.byte b :: List.replicate 8 0)
  else if k.length < 9 then .error .index
  else .ok ((k.take 9).map Bits.byte)

def bigEndian (bytes : List Int) : Int := bytes.foldl (fun acc b => acc * 256 + b) 0

def kernelWords (bytes : List Int) : List Int :=
  [bigEndian (bytes.take 1), bigEndian ((bytes.drop 1).take 4), bigEndian ((bytes.drop 5).take 4), 0]

def kernelInstance (d : Device) (column : Int) : Int × Int :=
  if column < d.maskWidthSmall then
    let n : Int := Int.fdiv d.maskWidthSmall d.maskInstancesEach
    (column.fdiv n, column.fmod n)
  else
    let c := column - d.maskWidthSmall
    let n : Int := Int.fdiv (d.maskWidthLarge - d.maskWidthSmall) d.maskInstancesEach
    (c.fdiv n + d.maskInstancesEach, c.fmod n)

def kernelText (bytes : List Int) : String :=
  match kernelWords bytes with
  | [a, b, c, _] => s!"{Text.hex 2 a}_{Text.hex 8 b}_{Text.hex 8 c}"
  | _ => ""

def writeKernel (layer processor index : Int) (kernel : List Int) (single : Bool)
    (verifyOnly : Bool) (interleaving : Option Interleaving) : Run Unit := do
  let d ← Run.device
  Run.check (processor < d.maxProcessors)
  Run.check (index < d.maskWidth processor)
  let column ← Run.lift (kernelColumn d index interleaving)
  let address := kernelAddress d processor column
  if !verifyOnly then
    if (← get).bus.kernelMemory.isSome then
      let (memory, word) := kernelInstance d column
      let bytes ← Run.lift (kernelBytes kernel single)
      let key := (← get).bus.kernelMemory.bind
        (·.locate? (processor.fdiv d.groupSize) (processor.fmod d.groupSize) memory)
      let key ← Run.orFail .index key
      let text := kernelText bytes
      Run.modifyBus fun b => { b with kernelMemory := b.kernelMemory.map (·.add key word text) }
    else
      let bytes ← Run.lift (kernelBytes kernel single)
      let note := s!" // Layer {layer}: processor {processor} kernel #{index}"
      for (w, i) in (kernelWords bytes).zipIdx do
        write (address + 4 * i) w { noVerify := true, comment := if i = 0 then note else "" }
  if (← get).bus.settings.verifyWrites || verifyOnly then
    let bytes ← Run.lift (kernelBytes kernel single)
    for (w, i) in (kernelWords bytes).zipIdx do
      verify (address + 4 * i) w { api := true }

end CnnForge.Bus
