import CnnForge.Bits
import CnnForge.Device.Address
import CnnForge.Statistics
import Std.Data.HashMap

namespace CnnForge

inductive Sink where
  | file (path : String)
  | stream (name : String)
deriving Repr, DecidableEq, Inhabited

inductive Mark where
  | loaded
  | output (layer channel row column value : Int)
deriving Repr, DecidableEq, Inhabited

structure MemoryImage where
  size : Nat
  words : Std.HashMap Nat Mark := {}
deriving Inhabited

namespace MemoryImage

/-- The word at index `i`; a negative index counts from the end. -/
def get (m : MemoryImage) (i : Int) : Except Failure (Option Mark) :=
  match position? m.size i with
  | some j => .ok m.words[j]?
  | none => .error .index

def set (m : MemoryImage) (i : Int) (x : Mark) : Except Failure MemoryImage :=
  match position? m.size i with
  | some j => .ok { m with words := m.words.insert j x }
  | none => .error .index

end MemoryImage

structure ByteBuffer where
  word : Int := 0
  count : Nat := 0
  next : Int := 0
deriving Repr, DecidableEq, Inhabited

namespace ByteBuffer

def pending? (b : ByteBuffer) : Option (Int × Int) :=
  if b.count = 0 then none else some (b.next - b.count, b.word)

def restart (offset : Int) : ByteBuffer := { next := offset }

def append (b : ByteBuffer) (value : Int) : ByteBuffer :=
  { word := Bits.or b.word (Bits.up (Bits.byte value) (8 * b.count)), count := b.count + 1,
    next := b.next + 1 }

end ByteBuffer

structure Check where
  mask : Int
  address : Int
  maskText : String
  value : Int
  bytes : Int
  continues : Bool
  comment : String
deriving Repr, DecidableEq, Inhabited

/-- Memories filled before a simulation starts: entries of word number and content, by group,
processor and instance. -/
structure Preload (α : Type) where
  groups : Nat
  processors : Nat
  instances : Nat
  entries : Std.HashMap (Nat × Nat × Nat) (Array (Int × α)) := {}

instance : Inhabited (Preload α) := ⟨⟨0, 0, 0, {}⟩⟩

namespace Preload

def locate? (p : Preload α) (group processor inst : Int) : Option (Nat × Nat × Nat) := do
  return (← position? p.groups group, ← position? p.processors processor,
    ← position? p.instances inst)

def add (p : Preload α) (memory : Nat × Nat × Nat) (word : Int) (x : α) : Preload α :=
  { p with entries := p.entries.alter memory fun o => some ((o.getD #[]).push (word, x)) }

end Preload

inductive BusKind where
  | textOnly
  | block
  | trace
  | program
deriving Repr, DecidableEq, Inhabited

inductive Resumption where
  | never
  | group (g : Int)
  | undecided
deriving Repr, DecidableEq, Inhabited

structure BusSettings where
  mainFile : Option Sink := none
  apiFile : Option Sink := none
  weightHeader : Option Sink := none
  sampleDataHeader : Option Sink := none
  sampleOutputHeader : Option Sink := none
  verifyWrites : Bool := false
  embedded : Bool := false
  embeddedHost : Bool := false
  writeZeroRegisters : Bool := false
  resumption : Resumption := .undecided
  riscv : Option Bool := none
  fifo : Bool := false
  fastFifo : Bool := false
  inputChannels : Option Int := none
  forever : Bool := false
  groups : Option (List Int) := none
  oneShot : Int := 0
  outputWidth : Int := 8
  bias : Bool := false
  testName : Option String := none
deriving Repr, Inhabited

structure Bus where
  kind : BusKind := .textOnly
  settings : BusSettings := {}
  buffer : ByteBuffer := {}
  image : MemoryImage := { size := 0 }
  writes : Int := 0
  reads : Int := 0
  checks : Array Check := #[]
  line : Int := 0
  dataMemory : Option (Preload Int) := none
  kernelMemory : Option (Preload String) := none
  outputMemory : Option (Preload String) := none
deriving Inhabited

end CnnForge
