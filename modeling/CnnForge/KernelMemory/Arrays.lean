import CnnForge.Bus.Kernel
import CnnForge.KernelMemory.Basic

namespace CnnForge

attribute [local instance (2000)] Zero.ofOfNat0

/-- The columns of a processor that are loaded: from the first one in use to the last one. -/
structure ColumnRange where
  first : Nat
  last : Nat
deriving Repr, DecidableEq, Inhabited

def ColumnRange.size (r : ColumnRange) : Nat := r.last + 1 - r.first

structure KernelRun where
  processor : Nat
  columns : ColumnRange
  more : List (Nat × ColumnRange)
deriving Repr, Inhabited

namespace KernelRun

def parts (r : KernelRun) : List (Nat × ColumnRange) := (r.processor, r.columns) :: r.more

def size (r : KernelRun) : Nat := (r.parts.map fun x => x.2.size).sum

end KernelRun

namespace KernelMemory

/-- The columns of processor `p` to load, `none` if it has no kernels. All columns from 0 on are
loaded in legacy mode. -/
def columns? (m : KernelMemory) (d : Device) (legacy : Bool) (p : Nat) : Option ColumnRange :=
  match (List.range (d.maskWidth p)).filter (m.taken p) with
  | [] => none
  | c :: cs => some ⟨if legacy then 0 else c, (c :: cs).getLast (by simp)⟩

def continues (d : Device) (start p : Nat) (columns next : ColumnRange) : Bool :=
  columns.last = d.maskSpacing && next.first = 0 && start / d.groupSize = (p + 1) / d.groupSize

/-- The processors with kernels, joined into runs. `acc` is the run that may still grow. -/
def joinRuns (d : Device) : Option KernelRun → List (Nat × Option ColumnRange) → List KernelRun
  | acc, [] => acc.toList
  | acc, (_, none) :: rest => acc.toList ++ joinRuns d none rest
  | none, (p, some c) :: rest => joinRuns d (some ⟨p, c, []⟩) rest
  | some r, (p, some c) :: rest =>
    let last := r.parts.getLast (by simp [KernelRun.parts])
    if continues d r.processor last.1 last.2 c then
      joinRuns d (some { r with more := r.more ++ [(p, c)] }) rest
    else r :: joinRuns d (some ⟨p, c, []⟩) rest

def runs (m : KernelMemory) (d : Device) (legacy : Bool) : List KernelRun :=
  joinRuns d none ((List.range d.maxProcessors).map fun p => (p, m.columns? d legacy p))

def bytesAt (m : KernelMemory) (p column : Nat) : List Int :=
  match m.word? p column with
  | some w => w.bytes
  | none => List.replicate 9 0

def rangeBytes (m : KernelMemory) (p : Nat) (r : ColumnRange) : List (List Int) :=
  (List.range r.size).map fun i => m.bytesAt p (r.first + i)

def plainWords (m : KernelMemory) (r : KernelRun) : List Int :=
  r.parts.flatMap fun (p, c) => (m.rangeBytes p c).flatMap fun b => (Bus.kernelWords b).take 3

/-- Bytes in words of four, the first byte on top; the last word is filled with zeros. -/
def wordsOfBytes : List Int → List Int
  | a :: b :: c :: d :: rest => Bus.bigEndian [a, b, c, d] :: wordsOfBytes rest
  | [] => []
  | rest => [Bus.bigEndian (rest ++ List.replicate (4 - rest.length) 0)]

def packedWords (m : KernelMemory) (p : Nat) (c : ColumnRange) : List Int :=
  wordsOfBytes (m.rangeBytes p c).flatten

end KernelMemory

end CnnForge
