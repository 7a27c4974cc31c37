import CnnForge.Bits
import CnnForge.Device.Address
import CnnForge.Text.Digits
import Std.Data.HashMap

namespace CnnForge

structure StoredByte where
  layer : Nat
  value : Int
deriving Repr, DecidableEq, Inhabited

structure KernelWord where
  layer : Nat
  stored : List StoredByte
deriving Repr, DecidableEq, Inhabited

def KernelWord.bytes (w : KernelWord) : List Int :=
  List.replicate (9 - w.stored.length) 0 ++ w.stored.map StoredByte.value

structure KernelMemory where
  words : Std.HashMap (Nat × Nat) KernelWord := {}
deriving Inhabited

namespace KernelMemory

def word? (m : KernelMemory) (p column : Nat) : Option KernelWord := m.words[(p, column)]?

def used (m : KernelMemory) (p column : Nat) : Nat :=
  match m.word? p column with
  | some w => w.stored.length
  | none => 0

def taken (m : KernelMemory) (p column : Nat) : Bool := (m.word? p column).isSome

/-- Stores the next byte of a word; a full word takes no more. -/
def store (m : KernelMemory) (layer p column : Nat) (value : Int) : Except Failure KernelMemory :=
  let b : StoredByte := ⟨layer, Bits.byte value⟩
  match m.word? p column with
  | none => .ok { m with words := m.words.insert (p, column) ⟨layer, [b]⟩ }
  | some w =>
    if w.stored.length ≤ 8 then
      .ok { m with words := m.words.insert (p, column) { w with stored := b :: w.stored } }
    else .error (.check "")

def row (m : KernelMemory) (d : Device) (p : Nat) : List (Nat × KernelWord) :=
  (List.range (d.maskWidth p)).filterMap fun c => (m.word? p c).map fun w => (c, w)

def mapColumn (layers : Nat) : Nat :=
  let w := (Text.digits 10 layers).length
  if w > 1 then w + 1 else w

def mapLines (m : KernelMemory) (d : Device) (layers : Nat) : List String :=
  let w := mapColumn layers
  let rule := "".pushn '-' (d.maskWidthLarge * w)
  let line (p : Nat) : String :=
    (List.range (d.maskWidth p)).foldl (fun s c =>
      s ++ Text.padLeft w ' ' (match m.word? p c with
        | some x => toString x.layer
        | none => "X")) ""
  rule :: (List.range d.maxProcessors).map line ++ [rule]

end KernelMemory

end CnnForge
