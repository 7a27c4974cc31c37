import CnnForge.Device.Basic
import CnnForge.Failure

namespace CnnForge.Device

def controlAddress (d : Device) (group reg : Int) : Int :=
  d.groupSpacing * group + d.cnnBase + reg * 4

/-- Address of layer register `reg` of `layer` in `group`. Where layers have register blocks, the
streaming registers beyond the last block register are packed by layer. -/
def layerAddress (d : Device) (group reg layer : Int) : Int :=
  let base := d.groupSpacing * group + d.cnnBase + d.layerRegisterWords * 4
  match d.layerReg.spacing with
  | some spacing =>
    if reg ≤ d.layerReg.last then base + reg * 4 + layer * spacing else base + reg * 4 + layer * 4
  | none => base + reg * 4 * d.maxLayers + layer * 4

def maskWidth (d : Device) (p : Int) : Nat :=
  if p.fmod d.groupSize = 0 then d.maskWidthLarge else d.maskWidthSmall

def maskWidthOf (d : Device) (p : Int) : Except Failure Nat :=
  if d.groupSize = 0 then .error .divisionByZero else .ok (d.maskWidth p)

def instanceBytes (d : Device) : Int :=
  Int.fdiv (d.instanceWidth * d.shared * 4) d.instanceCount

def instanceOfOffset (d : Device) (offset : Int) : Int :=
  offset.fdiv d.instanceBytes

structure DataLocation where
  group : Int
  block : Int
  memory : Int
  word : Int
deriving Repr, DecidableEq, Inhabited

def dataLocation (d : Device) (address : Int) : DataLocation :=
  let a := address - d.dataBase
  let group := a.fdiv d.groupSpacing
  let a := a.fmod d.groupSpacing
  let block := a.fdiv (d.instanceSize * 16)
  let a := (a.fmod (d.instanceSize * 16)).fdiv 4
  let words := Int.fdiv (d.instanceWidth * 4) d.instanceCount
  ⟨group, block, a.fdiv words, a.fmod words⟩

/-- One bit for each data memory that the processors of `map` use. In quad mode the first processor
of every group is used too. -/
def dataMemories (d : Device) (map : Nat) (quad : Bool) : Nat :=
  let map := if quad then map ||| 0x1000100010001 else map
  (List.range (d.groupSize * d.groups)).foldl
    (fun acc p => if map.testBit p then acc ||| 1 <<< (p / d.shared) else acc) 0

def interleavedKernel (d : Device) (k : Int) : Int :=
  if !d.features.calcx4 then k
  else if k < d.maskWidthSmall then
    k.fmod 4 * (Int.fdiv d.maskWidthSmall 4) + k.fdiv 4
  else
    let k := k - d.maskWidthSmall
    k.fmod 4 * (Int.fdiv (d.maskWidthLarge - d.maskWidthSmall) 4) + k.fdiv 4 + d.maskWidthSmall

end CnnForge.Device
