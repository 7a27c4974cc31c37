import CnnForge.Bus.Access

namespace CnnForge.Bus

structure RegisterStyle where
  comment : Option String := some ""
  force : Bool := false
  noVerify : Bool := false
deriving Repr, Inhabited

namespace RegisterStyle

/-- The comment of a register write; a zero that need not be written is starred. -/
def note (style : RegisterStyle) (fallback : String) (value : Int) : String :=
  style.comment.getD fallback ++ (if value = 0 && !style.force then " *" else "")

def writes (style : RegisterStyle) (writeZero : Bool) (value : Int) : Bool :=
  style.force || value ≠ 0 || writeZero

end RegisterStyle

def writeRegister (label : String) (address value : Int) (note : String) (style : RegisterStyle)
    (absolute : Bool) : Run Unit := do
  if style.writes (← get).bus.settings.writeZeroRegisters value then
    write address value { comment := note, noVerify := style.noVerify, absolute }
  if (← Run.options).verbose then
    Run.putLine s!"{label}({Text.hex 8 address}): {Text.hex 8 value}{note}"

def registerLabel (letter : String) (reg : Int) : String :=
  letter ++ Text.padRight 5 (Text.decimal 2 reg)

def writeFifo (reg value : Int) (style : RegisterStyle := {}) : Run Unit := do
  let address := (← Run.device).fifoBase + reg * 4
  writeRegister (registerLabel "F" reg) address value (style.note s!" // fifo ctl {reg}" value)
    { style with noVerify := false } false

def writeFastFifo (reg value : Int) (style : RegisterStyle := {}) : Run Unit := do
  let address := (← Run.device).fastFifoBase + reg * 4
  writeRegister (registerLabel "F" reg) address value
    (style.note s!" // fast fifo ctl {reg}" value) { style with noVerify := false } true

def writeControl (group reg value : Int) (style : RegisterStyle := {}) : Run Unit := do
  let address := (← Run.device).controlAddress group reg
  writeRegister (registerLabel "R" reg) address value (style.note s!" // global ctl {reg}" value)
    style false

def waitControl (group reg mask value : Int) (comment : String := "") : Run Unit := do
  wait ((← Run.device).controlAddress group reg) mask value comment

def verifyControl (group reg : Int) (mask : Option Int) (value : Int) (comment : String := "") :
    Run Unit := do
  verify ((← Run.device).controlAddress group reg) value { mask, comment }

def writeLayer (group layer reg value : Int) (style : RegisterStyle := {}) : Run Unit := do
  let address := (← Run.device).layerAddress group reg layer
  writeRegister s!"L{layer} G{group} R{Text.decimal 2 reg} " address value
    (style.note s!" // reg {reg}" value) { style with noVerify := false } false

def writeBias (group offset bias : Int) : Run Unit := do
  let d ← Run.device
  write (d.groupSpacing * group + d.biasBase + offset * 4) (Bits.byte bias)
    { comment := " // Bias" }

def writeTram (group processor offset value : Int) (comment : String := "") : Run Unit := do
  let d ← Run.device
  write (d.groupSpacing * group + d.tramBase + processor * d.tramSpacing * 4 + offset * 4) value
    { comment := s!" // {comment}TRAM G{group} P{processor} #{offset}" }

end CnnForge.Bus
