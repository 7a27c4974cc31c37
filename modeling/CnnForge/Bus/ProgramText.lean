import CnnForge.Bus.Access
import CnnForge.CSource.FileHead
import CnnForge.CSource.MainFunction

namespace CnnForge.Bus

def ifProgram (act : BusSettings → Run Unit) : Run Unit := do
  if (← get).bus.kind == .program then act (← get).bus.settings

def termsOfUse : Run Unit := ifProgram fun s => do
  if let some api := s.apiFile then Run.emit api CSource.termsOfUse
  Run.emit (← require s.mainFile) CSource.termsOfUse

def fileHeads : Run Unit := ifProgram fun s => do
  let o ← Run.options
  let d ← Run.device
  let h : CSource.HeadSettings :=
    { embedded := s.embedded, resumption := s.resumption, riscv := s.riscv,
      embeddedHost := s.embeddedHost, groups := s.groups, oneShot := s.oneShot }
  if s.apiFile.isSome then
    (CSource.fileHead o d { h with library := some true }).emit s.apiFile none
    (CSource.fileHead o d { h with library := some false }).emit s.mainFile none
  else (CSource.fileHead o d { h with library := none }).emit s.mainFile none

def functionHeader (frame : CSource.FunctionFrame := {}) (library : Bool := true) : Run Unit :=
  ifProgram fun s => do
    if let some out := if library then librarySink s else s.mainFile then
      Run.emit out (CSource.functionHeader (← Run.options) frame)

def functionFooter (returnValue : String := "CNN_OK") (library : Bool := true) : Run Unit :=
  ifProgram fun s => do
    if let some out := if library then librarySink s else s.mainFile then
      Run.emit out (CSource.functionFooter returnValue)

def mainFunction : Run Unit := ifProgram fun s => do
  let loadKernels := (← get).bus.kernelMemory.isNone
  (CSource.mainFunction (← Run.options) (← Run.device)
    { library := s.apiFile.isSome, unload := s.embedded, embedded := s.embedded, riscv := s.riscv,
      channels := s.inputChannels, outputWidth := s.outputWidth, embeddedHost := s.embeddedHost,
      groups := s.groups, forever := s.forever, fifo := s.fifo, bias := s.bias, loadKernels,
      oneShot := s.oneShot }).emit s.mainFile s.apiFile

def softmaxLayer (outputWidth : Int := 8) (shift : Int := 0) : Run Unit := ifProgram fun s => do
  (CSource.softmaxLayer (← Run.options) outputWidth shift).emit s.mainFile none

def defineArray (items : List Int) (name format : String) (columns : Int) (weights : Bool := true) :
    Run Unit := ifProgram fun s =>
  CSource.defineArray (if weights then s.weightHeader else s.sampleDataHeader) name format columns
    items

def selectClock (source divider : String) (comment : String := "") : Run Unit := do
  if (← get).bus.kind == .program then
    let out ← require (librarySink (← get).bus.settings)
    Run.emit out (CSource.selectClock source divider comment)
  else throw .property

end CnnForge.Bus
