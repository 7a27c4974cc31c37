import CnnForge.Bus.Basic
import CnnForge.FileTree
import CnnForge.Options

namespace CnnForge

inductive StepLog where
  | none
  | open (path : String)
  | closed
deriving Repr, DecidableEq, Inhabited

structure Session where
  options : Options := {}
  device : Option Device := none
  statistics : Statistics := {}
  files : FileTree := {}
  streams : Std.HashMap String String := {}
  console : String := ""
  diagnostics : String := ""
  logPath : Option String := none
  stepLog : StepLog := .none
  bus : Bus := {}
  images : Std.HashMap String MemoryImage := {}
deriving Inhabited

def Session.append (s : Session) (sink : Sink) (text : String) : Session :=
  match sink with
  | .file path => { s with files := s.files.append path text }
  | .stream name => { s with streams := s.streams.alter name fun o => some (o.getD "" ++ text) }

abbrev Run := EStateM Failure Session

namespace Run

@[inline] def lift (x : Except Failure α) : Run α :=
  match x with
  | .ok a => pure a
  | .error e => throw e

@[inline] def orFail (e : Failure) : Option α → Run α
  | some a => pure a
  | none => throw e

@[inline] def check (b : Bool) (message : String := "") : Run Unit :=
  if b then pure () else throw (.check message)

@[inline] def options : Run Options := do return (← get).options

@[inline] def modifyOptions (f : Options → Options) : Run Unit :=
  modify fun s => { s with options := f s.options }

def device : Run Device := do
  match (← get).device with
  | some d => pure d
  | none => throw (.check "")

def put (text : String) : Run Unit :=
  modify fun s =>
    match s.logPath with
    | none => { s with console := s.console ++ text }
    | some path => s.append (.file path) text

def putLine (text : String) : Run Unit := put (text ++ "\n")

def diagnose (plain colored : String) : Run Unit := do
  if (← get).logPath.isSome then put plain
  modify fun s => { s with diagnostics := s.diagnostics ++ colored }

def red : String := "\x1b[31m"
def yellow : String := "\x1b[33m"
def resetColor : String := "\x1b[0m"

def reportError (message : String) : Run Unit :=
  diagnose s!"ERROR: {message}\n" s!"{red}ERROR:{resetColor} {message}\n"

def warn (message : String) : Run Unit :=
  diagnose s!"WARNING: {message}\n" s!"{yellow}WARNING:{resetColor} {message}\n"

def stop (message : String) : Run α := do
  reportError message
  throw (.exit 1)

def stopIf (fatal : Bool) (message : String) : Run Unit :=
  if fatal then stop message else warn message

def account (layer : Int) (c : Counter) (value : Int) : Run Unit := do
  let s ← lift ((← get).statistics.account layer c value)
  modify fun st => { st with statistics := s }

def emit (sink : Sink) (text : String) : Run Unit := modify fun s => s.append sink text

def createFile (path : String) : Run Unit := do
  let t ← lift ((← get).files.create path)
  modify fun s => { s with files := t }

@[inline] def modifyBus (f : Bus → Bus) : Run Unit :=
  modify fun s => { s with bus := f s.bus }

end Run

end CnnForge
