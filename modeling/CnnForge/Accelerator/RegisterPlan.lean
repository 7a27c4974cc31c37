import CnnForge.Bus.Register
import CnnForge.Report

namespace CnnForge.Accelerator

structure BitField where
  value : Int
  position : Nat
deriving Repr, DecidableEq, Inhabited

def wordOf (fields : List BitField) : Int :=
  fields.foldl (fun w f => Bits.or w (Bits.up f.value f.position)) 0

def flag (b : Bool) (position : Nat) : BitField := ⟨if b then 1 else 0, position⟩

def fieldIf (b : Bool) (value : Int) (position : Nat) : BitField := ⟨if b then value else 0, position⟩

inductive RegisterStep where
  | text (s : String)
  | warning (message : String)
  | layer (group layer register : Nat) (value : Int) (comment : String) (force : Bool)
  | control (group register : Nat) (value : Int) (comment : String)
deriving Repr, DecidableEq, Inhabited

structure StreamBuffer where
  first : Int
  last : Int
  memories : Nat
deriving Repr, DecidableEq, Inhabited

structure Configuration where
  steps : Array RegisterStep := #[]
  buffers : Array (Option StreamBuffer) := #[]
deriving Inhabited

abbrev RegisterPlan := EStateM Problem Configuration

namespace RegisterPlan

def step (s : RegisterStep) : RegisterPlan Unit :=
  modify fun c => { c with steps := c.steps.push s }

def warn (message : String) : RegisterPlan Unit := step (.warning message)

def fail (f : Failure) : RegisterPlan α := throw (.failure f)

def stop (message : String) : RegisterPlan α := throw (.described message)

def report (fatal : Bool) (message : String) : RegisterPlan Unit :=
  if fatal then stop message else warn message

def require (b : Bool) (message : String := "") : RegisterPlan Unit :=
  if b then pure () else fail (.check message)

def lift : Except Failure α → RegisterPlan α
  | .ok a => pure a
  | .error f => fail f

end RegisterPlan

def RegisterStep.perform : RegisterStep → Run Unit
  | .text s => do Bus.output s (← Run.options).embeddedCode
  | .warning message => Run.warn message
  | .layer group number register value comment force =>
    Bus.writeLayer group number register value { comment := some comment, force }
  | .control group register value comment =>
    Bus.writeControl group register value { comment := some comment }

def RegisterPlan.perform (x : RegisterPlan Unit) : Run Unit := do
  match x {} with
  | .ok _ c => c.steps.forM RegisterStep.perform
  | .error e c =>
    c.steps.forM RegisterStep.perform
    match e with
    | .described message => Run.stop message
    | .failure f => throw f

end CnnForge.Accelerator
