import CnnForge.Config.Network
import CnnForge.Session
import CnnForge.Yaml.Document
import CnnForge.Yaml.Lint

namespace CnnForge.Config

/-- The characters of a text, with every kind of line end replaced by a newline. -/
def normalLines (text : String) : Array Char :=
  let rec go : List Char → List Char
    | '\r' :: '\n' :: cs => '\n' :: go cs
    | '\r' :: cs => '\n' :: go cs
    | c :: cs => c :: go cs
    | [] => []
  (go text.toList).toArray

def checkStyle (path : String) (text : Array Char) : Run Unit := do
  for p in ← Run.lift (Yaml.lint text) do
    Run.stopIf p.isError s!"{path} line {p.line}, col {p.column}: {p.description}"

def readValue (path : String) (text : Array Char) : Run Value := do
  match Yaml.valueOf text with
  | .ok v => return v
  | .error (.failure f) => throw f
  | .error fault => Run.stop ((fault.message? path).getD "")

def limitsOf (d : Device) : Limits :=
  { layers := d.maxLayers, processors := d.maxProcessors, usesProcessors := !d.isSoftware }

def load (path : String) : Run NetworkConfig := do
  Run.putLine s!"Reading {path} to configure network..."
  let text ← match ← Run.lift ((← get).files.read path) with
    | .text s => pure (normalLines s)
    | .tensors _ => throw .encoding
  checkStyle path text
  let entries ← readValue path text
  let d ← Run.device
  match readNetwork (limitsOf d) entries {} with
  | .ok network s =>
    s.warnings.forM Run.warn
    return network
  | .error fault s =>
    s.warnings.forM Run.warn
    match fault with
    | .failure f => throw f
    | fault => Run.stop ((fault.message? path).getD "")

end CnnForge.Config
