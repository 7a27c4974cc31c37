import CnnForge.Session

namespace CnnForge.CSource

inductive Target where
  | main | library
deriving Repr, DecidableEq, Inhabited

structure Chunk where
  target : Target
  text : String
deriving Repr, Inhabited

abbrev Script := EStateM Failure (Array Chunk)

namespace Script

def put (target : Target) (text : String) : Script Unit :=
  modify fun cs => cs.push ⟨target, text⟩

def main (text : String) : Script Unit := put .main text

def putIf (b : Bool) (target : Target) (text : String) : Script Unit :=
  if b then put target text else pure ()

def mainIf (b : Bool) (text : String) : Script Unit := putIf b .main text

def emit (s : Script Unit) (mainFile libraryFile : Option Sink) : Run Unit := do
  let (chunks, failure) := match s.run #[] with
    | .ok _ cs => (cs, none)
    | .error e cs => (cs, some e)
  for c in chunks do
    let sink := match c.target with
      | .main => mainFile
      | .library => libraryFile <|> mainFile
    Run.emit (← Run.orFail .property sink) c.text
  if let some e := failure then throw e

end Script

end CnnForge.CSource
