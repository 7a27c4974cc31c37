import CnnForge.Accelerator.Generate
import CnnForge.Network.Assemble
import CnnForge.SoftwareNet.Generate

namespace CnnForge

open CommandLine (Arguments)

def generate (command : String) (n : Network) : Run String := do
  if (← Run.device).isSoftware then SoftwareNet.generate command n
  else Accelerator.generate command n

def run (words : List String) : Run Unit := do
  let args ← CommandLine.readArguments words
  let n ← Network.assemble args
  let name ← generate (" ".intercalate (CommandLine.programName :: words)) n
  let text (argument : String) : String := (Arguments.get args argument).shown
  if !Arguments.isSet args "embedded_code" && (text "autogen").toLower != "none" then
    Testbench.addRegression (Arguments.get args "top_level").text? name (text "queue_name")
      (text "autogen") (text "autogen_list")

end CnnForge
