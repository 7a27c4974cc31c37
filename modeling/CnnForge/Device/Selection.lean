import CnnForge.Device.Catalog
import CnnForge.Failure
import CnnForge.Text.Numeral

namespace CnnForge.Device

def dropLead? (lead s : String) : Option String :=
  if s.startsWith lead then some (String.ofList (s.toList.drop lead.length)) else none

def codeOfText (text : String) : Except Failure Int :=
  let s := text.toLower
  let refuse := Except.error (Failure.argument s!"{text} is not a supported device type")
  let number (s : String) : Except Failure Int :=
    match Text.readInt? 10 s with
    | some 85 | some 78000 => .ok 85
    | some 87 | some 78002 => .ok 87
    | _ => refuse
  match dropLead? "max" s with
  | some rest => number rest
  | none =>
    match dropLead? "ai" s with
    | some rest => number rest
    | none => if s = "cmsis-nn" then .ok (-1) else number s

end CnnForge.Device
