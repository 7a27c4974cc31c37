import CnnForge.Value

namespace CnnForge.CommandLine

inductive ValueKind where
  | text
  | integer
  | anyBase
  | device
deriving Repr, DecidableEq, Inhabited

inductive OptionAction where
  | store (kind : ValueKind)
  | constant (v : Value)
  | help
deriving Repr, Inhabited

structure OptionSpec where
  names : List String
  target : String
  action : OptionAction
  default : Value := .null
  required : Bool := false
  exclusive : Option Nat := none
  choices : Option (List Int) := none
deriving Repr, Inhabited

namespace OptionSpec

def targetOf (names : List String) : String :=
  let long := (names.find? fun n => n.startsWith "--").getD ""
  (long.drop 2).toString.replace "-" "_"

def flag (names : List String) : OptionSpec :=
  { names, target := targetOf names, action := .constant (.bool true), default := .bool false }

def openFlag (names : List String) : OptionSpec :=
  { flag names with default := .null }

def off (names : List String) (target : String) : OptionSpec :=
  { names, target, action := .constant (.bool false), default := .bool true }

def text (names : List String) (default : Value := .null) : OptionSpec :=
  { names, target := targetOf names, action := .store .text, default }

def integer (names : List String) (default : Value := .null) : OptionSpec :=
  { names, target := targetOf names, action := .store .integer, default }

def anyBase (names : List String) (default : Value := .null) : OptionSpec :=
  { names, target := targetOf names, action := .store .anyBase, default }

def takesValue (o : OptionSpec) : Bool := o.action matches .store _

def label (o : OptionSpec) : String := "/".intercalate o.names

end OptionSpec

end CnnForge.CommandLine
