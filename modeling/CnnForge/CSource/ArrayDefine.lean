import CnnForge.Text.Field

namespace CnnForge.CSource

structure ItemFormat where
  lead : String := ""
  field : Text.Field := {}
deriving Repr, Inhabited

namespace ItemFormat

def decimal : ItemFormat := {}
def hexByte : ItemFormat :=
  { lead := "0x", field := { fill := '0', align := .afterSign, width := 2, base := 'x' } }
def hexWord : ItemFormat :=
  { lead := "0x", field := { fill := '0', align := .afterSign, width := 8, base := 'x' } }

def read? (text : String) : Option ItemFormat :=
  match text.toList.span (· ≠ '%') with
  | (lead, _ :: spec) =>
    if spec.contains '%' then none
    else (Text.Field.read? (String.ofList spec)).map fun field => { lead := String.ofList lead, field }
  | (_, []) => none

def render (f : ItemFormat) (n : Int) : String := f.lead ++ f.field.render n

end ItemFormat

def itemEnd (columns n i : Nat) : String :=
  if i < n then
    if i % columns = 0 then ", \\\n  " else ", "
  else ""

def appendItems (f : ItemFormat) (columns n : Nat) : Nat → List Int → String → String
  | _, [], acc => acc
  | i, x :: xs, acc =>
    appendItems f columns n (i + 1) xs (acc ++ f.render x ++ itemEnd columns n (i + 1))

def arrayDefine (name : String) (f : ItemFormat) (columns : Nat) (items : List Int) : String :=
  appendItems f columns items.length 0 items s!"#define {name} \x7b \\\n  " ++ " \\\n\x7d\n"

end CnnForge.CSource
