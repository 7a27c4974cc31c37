import CnnForge.Tensor.Basic
import CnnForge.Text.Digits

namespace CnnForge.Text

def gridWidth : Nat := 190

structure RowText where
  done : String := ""
  line : String
  length : Nat

namespace RowText

def push (level : Nat) (r : RowText) (word : String) : RowText :=
  let indent := level + 1
  let n := word.length
  if r.length + n > gridWidth - level - 1 && r.length > indent then
    { done := r.done ++ r.line.trimAsciiEnd.toString ++ "\n", line := "".pushn ' ' indent ++ word,
      length := indent + n }
  else { r with line := r.line ++ word, length := r.length + n }

def blank (r : RowText) : RowText := { r with line := r.line.push ' ', length := r.length + 1 }

end RowText

def renderRow (level : Nat) (words : List String) : String :=
  let indent := level + 1
  let start : RowText := { line := "".pushn ' ' indent, length := indent }
  let rec go : List String → RowText → RowText
    | [], r => r
    | [w], r => r.push level w
    | w :: ws, r => go ws (r.push level w).blank
  let r := go words start
  let s := r.done ++ r.line
  "[" ++ String.ofList (s.toList.drop indent) ++ "]"

def renderAxes (format : Int → String) (t : Tensor) : List Nat → Nat → Nat → String
  | [], _, start => format (t.flat start)
  | [n], level, start =>
    renderRow level ((List.range n).map fun i => format (t.flat (start + i)))
  | n :: rest, level, start =>
    let gap := "".pushn '\n' rest.length ++ "".pushn ' ' (level + 1)
    let parts := (List.range n).map fun i =>
      renderAxes format t rest (level + 1) (start + i * shapeSize rest)
    "[" ++ gap.intercalate parts ++ "]"

def renderGridWith (format : Int → String) (t : Tensor) : String :=
  if t.shape.isEmpty then toString (t.flat 0)
  else if t.size = 0 then "[]"
  else renderAxes format t t.shape 0 0

def gridColumn (t : Tensor) : Nat :=
  max (toString (t.minimum?.getD 0)).length (toString (t.maximum?.getD 0)).length

def renderGrid (t : Tensor) : String :=
  let w := gridColumn t
  renderGridWith (fun n => padLeft w ' ' (toString n)) t

end CnnForge.Text
