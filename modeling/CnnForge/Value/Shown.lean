import CnnForge.Text.Shortest
import CnnForge.Value

namespace CnnForge.Value

def needsEscape (c : Char) : Bool :=
  let n := c.toNat
  n < 0x20 || (0x7f ≤ n && n ≤ 0xa0) || n == 0xad || (0x600 ≤ n && n ≤ 0x605) || n == 0x61c
    || n == 0x6dd || n == 0x70f || n == 0x180e || n == 0x1680 || (0x2000 ≤ n && n ≤ 0x200f)
    || (0x2028 ≤ n && n ≤ 0x202f) || (0x205f ≤ n && n ≤ 0x206f) || n == 0x3000
    || (0xe000 ≤ n && n ≤ 0xf8ff) || n == 0xfeff || (0xfff0 ≤ n && n ≤ 0xfffb)
    || n == 0xfffe || n == 0xffff || n ≥ 0xe0000

def quotedChar (quote c : Char) : String :=
  if c = quote || c = '\\' then String.ofList ['\\', c]
  else if c = '\n' then "\\n"
  else if c = '\r' then "\\r"
  else if c = '\t' then "\\t"
  else if needsEscape c then
    let n := c.toNat
    if n < 0x100 then "\\x" ++ Text.hex 2 n
    else if n < 0x10000 then "\\u" ++ Text.hex 4 n
    else "\\U" ++ Text.hex 8 n
  else String.singleton c

def quotedText (s : String) : String :=
  let quote := if s.contains '\'' && !s.contains '"' then '"' else '\''
  String.singleton quote ++ String.join (s.toList.map (quotedChar quote)) ++ String.singleton quote

mutual

def quoted : Value → String
  | null => "None"
  | bool b => Text.truth b
  | int n => toString n
  | real x => Text.ofReal x
  | text s => quotedText s
  | list xs | named _ xs => "[" ++ ", ".intercalate (quotedList xs) ++ "]"
  | table es => "\x7b" ++ ", ".intercalate (quotedEntries es) ++ "\x7d"
  | other k => "<" ++ k ++ ">"

def quotedList : List Value → List String
  | [] => []
  | x :: xs => x.quoted :: quotedList xs

def quotedEntries : List (Value × Value) → List String
  | [] => []
  | (k, v) :: es => (k.quoted ++ ": " ++ v.quoted) :: quotedEntries es

end

def shown : Value → String
  | text s => s
  | v => v.quoted

end CnnForge.Value
