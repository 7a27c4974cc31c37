import CnnForge.Yaml.Lexer
import CnnForge.Yaml.Lint.Basic

namespace CnnForge.Yaml

structure TextLine where
  number : Nat
  start : Nat
  stop : Nat
deriving Repr, Inhabited

namespace TextLine

def linesFrom (text : Array Char) (number start i : Nat) : List TextLine :=
  if h : i < text.size then
    if text[i] = '\n' then ⟨number, start, i⟩ :: linesFrom text (number + 1) (i + 1) (i + 1)
    else linesFrom text number start (i + 1)
  else [⟨number, start, text.size⟩]
termination_by text.size - i

def all (text : Array Char) : List TextLine := linesFrom text 1 0 0

def content (text : Array Char) (l : TextLine) : Array Char := text.extract l.start l.stop

end TextLine

namespace Lint

def newlinesBefore (text : Array Char) : Nat → Nat
  | 0 => 0
  | i + 1 => if Lexer.charAt text i = '\n' then newlinesBefore text i + 1 else 0

def emptyLines (text : Array Char) (l : TextLine) : List LintProblem :=
  if l.start = l.stop && l.stop < text.size && Lexer.charAt text (l.stop + 1) != '\n' then
    let before := newlinesBefore text l.start
    let atStart := before = l.start
    let atEnd := l.stop + 1 = text.size
    let blank := if atStart then before + 1 else before
    let most := if atStart || atEnd then 0 else 2
    if atEnd && l.stop = 0 then []
    else if blank > most then
      [⟨l.number, 1, s!"too many blank lines ({blank} > {most})", some .emptyLines⟩]
    else []
  else []

def skipUntil (p : TokenKind → Bool) : Nat → Lex Bool
  | 0 => pure false
  | fuel + 1 => do
    match ← Lexer.next? with
    | some t => if p t.kind then return true else skipUntil p fuel
    | none => return false

def firstScalarValue? : Nat → Lex (Option Nat)
  | 0 => pure none
  | fuel + 1 => do
    if ← skipUntil (· == .value) (fuel + 1) then
      match ← Lexer.next? with
      | some ⟨.scalar _ _, start, _⟩ => return some start.column
      | some _ => firstScalarValue? fuel
      | none => return none
    else return none

def isUnbreakableMapping (line : Array Char) : Bool :=
  let fuel := 8 * line.size + 8
  let find : Lex (Option Nat) := do
    if ← skipUntil (· == .blockMappingStart) fuel then firstScalarValue? fuel else return none
  match find (.ofText line) with
  | .ok (some column) _ => !(line.extract column line.size).contains ' '
  | _ => false

def maxLineLength : Nat := 80

/-- Lines have at most 80 characters, unless they cannot be broken. -/
def lineLength (text : Array Char) (l : TextLine) : List LintProblem :=
  let line := l.content text
  if line.size ≤ maxLineLength then []
  else
    let start := Lexer.runLength (· == ' ') line 0
    let word :=
      if Lexer.charAt line start = '#' then start + Lexer.runLength (· == '#') line start + 1
      else if Lexer.charAt line start = '-' then start + 2
      else start
    if start < line.size
        && (!(line.extract word line.size).contains ' ' || isUnbreakableMapping line) then []
    else
      [⟨l.number, maxLineLength + 1,
        s!"line too long ({line.size} > {maxLineLength} characters)", some .lineLength⟩]

def newLineAtEnd (text : Array Char) (l : TextLine) : List LintProblem :=
  if l.stop = text.size && l.start < l.stop then
    [⟨l.number, l.stop - l.start + 1, "no new line character at the end of file",
      some .newLineAtEnd⟩]
  else []

def isAsciiBlank (c : Char) : Bool :=
  c = ' ' || c = '\t' || c = '\n' || c = '\r' || c = '\x0b' || c = '\x0c'

def trimmedLength (cs : Array Char) : Nat := (cs.toList.reverse.dropWhile isAsciiBlank).length

def trailingSpaces (text : Array Char) (l : TextLine) : List LintProblem :=
  let line := l.content text
  let n := trimmedLength line
  let c := Lexer.charAt line n
  if n < line.size && (c = ' ' || c = '\t') then
    [⟨l.number, n + 1, "trailing spaces", some .trailingSpaces⟩]
  else []

def checkLine (text : Array Char) (l : TextLine) : List LintProblem :=
  emptyLines text l ++ lineLength text l ++ newLineAtEnd text l ++ trailingSpaces text l

end Lint

end CnnForge.Yaml
