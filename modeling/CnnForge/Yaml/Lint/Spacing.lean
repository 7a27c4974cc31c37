import CnnForge.Yaml.Lexer
import CnnForge.Yaml.Lint.Basic

namespace CnnForge.Yaml

structure SpaceLimit where
  least : Nat := 0
  most : Nat
  tooFew : String := ""
  tooMany : String

namespace SpaceLimit

def problem? (l : SpaceLimit) (rule : LintRule) (line column spaces : Nat) : Option LintProblem :=
  if spaces > l.most then some ⟨line + 1, column, l.tooMany, some rule⟩
  else if spaces < l.least then some ⟨line + 1, column + 1, l.tooFew, some rule⟩
  else none

def after (l : SpaceLimit) (rule : LintRule) (c : TokenContext) : List LintProblem :=
  match c.next with
  | some n =>
    if c.token.stop.line = n.start.line then
      (l.problem? rule c.token.start.line n.start.column (n.start.index - c.token.stop.index)).toList
    else []
  | none => []

def before (l : SpaceLimit) (rule : LintRule) (text : Array Char) (c : TokenContext) :
    List LintProblem :=
  match c.previous with
  | some p =>
    if p.stop.line = c.token.start.line
        && (p.stop.index = 0 || Lexer.charAt text (p.stop.index - 1) != '\n') then
      (l.problem? rule c.token.start.line c.token.start.column
        (c.token.start.index - p.stop.index)).toList
    else []
  | none => []

end SpaceLimit

namespace Lint

def insideBrackets (rule : LintRule) (opening closing : TokenKind) (what : String)
    (text : Array Char) (c : TokenContext) : List LintProblem :=
  let limit : SpaceLimit := { most := 1, tooMany := "too many spaces inside " ++ what }
  if c.token.kind = opening then
    if (c.next.map (·.kind)) = some closing then
      SpaceLimit.after { most := 1, tooMany := "too many spaces inside empty " ++ what } rule c
    else limit.after rule c
  else if c.token.kind = closing && (c.previous.map (·.kind)) != some opening then
    limit.before rule text c
  else []

def braces : Array Char → TokenContext → List LintProblem :=
  insideBrackets .braces .flowMappingStart .flowMappingEnd "braces"

def brackets : Array Char → TokenContext → List LintProblem :=
  insideBrackets .brackets .flowSequenceStart .flowSequenceEnd "brackets"

def isExplicitKey (text : Array Char) (t : Token) : Bool :=
  t.start.index < t.stop.index && Lexer.charAt text t.start.index = '?'

def colons (text : Array Char) (c : TokenContext) : List LintProblem :=
  match c.token.kind with
  | .value =>
    SpaceLimit.before { most := 0, tooMany := "too many spaces before colon" } .colons text c
      ++ SpaceLimit.after { most := 1, tooMany := "too many spaces after colon" } .colons c
  | .key =>
    if isExplicitKey text c.token then
      SpaceLimit.after { most := 1, tooMany := "too many spaces after question mark" } .colons c
    else []
  | _ => []

def commas (text : Array Char) (c : TokenContext) : List LintProblem :=
  if c.token.kind = .flowEntry then
    let tooMany := "too many spaces before comma"
    let before :=
      if c.previous.any fun p => p.stop.line < c.token.start.line then
        [⟨c.token.start.line + 1, max 1 c.token.start.column, tooMany, some .commas⟩]
      else SpaceLimit.before { most := 0, tooMany } .commas text c
    let limit : SpaceLimit :=
      { least := 1, most := 1
        tooFew := "too few spaces after comma"
        tooMany := "too many spaces after comma" }
    before ++ limit.after .commas c
  else []

def hyphens (c : TokenContext) : List LintProblem :=
  if c.token.kind = .blockEntry then
    SpaceLimit.after { most := 1, tooMany := "too many spaces after hyphen" } .hyphens c
  else []

end Lint

end CnnForge.Yaml
