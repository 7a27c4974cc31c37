import CnnForge.Text.Numeral
import CnnForge.Yaml.Event
import CnnForge.Yaml.Lint.Indentation

namespace CnnForge.Yaml

namespace Lint

inductive Element where
  | token (c : TokenContext)
  | comment (line : Nat) (content : String) (beside : Bool)

def Element.line : Element → Nat
  | .token c => c.token.start.line + 1
  | .comment n _ _ => n

def commentsIn (text : Array Char) (line start stop : Nat) : List (Nat × Nat) :=
  let part := text.extract start stop
  (TextLine.all part).filterMap fun l =>
    let c := l.content part
    let k := Lexer.runLength (· != '#') c 0
    if k < c.size then some (line + l.number - 1, start + l.start + k) else none

def restOfLine (text : Array Char) (i : Nat) : String :=
  String.ofList (text.extract i (i + Lexer.runLength (· != '\n') text i)).toList

def commentsBetween (text : Array Char) (t : Token) (next : Option Token) : List Element :=
  let sameLine : Bool := match next with
    | some n => t.stop.line = n.start.line && t.kind != .streamStart && n.kind != .streamEnd
    | none => false
  if sameLine then []
  else
    let stop := (next.map fun n => n.start.index).getD text.size
    (commentsIn text (t.stop.line + 1) t.stop.index stop).map fun (line, i) =>
      let beside : Bool := t.kind != .streamStart && line = t.stop.line + 1
        && (t.stop.index = 0 || Lexer.charAt text (t.stop.index - 1) != '\n')
      .comment line (restOfLine text i) beside

def elementsFrom (text : Array Char) : Nat → Option Token → Token → Lexer → List Element
  | 0, _, _, _ => []
  | fuel + 1, previous, token, lexer =>
    let step : Lex (Option Token × Option Token) := do
      let next ← Lexer.next?
      let after ← Lexer.peekToken?
      return (next, after)
    match step lexer with
    | .error _ _ => []
    | .ok (next, afterNext) lexer =>
      .token ⟨previous, token, next, afterNext⟩ :: commentsBetween text token next
        ++ match next with
          | some n => elementsFrom text fuel (some token) n lexer
          | none => []

def elements (text : Array Char) : List Element :=
  match Lexer.next? (.ofText text) with
  | .ok (some t) lexer => elementsFrom text (8 * text.size + 16) none t lexer
  | _ => []

/-- The names of rules after `command` in a comment, where only blanks may follow. Every blank after
the first is followed by a name, which may be empty. No names mean all rules. -/
def directive? (command comment : String) : Option (List String) :=
  if comment.startsWith command then
    let rest := (comment.drop command.length).toString
    match rest.trimAsciiEnd.toString.splitOn " " with
    | "" :: words =>
      if words.all fun w => w.startsWith "rule:" && w.length > 5 then
        some (((rest.splitOn " ").drop 1).map fun w => (w.drop 5).toString)
      else none
    | _ => none
  else none

/-- The rules with the given names; all rules if there are no names. -/
def rulesNamed (names : List String) : List LintRule :=
  if names.isEmpty then LintRule.all else LintRule.all.filter fun r => names.contains r.name

structure LintState where
  indent : IndentState := {}
  keys : List (Option (List String)) := []
  found : List LintProblem := []
  disabled : List LintRule := []
  disabledForLine : List LintRule := []
  disabledForNextLine : List LintRule := []
deriving Inhabited

def LintState.addComment (s : LintState) (content : String) (beside : Bool) : LintState :=
  let s := match directive? "# yamllint disable" content with
    | some names => { s with disabled := s.disabled ++ rulesNamed names }
    | none =>
      match directive? "# yamllint enable" content with
      | some names =>
        let enabled := rulesNamed names
        { s with disabled := s.disabled.filter fun r => !enabled.contains r }
      | none => s
  match directive? "# yamllint disable-line" content with
  | some names =>
    if beside then { s with disabledForLine := s.disabledForLine ++ rulesNamed names }
    else { s with disabledForNextLine := s.disabledForNextLine ++ rulesNamed names }
  | none => s

def keyDuplicates (c : TokenContext) (keys : List (Option (List String))) :
    List LintProblem × List (Option (List String)) :=
  match c.token.kind with
  | .blockMappingStart | .flowMappingStart => ([], some [] :: keys)
  | .blockSequenceStart | .flowSequenceStart => ([], none :: keys)
  | .blockEnd | .flowMappingEnd | .flowSequenceEnd => ([], keys.drop 1)
  | .key =>
    match keys, c.next with
    | some seen :: outer, some ⟨.scalar name _, start, _⟩ =>
      if seen.contains name && name != "<<" then
        let description := "duplication of key \"" ++ name ++ "\" in mapping"
        ([⟨start.line + 1, start.column + 1, description, some .keyDuplicates⟩], keys)
      else ([], some (name :: seen) :: outer)
    | _, _ => ([], keys)
  | _ => ([], keys)

def LintState.addToken (text : Array Char) (s : LintState) (c : TokenContext) :
    Except Failure LintState := do
  let (indentProblems, indent) ← indentation text c s.indent
  let (keyProblems, keys) := keyDuplicates c s.keys
  return { s with
    indent, keys
    found := s.found ++ braces text c ++ brackets text c ++ colons text c ++ commas text c
      ++ hyphens c ++ indentProblems ++ keyProblems }

def LintState.endLine (text : Array Char) (s : LintState) (l : TextLine) :
    List LintProblem × LintState :=
  let off := s.disabledForLine ++ s.disabled
  let problems := (s.found ++ checkLine text l).filter fun p => !p.rule.any off.contains
  (problems, { s with found := [], disabledForLine := s.disabledForNextLine, disabledForNextLine := [] })

def LintState.addElement (text : Array Char) (s : LintState) : Element → Except Failure LintState
  | .token c => s.addToken text c
  | .comment _ content beside => pure (s.addComment content beside)

def checkLines (text : Array Char) : List TextLine → List Element → LintState →
    Except Failure (List LintProblem)
  | [], _, _ => pure []
  | l :: lines, elements, s => do
    let (here, rest) := elements.span fun e => e.line ≤ l.number
    let s ← here.foldlM (fun s e => s.addElement text e) s
    let (problems, s) := s.endLine text l
    return problems ++ (← checkLines text lines rest s)

def insertFault (fault : LintProblem) : List LintProblem → List LintProblem
  | [] => [fault]
  | p :: ps =>
    if fault.line ≤ p.line && fault.column ≤ p.column then
      if fault.line = p.line && fault.column = p.column then fault :: ps else fault :: p :: ps
    else p :: insertFault fault ps

def isExempt (text : Array Char) : Bool :=
  match (restOfLine text 0).toList with
  | '#' :: rest =>
    let rest := rest.dropWhile Text.isBlank
    String.ofList (Text.trimBlanks rest) == "yamllint disable-file"
  | _ => false

end Lint

def lint (text : Array Char) : Except Failure (List LintProblem) := do
  if Lint.isExempt text then return []
  unless text.all isReadable do throw .markup
  let problems ← Lint.checkLines text (TextLine.all text) (Lint.elements text) {}
  match eventsOf text with
  | .ok _ => return problems
  | .error e =>
    let description := s!"syntax error: {e.problem} (syntax)"
    return Lint.insertFault ⟨e.mark.line + 1, e.mark.column + 1, description, none⟩ problems

end CnnForge.Yaml
