import CnnForge.Failure
import CnnForge.Yaml.Lint.Spacing
import CnnForge.Yaml.Lint.Lines

namespace CnnForge.Yaml.Lint

inductive ScopeKind where
  | root
  | blockMapping
  | flowMapping
  | blockSequence
  | flowSequence
  | blockEntry
  | key
  | value
deriving Repr, DecidableEq, Inhabited

/-- A surrounding construct and the column that its contents start in; -1 is an unknown column. -/
structure Scope where
  kind : ScopeKind
  indent : Int
  lineIndent : Option Int := none
  explicitKey : Bool := false
  implicitSequence : Bool := false
deriving Repr, Inhabited

structure IndentState where
  scopes : List Scope := [⟨.root, 0, none, false, false⟩]
  line : Int := -1
  lineIndent : Int := 0
  spaces : Option Int := none
  indentSequences : Option Bool := none
  problems : List LintProblem := []
deriving Inhabited

inductive IndentFault where
  | unexpectedToken
  | failure (f : Failure)

abbrev Indent := EStateM IndentFault IndentState

namespace Indent

def top : Indent Scope := do return (← get).scopes.headD default

def outer : Indent Scope := do return ((← get).scopes.drop 1).headD default

def push (s : Scope) : Indent Unit := modify fun st => { st with scopes := s :: st.scopes }

def pop (n : Nat := 1) : Indent Unit := modify fun st => { st with scopes := st.scopes.drop n }

def require (b : Bool) : Indent Unit := if b then pure () else throw .unexpectedToken

def tokenOf : Option Token → Indent Token
  | some t => pure t
  | none => throw (.failure .property)

def deeper (base : Int) (t : Token) : Indent Int := do
  match (← get).spaces with
  | some n => return base + n
  | none =>
    modify fun st => { st with spaces := some (t.start.column - base) }
    return t.start.column

def isVisible (t : Token) : Bool :=
  match t.kind with
  | .streamStart | .streamEnd | .blockEnd => false
  | .scalar content _ => content != ""
  | _ => true

def endLine (text : Array Char) (t : Token) : Int :=
  match t.kind with
  | .scalar _ _ =>
    let part := text.extract (t.start.index - 1) t.stop.index
    let blanks := part.toList.reverse.takeWhile isAsciiBlank
    (t.stop.line : Int) + 1 - (blanks.filter (· = '\n')).length
  | _ => t.stop.line + 1

def checkColumn (t : Token) : Indent Unit := do
  let scope ← top
  let found : Int := t.start.column
  let expected ← match t.kind with
    | .flowMappingEnd | .flowSequenceEnd => pure scope.lineIndent
    | k =>
      if scope.kind == .key && scope.explicitKey && k != .value then
        pure (some (← deeper scope.indent t))
      else pure (some scope.indent)
  if expected != some found then
    match expected with
    | none => throw (.failure .kind)
    | some e =>
      let message :=
        if e < 0 then s!"wrong indentation: expected at least {found + 1}"
        else s!"wrong indentation: expected {e} but found {found}"
      modify fun st => { st with
        problems := st.problems
          ++ [⟨t.start.line + 1, t.start.column + 1, message, some .indentation⟩] }

def bracketIndent (t next : Token) : Indent Int := do
  if next.start.line = t.start.line then return next.start.column
  else deeper (← get).lineIndent next

def endsPair : TokenKind → Bool
  | .blockEnd | .flowMappingEnd | .flowSequenceEnd | .key => true
  | _ => false

def valueIndent (previous next : Token) : Indent Int := do
  let scope ← top
  if scope.explicitKey then deeper scope.indent next
  else if next.start.line = previous.start.line then return next.start.column
  else if next.kind == .blockSequenceStart || next.kind == .blockEntry then
    match (← get).indentSequences with
    | some false => return scope.indent
    | some true =>
      if (← get).spaces.isNone && next.start.column == scope.indent then return -1
      else deeper scope.indent next
    | none =>
      if next.start.column == scope.indent then
        modify fun st => { st with indentSequences := some false }
        return scope.indent
      else
        modify fun st => { st with indentSequences := some true }
        deeper scope.indent next
  else deeper scope.indent next

def openScopes (text : Array Char) (c : TokenContext) : Indent Unit := do
  let t := c.token
  match t.kind with
  | .blockMappingStart =>
    require (c.next.any fun n => n.kind == .key && n.start.line == t.start.line)
    push { kind := .blockMapping, indent := t.start.column }
  | .flowMappingStart =>
    let indent ← bracketIndent t (← tokenOf c.next)
    push { kind := .flowMapping, indent, lineIndent := (← get).lineIndent }
  | .flowSequenceStart =>
    let indent ← bracketIndent t (← tokenOf c.next)
    push { kind := .flowSequence, indent, lineIndent := (← get).lineIndent }
  | .blockSequenceStart =>
    require (c.next.any fun n => n.kind == .blockEntry && n.start.line == t.start.line)
    push { kind := .blockSequence, indent := t.start.column }
  | .blockEntry =>
    let next ← tokenOf c.next
    if next.kind != .blockEntry && next.kind != .blockEnd then
      if (← top).kind != .blockSequence then
        push { kind := .blockSequence, indent := t.start.column, implicitSequence := true }
      let indent ←
        if next.start.line = t.stop.line || next.start.column = t.start.column then
          pure (next.start.column : Int)
        else deeper t.start.column next
      push { kind := .blockEntry, indent }
  | .key =>
    push { kind := .key, indent := (← top).indent, explicitKey := isExplicitKey text t }
  | .value =>
    require ((← top).kind == .key)
    let previous ← tokenOf c.previous
    let next ← tokenOf c.next
    let isProperty := match next.kind with
      | .anchor _ | .tag _ _ => true
      | _ => false
    let next ←
      if isProperty && next.start.line = previous.start.line then do
        let after ← tokenOf c.afterNext
        pure (if next.start.line < after.start.line then after else next)
      else pure next
    unless endsPair next.kind do
      push { kind := .value, indent := ← valueIndent previous next }
  | _ => pure ()

def closeScope (c : TokenContext) (used : Bool) : Indent (Option Bool) := do
  let scope ← top
  let around ← outer
  let isProperty := match c.token.kind with
    | .anchor _ | .tag _ _ => true
    | _ => false
  let nextKind := c.next.map (·.kind)
  match scope.kind, c.token.kind with
  | .flowSequence, .flowSequenceEnd | .flowMapping, .flowMappingEnd =>
    if used then return none
    pop
    return some true
  | .blockMapping, .blockEnd | .blockSequence, .blockEnd =>
    if used || scope.implicitSequence then return none
    pop
    return some true
  | .blockEntry, k =>
    if k != .blockEntry && around.implicitSequence && !isProperty
        && nextKind != some .blockEntry then
      pop 2
      return some used
    else if nextKind == some .blockEntry || nextKind == some .blockEnd then
      pop
      return some used
    else return none
  | .value, k =>
    if k != .value && !isProperty then
      require (around.kind == .key)
      pop 2
      return some used
    else return none
  | .key, _ =>
    if nextKind.any endsPair then
      pop
      return some used
    else return none
  | _, _ => return none

def closeScopes (c : TokenContext) : Nat → Bool → Indent Unit
  | 0, _ => pure ()
  | fuel + 1, used => do
    match ← closeScope c used with
    | some used => closeScopes c fuel used
    | none => pure ()

def checkToken (text : Array Char) (c : TokenContext) : Indent Unit := do
  let t := c.token
  let visible := isVisible t
  let firstInLine := visible && (t.start.line : Int) + 1 > (← get).line
  if firstInLine then checkColumn t
  if visible then
    modify fun st => { st with line := endLine text t }
    if firstInLine then modify fun st => { st with lineIndent := t.start.column }
  openScopes text c
  closeScopes c ((← get).scopes.length + 1) false

end Indent

def indentation (text : Array Char) (c : TokenContext) (st : IndentState) :
    Except Failure (List LintProblem × IndentState) :=
  match Indent.checkToken text c { st with problems := [] } with
  | .ok _ st => .ok (st.problems, st)
  | .error .unexpectedToken st =>
    let problem : LintProblem :=
      ⟨c.token.start.line + 1, c.token.start.column + 1,
        "cannot infer indentation: unexpected token", some .indentation⟩
    .ok (st.problems ++ [problem], st)
  | .error (.failure f) _ => .error f

end CnnForge.Yaml.Lint
