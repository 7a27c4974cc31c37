import CnnForge.Yaml.Lexer

namespace CnnForge.Yaml

inductive EventKind where
  | streamStart
  | streamEnd
  | documentStart
  | documentEnd
  | alias (name : String)
  | scalar (anchor tag : Option String) (content : String) (untyped : Bool)
  | sequenceStart (anchor tag : Option String)
  | sequenceEnd
  | mappingStart (anchor tag : Option String)
  | mappingEnd
deriving Repr, DecidableEq, Inhabited

structure Event where
  kind : EventKind
  mark : Mark
deriving Repr, DecidableEq, Inhabited

inductive Expectation where
  | streamStart
  | implicitDocument
  | document
  | documentContent
  | documentEnd
  | blockNode
  | firstBlockEntry
  | blockEntry
  | indentlessEntry
  | firstBlockKey
  | blockKey
  | blockValue
  | firstFlowEntry
  | flowEntry
  | flowPairKey
  | flowPairValue
  | flowPairEnd
  | firstFlowKey
  | flowKey
  | flowValue
  | flowEmptyValue
deriving Repr, DecidableEq, Inhabited

structure EventReader where
  lexer : Lexer
  expectation : Option Expectation := some .streamStart
  pending : List Expectation := []
  handles : List (String × String) := []
deriving Inhabited

abbrev Reading := EStateM SyntaxFault EventReader

namespace EventReader

def defaultHandles : List (String × String) := [("!", "!"), ("!!", "tag:yaml.org,2002:")]

def lex (x : Lex α) : Reading α := fun s =>
  match x s.lexer with
  | .ok a l => .ok a { s with lexer := l }
  | .error e l => .error e { s with lexer := l }

def peekToken : Reading Token := do return (← lex Lexer.peekToken?).getD ⟨.streamEnd, {}, {}⟩

def nextToken : Reading Token := do return (← lex Lexer.next?).getD ⟨.streamEnd, {}, {}⟩

def fault (m : Mark) (problem : String) : Reading α := throw ⟨problem, m, false⟩

def faultFound (expected : String) (but : String := "but found") : Reading α := do
  let t ← peekToken
  fault t.start s!"expected {expected}, {but} {quotedLabel t.kind.label}"

def expect (e : Expectation) : Reading Unit := modify fun s => { s with expectation := some e }

def later (e : Expectation) : Reading Unit := modify fun s => { s with pending := e :: s.pending }

def resume : Reading Unit :=
  modify fun s => { s with expectation := s.pending.head?, pending := s.pending.tail }

def nextIs (kinds : List TokenKind) : Reading Bool := do
  return kinds.contains (← peekToken).kind

def nextIsDirective : Reading Bool := do
  match (← peekToken).kind with
  | .directive _ => return true
  | _ => return false

def emptyScalar (m : Mark) : Event := ⟨.scalar none none "" true, m⟩

def directives : Reading Unit := do
  let mut version := false
  let mut handles : List (String × String) := []
  for _ in [0 : ← lex Lexer.bound] do
    let t ← peekToken
    match t.kind with
    | .directive d =>
      let _ ← nextToken
      match d with
      | .version major _ =>
        if version then fault t.start "found duplicate YAML directive"
        if major != 1 then
          fault t.start "found incompatible YAML document (version 1.* is required)"
        version := true
      | .tagHandle handle expansion =>
        if (handles.lookup handle).isSome then
          fault t.start s!"duplicate tag handle {quotedLabel handle}"
        handles := handles ++ [(handle, expansion)]
      | .reserved => pure ()
    | _ => break
  modify fun s => { s with
    handles := handles ++ defaultHandles.filter fun (h, _) => (handles.lookup h).isNone }

def documentStart : Reading Event := do
  for _ in [0 : ← lex Lexer.bound] do
    if ← nextIs [.documentEnd] then let _ ← nextToken else break
  let start := (← peekToken).start
  if ← nextIs [.streamEnd] then
    let t ← nextToken
    modify fun s => { s with expectation := none }
    return ⟨.streamEnd, t.start⟩
  directives
  unless ← nextIs [.documentStart] do faultFound "'<document start>'"
  let _ ← nextToken
  later .documentEnd
  expect .documentContent
  return ⟨.documentStart, start⟩

def properties : Reading (Option String × Option (Option String × String) × Option Mark × Mark) := do
  let t ← peekToken
  match t.kind with
  | .anchor a =>
    let _ ← nextToken
    let u ← peekToken
    match u.kind with
    | .tag h s =>
      let _ ← nextToken
      return (some a, some (h, s), some t.start, u.start)
    | _ => return (some a, none, some t.start, t.start)
  | .tag h s =>
    let _ ← nextToken
    let u ← peekToken
    match u.kind with
    | .anchor a =>
      let _ ← nextToken
      return (some a, some (h, s), some t.start, t.start)
    | _ => return (none, some (h, s), some t.start, t.start)
  | _ => return (none, none, none, t.start)

inductive NodePlace where
  | block
  | blockValue
  | flow
deriving DecidableEq

def node (place : NodePlace) : Reading Event := do
  let first ← peekToken
  if let .alias name := first.kind then
    let _ ← nextToken
    resume
    return ⟨.alias name, first.start⟩
  let (anchor, tag, start?, tagMark) ← properties
  let tag ← match tag with
    | none => pure none
    | some (none, suffix) => pure (some suffix)
    | some (some handle, suffix) =>
      match (← get).handles.lookup handle with
      | some expansion => pure (some (expansion ++ suffix))
      | none => fault tagMark s!"found undefined tag handle {quotedLabel handle}"
  let tagged := tag.isSome
  let free := tag == some "!"
  let tag := if free then none else tag
  let t ← peekToken
  let start := start?.getD t.start
  match t.kind with
  | .blockEntry =>
    if place == .blockValue then
      expect .indentlessEntry
      return ⟨.sequenceStart anchor tag, start⟩
  | .scalar content style =>
    let _ ← nextToken
    resume
    return ⟨.scalar anchor tag content ((style == .plain && !tagged) || free), start⟩
  | .flowSequenceStart =>
    expect .firstFlowEntry
    return ⟨.sequenceStart anchor tag, start⟩
  | .flowMappingStart =>
    expect .firstFlowKey
    return ⟨.mappingStart anchor tag, start⟩
  | .blockSequenceStart =>
    if place != .flow then
      expect .firstBlockEntry
      return ⟨.sequenceStart anchor tag, start⟩
  | .blockMappingStart =>
    if place != .flow then
      expect .firstBlockKey
      return ⟨.mappingStart anchor tag, start⟩
  | _ => pure ()
  if anchor.isSome || tagged then
    resume
    return ⟨.scalar anchor tag "" (!tagged || free), start⟩
  faultFound "the node content"

def nodeUnless (ends : List TokenKind) (m : Mark) (e : Expectation) (place : NodePlace) :
    Reading Event := do
  if ← nextIs ends then
    expect e
    return emptyScalar m
  else
    later e
    node place

def blockEntry : Reading Event := do
  if ← nextIs [.blockEntry] then
    let t ← nextToken
    nodeUnless [.blockEntry, .blockEnd] t.stop .blockEntry .block
  else
    unless ← nextIs [.blockEnd] do faultFound "<block end>"
    let t ← nextToken
    resume
    return ⟨.sequenceEnd, t.start⟩

def indentlessEntry : Reading Event := do
  if ← nextIs [.blockEntry] then
    let t ← nextToken
    nodeUnless [.blockEntry, .key, .value, .blockEnd] t.stop .indentlessEntry .block
  else
    let t ← peekToken
    resume
    return ⟨.sequenceEnd, t.start⟩

def blockKey : Reading Event := do
  if ← nextIs [.key] then
    let t ← nextToken
    nodeUnless [.key, .value, .blockEnd] t.stop .blockValue .blockValue
  else
    unless ← nextIs [.blockEnd] do faultFound "<block end>"
    let t ← nextToken
    resume
    return ⟨.mappingEnd, t.start⟩

def valueUnless (ends : List TokenKind) (e : Expectation) (place : NodePlace) : Reading Event := do
  if ← nextIs [.value] then
    let t ← nextToken
    nodeUnless ends t.stop e place
  else
    expect e
    return emptyScalar (← peekToken).start

def flowEntry (first : Bool) : Reading Event := do
  unless ← nextIs [.flowSequenceEnd] do
    unless first do
      unless ← nextIs [.flowEntry] do faultFound "',' or ']'" "but got"
      let _ ← nextToken
    if ← nextIs [.key] then
      expect .flowPairKey
      return ⟨.mappingStart none none, (← peekToken).start⟩
    unless ← nextIs [.flowSequenceEnd] do
      later .flowEntry
      return ← node .flow
  let t ← nextToken
  resume
  return ⟨.sequenceEnd, t.start⟩

def flowKey (first : Bool) : Reading Event := do
  unless ← nextIs [.flowMappingEnd] do
    unless first do
      unless ← nextIs [.flowEntry] do faultFound "',' or '\x7d'" "but got"
      let _ ← nextToken
    if ← nextIs [.key] then
      let t ← nextToken
      return ← nodeUnless [.value, .flowEntry, .flowMappingEnd] t.stop .flowValue .flow
    unless ← nextIs [.flowMappingEnd] do
      later .flowEmptyValue
      return ← node .flow
  let t ← nextToken
  resume
  return ⟨.mappingEnd, t.start⟩

def step : Expectation → Reading Event
  | .streamStart => do
    let t ← nextToken
    expect .implicitDocument
    return ⟨.streamStart, t.start⟩
  | .implicitDocument => do
    if (← nextIsDirective) || (← nextIs [.documentStart, .streamEnd]) then documentStart
    else
      modify fun s => { s with handles := defaultHandles }
      later .documentEnd
      expect .blockNode
      return ⟨.documentStart, (← peekToken).start⟩
  | .document => documentStart
  | .documentContent => do
    if (← nextIsDirective) || (← nextIs [.documentStart, .documentEnd, .streamEnd]) then
      resume
      return emptyScalar (← peekToken).start
    else node .block
  | .documentEnd => do
    let t ← peekToken
    if t.kind == .documentEnd then let _ ← nextToken
    expect .document
    return ⟨.documentEnd, t.start⟩
  | .blockNode => node .block
  | .firstBlockEntry => do
    let _ ← nextToken
    blockEntry
  | .blockEntry => blockEntry
  | .indentlessEntry => indentlessEntry
  | .firstBlockKey => do
    let _ ← nextToken
    blockKey
  | .blockKey => blockKey
  | .blockValue => valueUnless [.key, .value, .blockEnd] .blockKey .blockValue
  | .firstFlowEntry => do
    let _ ← nextToken
    flowEntry true
  | .flowEntry => flowEntry false
  | .flowPairKey => do
    let t ← nextToken
    nodeUnless [.value, .flowEntry, .flowSequenceEnd] t.stop .flowPairValue .flow
  | .flowPairValue => valueUnless [.flowEntry, .flowSequenceEnd] .flowPairEnd .flow
  | .flowPairEnd => do
    expect .flowEntry
    return ⟨.mappingEnd, (← peekToken).start⟩
  | .firstFlowKey => do
    let _ ← nextToken
    flowKey true
  | .flowKey => flowKey false
  | .flowValue => valueUnless [.flowEntry, .flowMappingEnd] .flowKey .flow
  | .flowEmptyValue => do
    expect .flowKey
    return emptyScalar (← peekToken).start

def readAll : Nat → Array Event → Reading (Array Event)
  | 0, out => pure out
  | n + 1, out => do
    match (← get).expectation with
    | none => return out
    | some e => readAll n (out.push (← step e))

end EventReader

def eventsOf (text : Array Char) : Except SyntaxFault (Array Event) :=
  match EventReader.readAll (32 * text.size + 64) #[] { lexer := .ofText text } with
  | .ok events _ => .ok events
  | .error e _ => .error e

end CnnForge.Yaml
