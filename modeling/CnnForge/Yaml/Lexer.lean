import CnnForge.Yaml.Token

namespace CnnForge.Yaml

structure KeyCandidate where
  number : Nat
  required : Bool
  mark : Mark
deriving Repr, Inhabited

structure Lexer where
  text : Array Char
  mark : Mark := {}
  finished : Bool := false
  flowLevel : Int := 0
  queue : Array Token := #[]
  taken : Nat := 0
  indent : Int := -1
  indents : List Int := []
  allowKey : Bool := true
  candidates : List (Int × KeyCandidate) := []
deriving Inhabited

abbrev Lex := EStateM SyntaxFault Lexer

namespace Lexer

def charAt (text : Array Char) (i : Nat) : Char := text.getD i '\x00'

def runLength (p : Char → Bool) (text : Array Char) (i : Nat) : Nat :=
  if h : i < text.size then
    if p text[i] then runLength p text (i + 1) + 1 else 0
  else 0
termination_by text.size - i

def advance (m : Mark) (c : Char) : Mark :=
  if isBreak c then ⟨m.index + 1, m.line + 1, 0⟩
  else ⟨m.index + 1, m.line, if c = '\ufeff' then m.column else m.column + 1⟩

@[inline] def peek (k : Nat := 0) : Lex Char := do
  let s ← get
  return charAt s.text (s.mark.index + k)

@[inline] def here : Lex Mark := do return (← get).mark

def inFlow : Lex Bool := do return (← get).flowLevel != 0

def forward : Nat → Lex Unit
  | 0 => pure ()
  | n + 1 => do
    modify fun s => { s with mark := advance s.mark (charAt s.text s.mark.index) }
    forward n

def ahead (n : Nat) : Lex String := do
  let s ← get
  return String.ofList (s.text.extract s.mark.index (s.mark.index + n)).toList

def take (n : Nat) : Lex String := do
  let word ← ahead n
  forward n
  return word

def takeRun (p : Char → Bool) : Lex String := do
  let s ← get
  take (runLength p s.text s.mark.index)

def skipRun (p : Char → Bool) : Lex Unit := do let _ ← takeRun p

def bound : Lex Nat := do return (← get).text.size + 2

def faultAt (m : Mark) (problem : String) : Lex α := throw ⟨problem, m, true⟩

def fault (problem : String) : Lex α := do faultAt (← here) problem

def faultFound (expected : String) : Lex α := do
  let c ← peek
  fault s!"expected {expected}, but found {quotedLabel (String.singleton c)}"

def lineBreak : Lex String := do
  let c ← peek
  if isBreak c then
    forward 1
    return if c = '\n' || c = '\x85' then "\n" else String.singleton c
  else return ""

def atSeparator : Lex Bool := do
  let word ← ahead 3
  let c ← peek 3
  return (word == "---" || word == "...") && isGap c

def noKeyFound : Lex α := fault "could not find expected ':'"

def dropStale : Lex Unit := do
  let s ← get
  let stale (k : KeyCandidate) : Bool :=
    k.mark.line != s.mark.line || s.mark.index > k.mark.index + 1024
  if s.candidates.any fun (_, k) => stale k && k.required then noKeyFound
  set { s with candidates := s.candidates.filter fun (_, k) => !stale k }

def dropCandidate : Lex Unit := do
  let s ← get
  if s.candidates.any fun (l, k) => l == s.flowLevel && k.required then noKeyFound
  set { s with candidates := s.candidates.filter fun (l, _) => l != s.flowLevel }

def saveCandidate : Lex Unit := do
  let s ← get
  if s.allowKey then
    dropCandidate
    let k : KeyCandidate :=
      ⟨s.taken + s.queue.size, s.flowLevel == 0 && s.indent == s.mark.column, s.mark⟩
    modify fun t => { t with candidates := t.candidates ++ [(t.flowLevel, k)] }

def firstCandidate? (s : Lexer) : Option Nat :=
  (s.candidates.map fun (_, k) => k.number).min?

def push (kind : TokenKind) (start stop : Mark) : Lex Unit :=
  modify fun s => { s with queue := s.queue.push ⟨kind, start, stop⟩ }

def insertAt (number : Nat) (kind : TokenKind) (m : Mark) : Lex Unit :=
  modify fun s =>
    let k := number - s.taken
    { s with queue := s.queue.extract 0 k ++ #[⟨kind, m, m⟩] ++ s.queue.extract k s.queue.size }

def closeIndents (column : Int) : Int → List Int → Nat → Int × List Int × Nat
  | indent, outer :: rest, n =>
    if indent > column then closeIndents column outer rest (n + 1) else (indent, outer :: rest, n)
  | indent, [], n => (indent, [], n)

def unwind (column : Int) : Lex Unit := do
  unless ← inFlow do
    let s ← get
    let (indent, indents, n) := closeIndents column s.indent s.indents 0
    set { s with
      indent, indents
      queue := s.queue ++ Array.replicate n (⟨.blockEnd, s.mark, s.mark⟩ : Token) }

def openIndent (column : Nat) : Lex Bool := do
  let s ← get
  if s.indent < column then
    set { s with indent := (column : Int), indents := s.indent :: s.indents }
    return true
  else return false

def setAllowKey (b : Bool) : Lex Unit := modify fun s => { s with allowKey := b }

def skipToToken : Lex Unit := do
  if (← here).index == 0 && (← peek) == '\ufeff' then forward 1
  for _ in [0 : ← bound] do
    skipRun (· == ' ')
    if (← peek) == '#' then skipRun (!isLineEnd ·)
    if (← lineBreak) == "" then break
    unless ← inFlow do setAllowKey true

def restOfLine : Lex Unit := do
  skipRun (· == ' ')
  if (← peek) == '#' then skipRun (!isLineEnd ·)
  unless isLineEnd (← peek) do faultFound "a comment or a line break"
  let _ ← lineBreak

def number : Lex Nat := do
  unless (← peek).isDigit do faultFound "a digit"
  return (← takeRun Char.isDigit).toNat?.getD 0

def hexDigit? (c : Char) : Option Nat :=
  if c.isDigit then some (c.toNat - 48)
  else if 'a' ≤ c && c ≤ 'f' then some (c.toNat - 87)
  else if 'A' ≤ c && c ≤ 'F' then some (c.toNat - 55)
  else none

def hexNumber (what : String) (n : Nat) : Lex Nat := do
  let mut v := 0
  for k in [0 : n] do
    let c ← peek k
    match hexDigit? c with
    | some d => v := v * 16 + d
    | none =>
      fault s!"expected {what} of {n} hexadecimal numbers, but found {quotedLabel (String.singleton c)}"
  forward n
  return v

def isUriChar (c : Char) : Bool :=
  isWordChar c || ";/?:@&=+$,.!~*'()[]".toList.contains c

def uri : Lex String := do
  let mut out := ""
  for _ in [0 : ← bound] do
    out := out ++ (← takeRun isUriChar)
    if (← peek) == '%' then
      let mut bytes := ByteArray.empty
      let start ← here
      for _ in [0 : ← bound] do
        if (← peek) != '%' then break
        forward 1
        bytes := bytes.push (← hexNumber "URI escape sequence" 2).toUInt8
      match String.fromUTF8? bytes with
      | some s => out := out ++ s
      | none => faultAt start "invalid escape"
    else break
  if out == "" then faultFound "URI"
  return out

def tagHandle : Lex String := do
  if (← peek) != '!' then faultFound "'!'"
  let s ← get
  let n := runLength isWordChar s.text (s.mark.index + 1) + 1
  if (← peek 1) == ' ' then take 1
  else
    if (← peek n) != '!' then
      forward n
      faultFound "'!'"
    take (n + 1)

def tagToken : Lex Unit := do
  let start ← here
  let c ← peek 1
  let kind : TokenKind ←
    if c == '<' then do
      forward 2
      let suffix ← uri
      if (← peek) != '>' then faultFound "'>'"
      forward 1
      pure (.tag none suffix)
    else if isGap c then do
      forward 1
      pure (.tag none "!")
    else do
      let s ← get
      let n := runLength (fun c => c != '!' && !isSpaceOrEnd c) s.text (s.mark.index + 1) + 1
      let handle ← if (← peek n) == '!' then tagHandle else do
        forward 1
        pure "!"
      let suffix ← uri
      pure (.tag (some handle) suffix)
  unless isSpaceOrEnd (← peek) do faultFound "' '"
  push kind start (← here)

def directiveToken : Lex Unit := do
  let start ← here
  forward 1
  let name ← takeRun isWordChar
  if name == "" || !isSpaceOrEnd (← peek) then faultFound "alphabetic or numeric character"
  let (d, stop) : Directive × Mark ←
    if name == "YAML" then do
      skipRun (· == ' ')
      let major ← number
      if (← peek) != '.' then faultFound "a digit or '.'"
      forward 1
      let minor ← number
      unless isSpaceOrEnd (← peek) do faultFound "a digit or ' '"
      pure (.version major minor, ← here)
    else if name == "TAG" then do
      skipRun (· == ' ')
      let handle ← tagHandle
      if (← peek) != ' ' then faultFound "' '"
      skipRun (· == ' ')
      let expansion ← uri
      unless isSpaceOrEnd (← peek) do faultFound "' '"
      pure (.tagHandle handle expansion, ← here)
    else do
      let stop ← here
      skipRun (!isLineEnd ·)
      pure (.reserved, stop)
  restOfLine
  push (.directive d) start stop

def anchorToken (kind : String → TokenKind) : Lex Unit := do
  let start ← here
  forward 1
  let name ← takeRun isWordChar
  let c ← peek
  if name == "" || !(isGap c || "?:,]\x7d%@`".toList.contains c) then
    faultFound "alphabetic or numeric character"
  push (kind name) start (← here)

def blockBreaks (indent : Int) : Lex (String × Mark) := do
  let mut breaks := ""
  let mut stop ← here
  for _ in [0 : ← bound] do
    for _ in [0 : ← bound] do
      if (← here).column < indent && (← peek) == ' ' then forward 1 else break
    if isBreak (← peek) then
      breaks := breaks ++ (← lineBreak)
      stop ← here
    else break
  return (breaks, stop)

def leadingBreaks : Lex (String × Nat × Mark) := do
  let mut breaks := ""
  let mut deepest := 0
  let mut stop ← here
  for _ in [0 : ← bound] do
    if isBreak (← peek) then
      breaks := breaks ++ (← lineBreak)
      stop ← here
    else if (← peek) == ' ' then
      forward 1
      deepest := max deepest (← here).column
    else break
  return (breaks, deepest, stop)

inductive Chomping where
  | strip
  | clip
  | keep
deriving Repr, DecidableEq

def chomping? : Lex (Option Chomping) := do
  let c ← peek
  if c == '+' then
    forward 1
    return some .keep
  else if c == '-' then
    forward 1
    return some .strip
  else return none

def increment? : Lex (Option Nat) := do
  let c ← peek
  if c.isDigit then
    if c == '0' then fault "expected indentation indicator in the range 1-9, but found 0"
    forward 1
    return some (c.toNat - 48)
  else return none

def blockScalar (folded : Bool) : Lex Unit := do
  let start ← here
  forward 1
  let before ← chomping?
  let increment ← increment?
  let chomping ← match before with
    | some _ => pure before
    | none => if increment.isSome then chomping? else pure none
  let chomping := chomping.getD .clip
  unless isSpaceOrEnd (← peek) do faultFound "chomping or indentation indicators"
  restOfLine
  let least := max 1 ((← get).indent + 1)
  let (indent, first) ← match increment with
    | some n => do
      let indent := least + n - 1
      pure (indent, ← blockBreaks indent)
    | none => do
      let (breaks, deepest, stop) ← leadingBreaks
      pure (max least deepest, (breaks, stop))
  let mut (breaks, stop) := first
  let mut out := ""
  let mut last := ""
  for _ in [0 : ← bound] do
    unless (← here).column == indent && (← peek) != '\x00' do break
    out := out ++ breaks
    let c ← peek
    let solid := c != ' ' && c != '\t'
    out := out ++ (← takeRun (!isLineEnd ·))
    last ← lineBreak
    (breaks, stop) ← blockBreaks indent
    let c ← peek
    if (← here).column == indent && c != '\x00' then
      if folded && last == "\n" && solid && c != ' ' && c != '\t' then
        if breaks == "" then out := out ++ " "
      else out := out ++ last
    else break
  if chomping != .strip then out := out ++ last
  if chomping == .keep then out := out ++ breaks
  push (.scalar out (if folded then .folded else .literal)) start stop

def quotedBreaks : Lex String := do
  let mut breaks := ""
  for _ in [0 : ← bound] do
    if ← atSeparator then fault "found unexpected document separator"
    skipRun fun c => c == ' ' || c == '\t'
    if isBreak (← peek) then breaks := breaks ++ (← lineBreak) else break
  return breaks

def quotedBlanks : Lex String := do
  let blanks ← takeRun fun c => c == ' ' || c == '\t'
  let c ← peek
  if c == '\x00' then fault "found unexpected end of stream"
  if isBreak c then
    let first ← lineBreak
    let breaks ← quotedBreaks
    return (if first != "\n" then first else if breaks == "" then " " else "") ++ breaks
  else return blanks

def escaped? (c : Char) : Option Char :=
  match c with
  | '0' => some '\x00'
  | 'a' => some '\x07'
  | 'b' => some '\x08'
  | 't' | '\t' => some '\t'
  | 'n' => some '\n'
  | 'v' => some '\x0b'
  | 'f' => some '\x0c'
  | 'r' => some '\r'
  | 'e' => some '\x1b'
  | ' ' => some ' '
  | '"' => some '"'
  | '\\' => some '\\'
  | '/' => some '/'
  | 'N' => some '\x85'
  | '_' => some '\xa0'
  | 'L' => some '\u2028'
  | 'P' => some '\u2029'
  | _ => none

def escapeDigits? (c : Char) : Option Nat :=
  match c with
  | 'x' => some 2
  | 'u' => some 4
  | 'U' => some 8
  | _ => none

def escape : Lex String := do
  forward 1
  let c ← peek
  if let some r := escaped? c then
    forward 1
    return String.singleton r
  if let some n := escapeDigits? c then
    forward 1
    let v ← hexNumber "escape sequence" n
    return String.singleton (Char.ofNat v)
  if isBreak c then
    let _ ← lineBreak
    quotedBreaks
  else fault s!"found unknown escape character {quotedLabel (String.singleton c)}"

def quotedWord (double : Bool) : Lex String := do
  let mut out := ""
  for _ in [0 : ← bound] do
    out := out ++ (← takeRun fun c => !(isGap c || c == '\'' || c == '"' || c == '\\'))
    let c ← peek
    if !double && c == '\'' && (← peek 1) == '\'' then
      out := out.push '\''
      forward 2
    else if (double && c == '\'') || (!double && (c == '"' || c == '\\')) then
      out := out.push c
      forward 1
    else if double && c == '\\' then out := out ++ (← escape)
    else break
  return out

def quotedScalar (double : Bool) : Lex Unit := do
  let start ← here
  let quote := if double then '"' else '\''
  forward 1
  let mut out ← quotedWord double
  for _ in [0 : ← bound] do
    if (← peek) == quote then break
    out := out ++ (← quotedBlanks)
    out := out ++ (← quotedWord double)
  forward 1
  push (.scalar out (if double then .doubleQuoted else .singleQuoted)) start (← here)

def plainLength (flow : Bool) (text : Array Char) (i : Nat) : Nat :=
  if h : i < text.size then
    let c := text[i]
    let n := charAt text (i + 1)
    if isGap c || (c = ':' && (isGap n || (flow && ",[]\x7b\x7d".toList.contains n)))
        || (flow && ",?[]\x7b\x7d".toList.contains c) then 0
    else plainLength flow text (i + 1) + 1
  else 0
termination_by text.size - i

def plainBlanks : Lex String := do
  let blanks ← takeRun (· == ' ')
  if isBreak (← peek) then
    let first ← lineBreak
    setAllowKey true
    if ← atSeparator then return ""
    let mut breaks := ""
    for _ in [0 : ← bound] do
      let c ← peek
      if c == ' ' then forward 1
      else if isBreak c then
        breaks := breaks ++ (← lineBreak)
        if ← atSeparator then return ""
      else break
    return (if first != "\n" then first else if breaks == "" then " " else "") ++ breaks
  else return blanks

def plainScalar : Lex Unit := do
  let start ← here
  let indent := (← get).indent + 1
  let flow ← inFlow
  let mut out := ""
  let mut blanks := ""
  let mut stop := start
  for _ in [0 : ← bound] do
    if (← peek) == '#' then break
    let s ← get
    let n := plainLength flow s.text s.mark.index
    if n == 0 then break
    setAllowKey false
    out := out ++ blanks ++ (← take n)
    stop ← here
    blanks ← plainBlanks
    if blanks == "" || (← peek) == '#' || (!flow && (← here).column < indent) then break
  push (.scalar out .plain) start stop

def indicator (kind : TokenKind) (n : Nat := 1) : Lex Unit := do
  let start ← here
  forward n
  push kind start (← here)

def streamEndToken : Lex Unit := do
  unwind (-1)
  dropCandidate
  modify fun s => { s with allowKey := false, candidates := [] }
  let m ← here
  push .streamEnd m m
  modify fun s => { s with finished := true }

def separatorToken (kind : TokenKind) : Lex Unit := do
  unwind (-1)
  dropCandidate
  setAllowKey false
  indicator kind 3

def flowStartToken (kind : TokenKind) : Lex Unit := do
  saveCandidate
  modify fun s => { s with flowLevel := s.flowLevel + 1, allowKey := true }
  indicator kind

def flowEndToken (kind : TokenKind) : Lex Unit := do
  dropCandidate
  modify fun s => { s with flowLevel := s.flowLevel - 1, allowKey := false }
  indicator kind

def flowEntryToken : Lex Unit := do
  setAllowKey true
  dropCandidate
  indicator .flowEntry

def openBlock (kind : TokenKind) (problem : String) : Lex Unit := do
  unless ← inFlow do
    unless (← get).allowKey do fault problem
    let m ← here
    if ← openIndent m.column then push kind m m

def blockEntryToken : Lex Unit := do
  openBlock .blockSequenceStart "sequence entries are not allowed here"
  setAllowKey true
  dropCandidate
  indicator .blockEntry

def keyToken : Lex Unit := do
  openBlock .blockMappingStart "mapping keys are not allowed here"
  setAllowKey (!(← inFlow))
  dropCandidate
  indicator .key

def valueToken : Lex Unit := do
  let s ← get
  match s.candidates.lookup s.flowLevel with
  | some k =>
    set { s with candidates := s.candidates.filter fun (l, _) => l != s.flowLevel }
    insertAt k.number .key k.mark
    unless ← inFlow do
      if ← openIndent k.mark.column then insertAt k.number .blockMappingStart k.mark
    setAllowKey false
  | none =>
    openBlock .blockMappingStart "mapping values are not allowed here"
    setAllowKey (!(← inFlow))
    dropCandidate
  indicator .value

def keyCandidate (scan : Lex Unit) : Lex Unit := do
  saveCandidate
  setAllowKey false
  scan

def blockScalarToken (folded : Bool) : Lex Unit := do
  setAllowKey true
  dropCandidate
  blockScalar folded

def isIndicator (c : Char) : Bool := "-?:,[]\x7b\x7d#&*!|>'\"%@`".toList.contains c

def fetch : Lex Unit := do
  skipToToken
  dropStale
  unwind (← here).column
  let c ← peek
  let next ← peek 1
  let flow ← inFlow
  let atStart := (← here).column == 0
  let separator ← atSeparator
  if c == '\x00' then streamEndToken
  else if c == '%' && atStart then
    unwind (-1)
    dropCandidate
    setAllowKey false
    directiveToken
  else if c == '-' && atStart && separator then separatorToken .documentStart
  else if c == '.' && atStart && separator then separatorToken .documentEnd
  else if c == '[' then flowStartToken .flowSequenceStart
  else if c == '\x7b' then flowStartToken .flowMappingStart
  else if c == ']' then flowEndToken .flowSequenceEnd
  else if c == '\x7d' then flowEndToken .flowMappingEnd
  else if c == ',' then flowEntryToken
  else if c == '-' && isGap next then blockEntryToken
  else if c == '?' && (flow || isGap next) then keyToken
  else if c == ':' && (flow || isGap next) then valueToken
  else if c == '*' then keyCandidate (anchorToken .alias)
  else if c == '&' then keyCandidate (anchorToken .anchor)
  else if c == '!' then keyCandidate tagToken
  else if c == '|' && !flow then blockScalarToken false
  else if c == '>' && !flow then blockScalarToken true
  else if c == '\'' then keyCandidate (quotedScalar false)
  else if c == '"' then keyCandidate (quotedScalar true)
  else if !(isGap c || isIndicator c)
      || (!isGap next && (c == '-' || (!flow && (c == '?' || c == ':')))) then
    keyCandidate plainScalar
  else fault s!"found character {quotedLabel (String.singleton c)} that cannot start any token"

def needsMore : Lex Bool := do
  let s ← get
  if s.finished then return false
  if s.queue.isEmpty then return true
  dropStale
  let s ← get
  return firstCandidate? s == some s.taken

def fill : Lex Unit := do
  for _ in [0 : ← bound] do
    if ← needsMore then fetch else break

def peekToken? : Lex (Option Token) := do
  fill
  return (← get).queue[0]?

def next? : Lex (Option Token) := do
  fill
  let s ← get
  match s.queue[0]? with
  | some t =>
    set { s with queue := s.queue.extract 1 s.queue.size, taken := s.taken + 1 }
    return some t
  | none => return none

def ofText (text : Array Char) : Lexer := { text, queue := #[⟨.streamStart, {}, {}⟩] }

end Lexer

end CnnForge.Yaml
