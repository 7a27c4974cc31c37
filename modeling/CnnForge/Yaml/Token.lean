import CnnForge.Value.Shown

namespace CnnForge.Yaml

structure Mark where
  index : Nat := 0
  line : Nat := 0
  column : Nat := 0
deriving Repr, DecidableEq, Inhabited

inductive ScalarStyle where
  | plain
  | singleQuoted
  | doubleQuoted
  | literal
  | folded
deriving Repr, DecidableEq, Inhabited

inductive Directive where
  | version (major minor : Nat)
  | tagHandle (handle expansion : String)
  | reserved
deriving Repr, DecidableEq, Inhabited

inductive TokenKind where
  | streamStart
  | streamEnd
  | directive (d : Directive)
  | documentStart
  | documentEnd
  | blockSequenceStart
  | blockMappingStart
  | blockEnd
  | flowSequenceStart
  | flowMappingStart
  | flowSequenceEnd
  | flowMappingEnd
  | key
  | value
  | blockEntry
  | flowEntry
  | alias (name : String)
  | anchor (name : String)
  | tag (handle : Option String) (suffix : String)
  | scalar (content : String) (style : ScalarStyle)
deriving Repr, DecidableEq, Inhabited

def TokenKind.label : TokenKind → String
  | .streamStart => "<stream start>"
  | .streamEnd => "<stream end>"
  | .directive _ => "<directive>"
  | .documentStart => "<document start>"
  | .documentEnd => "<document end>"
  | .blockSequenceStart => "<block sequence start>"
  | .blockMappingStart => "<block mapping start>"
  | .blockEnd => "<block end>"
  | .flowSequenceStart => "["
  | .flowMappingStart => "\x7b"
  | .flowSequenceEnd => "]"
  | .flowMappingEnd => "\x7d"
  | .key => "?"
  | .value => ":"
  | .blockEntry => "-"
  | .flowEntry => ","
  | .alias _ => "<alias>"
  | .anchor _ => "<anchor>"
  | .tag _ _ => "<tag>"
  | .scalar _ _ => "<scalar>"

structure Token where
  kind : TokenKind
  start : Mark
  stop : Mark
deriving Repr, DecidableEq, Inhabited

structure SyntaxFault where
  problem : String
  mark : Mark
  lexical : Bool
deriving Repr, DecidableEq, Inhabited

def quotedLabel (s : String) : String := Value.quotedText s

def isBreak (c : Char) : Bool := c = '\n' || c = '\x85' || c = '\u2028' || c = '\u2029'

def isLineEnd (c : Char) : Bool := isBreak c || c = '\x00'

def isSpaceOrEnd (c : Char) : Bool := c = ' ' || isLineEnd c

def isGap (c : Char) : Bool := c = '\t' || isSpaceOrEnd c

def isWordChar (c : Char) : Bool := c.isAlphanum || c = '-' || c = '_'

def isReadable (c : Char) : Bool :=
  let n := c.toNat
  n = 9 || n = 10 || n = 13 || (0x20 ≤ n && n ≤ 0x7e) || n = 0x85 || (0xa0 ≤ n && n ≤ 0xfffd)
    || 0x10000 ≤ n

end CnnForge.Yaml
