import CnnForge.Yaml.Token

namespace CnnForge.Yaml

inductive LintRule where
  | braces
  | brackets
  | colons
  | commas
  | emptyLines
  | hyphens
  | indentation
  | keyDuplicates
  | lineLength
  | newLineAtEnd
  | trailingSpaces
deriving Repr, DecidableEq, Inhabited

namespace LintRule

def all : List LintRule :=
  [.braces, .brackets, .colons, .commas, .emptyLines, .hyphens, .indentation, .keyDuplicates,
   .lineLength, .newLineAtEnd, .trailingSpaces]

def name : LintRule → String
  | .braces => "braces"
  | .brackets => "brackets"
  | .colons => "colons"
  | .commas => "commas"
  | .emptyLines => "empty-lines"
  | .hyphens => "hyphens"
  | .indentation => "indentation"
  | .keyDuplicates => "key-duplicates"
  | .lineLength => "line-length"
  | .newLineAtEnd => "new-line-at-end-of-file"
  | .trailingSpaces => "trailing-spaces"

def isError : LintRule → Bool
  | .keyDuplicates | .newLineAtEnd | .trailingSpaces => true
  | _ => false

end LintRule

structure LintProblem where
  line : Nat
  column : Nat
  description : String
  rule : Option LintRule
deriving Repr, DecidableEq, Inhabited

def LintProblem.isError (p : LintProblem) : Bool := p.rule.all LintRule.isError

structure TokenContext where
  previous : Option Token
  token : Token
  next : Option Token
  afterNext : Option Token
deriving Repr, Inhabited

end CnnForge.Yaml
