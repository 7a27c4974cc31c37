import CnnForge.CommandLine.Catalog
import CnnForge.Device.Selection
import CnnForge.Value.Shown

namespace CnnForge.CommandLine

abbrev Arguments := List (String × Value)

def setArgument (args : Arguments) (name : String) (v : Value) : Arguments :=
  args.map fun (n, w) => if n = name then (n, v) else (n, w)

def defaults : Arguments :=
  options.foldl (fun args o =>
    if o.target == "" || (args.lookup o.target).isSome then args
    else args ++ [(o.target, o.default)]) []

inductive Rejection where
  | error (message : String)
  | help

def refuse (o : OptionSpec) (message : String) : Except Rejection α :=
  .error (.error s!"argument {o.label}: {message}")

inductive Word where
  | value
  | separator
  | option (spec : OptionSpec) (name : String) (attached : Option String)
  | unknown
deriving Inhabited

def findOption? (name : String) : Option OptionSpec := options.find? (·.names.contains name)

def splitAtEquals (s : String) : String × Option String :=
  match s.splitOn "=" with
  | name :: rest@(_ :: _) => (name, some ("=".intercalate rest))
  | _ => (s, none)

def candidates (word : String) : List (OptionSpec × String × Option String) :=
  let names := options.flatMap fun o => o.names.map fun n => (o, n)
  if word.startsWith "--" then
    let (lead, attached) := splitAtEquals word
    (names.filter fun (_, n) => n.startsWith lead).map fun (o, n) => (o, n, attached)
  else
    let short := (word.take 2).toString
    names.filterMap fun (o, n) =>
      if n == short then some (o, n, some (word.drop 2).toString)
      else if n.startsWith word then some (o, n, none)
      else none

def isNegativeNumber (word : String) : Bool :=
  match word.toList with
  | '-' :: cs =>
    let (whole, rest) := cs.span Char.isDigit
    match rest with
    | [] => !whole.isEmpty
    | '.' :: places => !places.isEmpty && places.all Char.isDigit
    | _ => false
  | _ => false

def classify (word : String) : Except Rejection Word := do
  if !word.startsWith "-" then return .value
  if let some o := findOption? word then return .option o word none
  if word == "-" then return .value
  let (name, attached) := splitAtEquals word
  if attached.isSome then
    if let some o := findOption? name then return .option o name attached
  match candidates word with
  | [(o, n, attached)] => return .option o n attached
  | [] =>
    if isNegativeNumber word || word.contains ' ' then return .value else return .unknown
  | many =>
    let matching := ", ".intercalate (many.map fun (_, n, _) => n)
    throw (.error s!"ambiguous option: {word} could match {matching}")

def classifyAll : List String → Except Rejection (List (String × Word))
  | [] => pure []
  | w :: ws => do
    if w == "--" then return (w, .separator) :: ws.map fun v => (v, .value)
    let k ← classify w
    return (w, k) :: (← classifyAll ws)

def readValue (o : OptionSpec) (s : String) : Except Rejection Value := do
  let invalid (kind : String) : Except Rejection Value :=
    refuse o s!"invalid {kind} value: {Value.quotedText s}"
  let v ← match o.action with
    | .store .integer =>
      match Text.readInt? 10 s with
      | some n => pure (.int n)
      | none => invalid "int"
    | .store .anyBase =>
      match Text.readInt? 0 s with
      | some n => pure (.int n)
      | none => invalid "<lambda>"
    | .store .device =>
      match Device.codeOfText s with
      | .ok n => pure (.int n)
      | .error _ =>
        refuse o s!"({Value.quotedText s}, 'is not a supported device type')"
    | _ => pure (.text s)
  match o.choices, v.int? with
  | some choices, some n =>
    if choices.contains n then return v
    let list := ", ".intercalate (choices.map toString)
    refuse o s!"invalid choice: {n} (choose from {list})"
  | _, _ => return v

structure Reading where
  arguments : Arguments := defaults
  seen : List OptionSpec := []
  unknown : List String := []

def Reading.take (r : Reading) (o : OptionSpec) (given : Option String) : Except Rejection Reading := do
  let v ← match o.action, given with
    | .store _, some s => readValue o s
    | .constant v, _ => pure v
    | .help, _ => throw .help
    | .store _, none => refuse o "expected one argument"
  let conflict := r.seen.find? fun p =>
    o.exclusive.isSome && p.exclusive == o.exclusive && p.label != o.label
  let others := options.filter fun p => p.exclusive == o.exclusive && r.seen.any (·.label == p.label)
  if conflict.isSome then
    if let some p := others.find? (·.label != o.label) then
      refuse o s!"not allowed with argument {p.label}"
  return { r with arguments := setArgument r.arguments o.target v, seen := o :: r.seen }

def joined (o : OptionSpec) (name : String) : List Char → Nat →
    Except Rejection (List (OptionSpec × Option String))
  | _, 0 => pure []
  | attached, fuel + 1 => do
    let value := String.ofList attached
    if o.takesValue then return [(o, some value)]
    match attached with
    | c :: rest =>
      if name.startsWith "--" then refuse o s!"ignored explicit argument {Value.quotedText value}"
      else
        let next := String.ofList ['-', c]
        match findOption? next with
        | some p =>
          if rest.isEmpty then
            return [(o, none), (p, none)]
          else
            return (o, none) :: (← joined p next rest fuel)
        | none => refuse o s!"ignored explicit argument {Value.quotedText value}"
    | [] => refuse o s!"ignored explicit argument {Value.quotedText value}"

def readWords : List (String × Word) → Reading → Except Rejection Reading
  | [], r => pure r
  | (w, .value) :: ws, r | (w, .separator) :: ws, r | (w, .unknown) :: ws, r =>
    readWords ws { r with unknown := r.unknown ++ [w] }
  | (_, .option o name (some attached)) :: ws, r => do
    let steps ← joined o name attached.toList (attached.length + 1)
    let r ← steps.foldlM (fun r (o, v) => r.take o v) r
    readWords ws r
  | (_, .option o _ none) :: rest, r => do
    if o.takesValue then
      match rest with
      | (v, .value) :: ws => readWords ws (← r.take o (some v))
      | _ => refuse o "expected one argument"
    else readWords rest (← r.take o none)

def checkComplete (r : Reading) : Except Rejection Unit := do
  let given (o : OptionSpec) : Bool := r.seen.any (·.label == o.label)
  let missing := options.filter fun o => o.required && !given o
  unless missing.isEmpty do
    let names := ", ".intercalate (missing.map (·.label))
    throw (.error s!"the following arguments are required: {names}")
  let devices := options.filter (·.exclusive == some deviceGroup)
  unless devices.any given do
    let names := " ".intercalate (devices.map (·.label))
    throw (.error s!"one of the arguments {names} is required")
  unless r.unknown.isEmpty do
    let words := " ".intercalate r.unknown
    throw (.error s!"unrecognized arguments: {words}")

def parse (words : List String) : Except Rejection Arguments := do
  let r ← readWords (← classifyAll words) {}
  checkComplete r
  return r.arguments

end CnnForge.CommandLine
