import CnnForge.Session

namespace CnnForge

attribute [local instance (2000)] instPowNat

inductive Datum where
  | number (n : Int)
  | expression (text : String)
deriving Repr, DecidableEq, Inhabited

instance : Coe Int Datum := ⟨.number⟩

structure WriteStyle where
  comment : String := ""
  indent : String := "  "
  noVerify : Bool := false
  fifo : Option Int := none
  absolute : Bool := false
  wait : Bool := true
deriving Repr, Inhabited

structure VerifyStyle where
  mask : Option Int := none
  bytes : Int := 4
  lane : Int := 0
  comment : String := ""
  continues : Bool := false
  api : Bool := false
  data : Bool := false
  collect : Bool := false
deriving Repr, Inhabited

namespace Bus

def cell (address : Int) : String := s!"*((volatile uint32_t *) 0x{Text.hex 8 address})"

def Datum.text : Datum → String
  | .number n => "0x" ++ Text.hex 8 n
  | .expression s => s

def librarySink (s : BusSettings) : Option Sink := s.apiFile <|> s.mainFile

def require (s : Option Sink) : Run Sink := Run.orFail .property s

def writeLines (address value : Int) : Run Unit := do
  let s ← get
  let out ← require s.bus.settings.mainFile
  let n := s.bus.line
  Run.emit out s!"@{Text.hex 4 n} {Text.hex 8 address}\n@{Text.hex 4 (n + 1)} {Text.hex 8 value}\n"
  Run.modifyBus fun b => { b with line := b.line + 2 }

def fifoStatements (d : Device) (base : Int) (fast : Bool) (fifo : Int) (value : String)
    (style : WriteStyle) : String :=
  let i := style.indent
  if fast then
    let a : Int := d.fastFifoBase
    (if style.wait then
      s!"{i}while ((({cell (a + Device.fastFifoStatus * 4)} & 2)) != 0); // Wait for FIFO\n"
    else "") ++ s!"{i}{cell (a + Device.fastFifoData * 4)} = {value};{style.comment}\n"
  else
    let a := base + d.fifoBase
    (if style.wait then
      let bit := (2 : Int) ^ fifo.toNat
      s!"{i}while ((({cell (a + Device.fifoStatus * 4)} & {bit})) != 0); // Wait for FIFO {fifo}\n"
    else "") ++ s!"{i}{cell (a + Device.fifoData * 4 + fifo * 4)} = {value};{style.comment}\n"

def writeStatement (address : Int) (value : Datum) (style : WriteStyle) : Run Unit := do
  if let .number n := value then Run.check (n ≥ 0)
  Run.check (address ≥ 0)
  let base := (← Run.options).apbBase
  let settings := (← get).bus.settings
  let address := if style.absolute then address else address + base
  let some out := librarySink settings | return
  let text := Datum.text value
  match style.fifo with
  | none =>
    Run.emit out s!"{style.indent}{cell address} = {text};{style.comment}\n"
    Run.modifyBus fun b => { b with writes := b.writes + 1 }
    if settings.verifyWrites && !style.noVerify then
      Run.emit out s!"{style.indent}if ({cell address} != {text}) return CNN_FAIL;\n"
      Run.modifyBus fun b => { b with reads := b.reads + 1 }
  | some fifo =>
    let out ← require settings.mainFile
    Run.emit out (fifoStatements (← Run.device) base settings.fastFifo fifo text style)
    Run.modifyBus fun b => { b with writes := b.writes + 1 }

def write (address : Int) (value : Datum) (style : WriteStyle := {}) : Run Unit := do
  match (← get).bus.kind with
  | .textOnly => throw .unsupported
  | .program => writeStatement address value style
  | .block | .trace =>
    match value with
    | .expression _ => throw .kind
    | .number n =>
      Run.check (n ≥ 0)
      Run.check (address ≥ 0)
      let base := (← Run.options).apbBase
      writeLines (if style.absolute then address else address + base) n

def writeData (address : Int) (value : Int) (style : WriteStyle := {}) : Run Unit := do
  let preloaded := (← get).bus.kind == .program && (← get).bus.dataMemory.isSome
  if preloaded && style.fifo.isNone then
    let l := (← Run.device).dataLocation address
    let key := (← get).bus.dataMemory.bind (·.locate? l.group l.block l.memory)
    let key ← Run.orFail .index key
    Run.modifyBus fun b => { b with dataMemory := b.dataMemory.map (·.add key l.word value) }
  else write address value style

/-- The mask of a comparison of `bytes` bytes; a full word has none. -/
def byteMask (bytes : Int) : Run (Option Int) :=
  if bytes = 4 then pure none
  else if bytes = 3 then pure (some 0xffffff)
  else if bytes = 2 then pure (some 0xffff)
  else if bytes = 1 then pure (some 0xff)
  else throw .unsupported

def toLane (x lane : Int) : Run Int :=
  if lane < 0 then throw .value else pure (Bits.up x (lane * 8).toNat)

def laneMask (style : VerifyStyle) : Run (Option Int) := do
  let mask ← match style.mask with
    | some m => pure (some m)
    | none =>
      let m ← byteMask style.bytes
      Run.check (style.lane + style.bytes ≤ 4)
      pure m
  match mask with
  | none => pure none
  | some m => some <$> toLane m style.lane

def maskedDigits (mask value : String) : Option String :=
  let rec go : List Char → List Char → Option (List Char)
    | [], _ => some []
    | 'f' :: ms, v :: vs => (v :: ·) <$> go ms vs
    | 'f' :: _, [] => none
    | _ :: ms, vs => ('X' :: ·) <$> go ms (vs.drop 1)
  String.ofList <$> go mask.toList value.toList

def expectData (address value : Int) (style : VerifyStyle) : Run Unit := do
  let mask ← laneMask style
  let text := Text.hex 8 value
  let text ← match mask with
    | none => pure text
    | some m => Run.orFail .index (maskedDigits (Text.hex 8 m) text)
  let l := (← Run.device).dataLocation address
  let key := (← get).bus.outputMemory.bind (·.locate? l.group l.block l.memory)
  let key ← Run.orFail .index key
  Run.modifyBus fun b => { b with outputMemory := b.outputMemory.map (·.add key l.word text) }

def failureAction (continues : Bool) : String :=
  if continues then "rv = CNN_FAIL;" else "return CNN_FAIL;"

def Check.statement (c : Check) (continues : Bool) : String :=
  s!"  if (({cell c.address}{c.maskText}) != 0x{Text.hex (2 * c.bytes).toNat c.value}) "
    ++ s!"{failureAction continues}{c.comment}\n"

def checkOf (address value : Int) (style : VerifyStyle) : Run Check := do
  let mask ← laneMask style
  match mask with
  | some m =>
    let bytes := style.bytes + style.lane
    return { mask := m, address, maskText := s!" & 0x{Text.hex (2 * bytes).toNat m}",
             value := Bits.and value m, bytes, continues := style.continues,
             comment := style.comment }
  | none =>
    return { mask := 0xffffffff, address, maskText := "", value, bytes := style.bytes,
             continues := style.continues, comment := style.comment }

def verifyStatement (address value : Int) (style : VerifyStyle) : Run Unit := do
  Run.check (value ≥ 0)
  Run.check (address ≥ 0)
  if (← get).bus.outputMemory.isSome && style.data then expectData address value style
  else
    let base := (← Run.options).apbBase
    let settings := (← get).bus.settings
    let some main := settings.mainFile | return
    let c ← checkOf (address + base) value style
    if style.collect then Run.modifyBus fun b => { b with checks := b.checks.push c }
    else
      let out := if style.api then settings.apiFile.getD main else main
      Run.emit out (Check.statement c style.continues)
    Run.modifyBus fun b => { b with reads := b.reads + 1 }

def verify (address value : Int) (style : VerifyStyle := {}) : Run Unit := do
  match (← get).bus.kind with
  | .textOnly => throw .unsupported
  | .program => verifyStatement address value style
  | .block =>
    Run.check (value ≥ 0)
    Run.check (address ≥ 0)
    writeLines (address + (← Run.options).apbBase) value
  | .trace =>
    Run.check (value ≥ 0)
    Run.check (address ≥ 0)
    let out ← require (← get).bus.settings.mainFile
    Run.emit out s!"{Text.hex 8 value}\n"
    Run.modifyBus fun b => { b with line := b.line + 2 }

def verifyListed (address value : Int) (style : VerifyStyle := {}) : Run Unit := do
  verify address value { style with collect := (← get).bus.settings.embedded }

def wait (address mask value : Int) (comment : String := "") : Run Unit := do
  match (← get).bus.kind with
  | .textOnly => throw .unsupported
  | .block | .trace =>
    Run.check (value ≥ 0)
    Run.check (address ≥ 0)
  | .program =>
    Run.check (value ≥ 0)
    Run.check (address ≥ 0)
    let a := address + (← Run.options).apbBase
    let some out := librarySink (← get).bus.settings | return
    Run.emit out
      s!"  while (({cell a} & 0x{Text.hex 0 mask}) != 0x{Text.hex 0 value});{comment}\n"

def output (text : String) (api : Bool := false) : Run Unit := do
  let bus := (← get).bus
  match bus.kind with
  | .block | .trace => return
  | .textOnly | .program =>
    let some main := bus.settings.mainFile | return
    Run.emit (if api then bus.settings.apiFile.getD main else main) text

def setMainFile (file : Option Sink) : Run Unit :=
  Run.modifyBus fun b =>
    { b with settings := { b.settings with mainFile := file },
             line := if b.kind == .block || b.kind == .trace then 0 else b.line }

/-- Time that all accesses take, in milliseconds: 280 ns for a write and 230 ns for a read. -/
def accessTime (b : Bus) : Int := (280 * b.writes + 230 * b.reads).fdiv 1000000

def start (kind : BusKind) (settings : BusSettings) : Run Unit := do
  let d ← Run.device
  let o ← Run.options
  let simulated := !(settings.embeddedHost || settings.embedded)
  let blocks := (d.groupSize + d.shared - 1) / d.shared
  let dataMemory :=
    if simulated && o.rtlPreload && !(o.compactData || settings.fifo || settings.fastFifo) then
      some ⟨d.groups, blocks, d.instanceCount, {}⟩ else none
  let kernelMemory :=
    if simulated && o.rtlPreload && !(o.compactWeights || o.expressWeights || o.verifyKernels) then
      some ⟨d.groups, d.groupSize, d.maskInstances, {}⟩ else none
  let outputMemory :=
    if simulated && o.resultOutput then some ⟨d.groups, blocks, d.instanceCount, {}⟩ else none
  Run.modifyBus fun _ =>
    { kind, settings, image := { size := d.groupSpacing * d.groups }, dataMemory, kernelMemory,
      outputMemory }

end Bus

end CnnForge
