import CnnForge.Bus.Access
import CnnForge.CSource.ArrayDefine

namespace CnnForge.Bus

/-- Order of the checks in the test: by mask, then by address, then by the rest. -/
def Check.le (a b : Check) : Bool :=
  if a.mask ≠ b.mask then a.mask < b.mask
  else if a.address ≠ b.address then a.address < b.address
  else if a.maskText ≠ b.maskText then a.maskText < b.maskText
  else if a.value ≠ b.value then a.value < b.value
  else if a.bytes ≠ b.bytes then a.bytes < b.bytes
  else if a.continues ≠ b.continues then !a.continues
  else decide (a.comment ≤ b.comment)

structure CheckBlock where
  address : Int
  mask : Int
  valuesRev : List Int
deriving Repr, Inhabited

namespace CheckBlock

def next (b : CheckBlock) : Int := b.address + 4 * b.valuesRev.length

def encode (b : CheckBlock) : List Int :=
  [b.address, b.mask, b.valuesRev.length] ++ b.valuesRev.reverse

end CheckBlock

def blocksOf : List Check → List CheckBlock → List CheckBlock
  | [], acc => acc
  | c :: rest, [] => blocksOf rest [⟨c.address, c.mask, [c.value]⟩]
  | c :: rest, b :: done =>
    if c.mask = b.mask ∧ c.address = b.next then
      blocksOf rest ({ b with valuesRev := c.value :: b.valuesRev } :: done)
    else blocksOf rest (⟨c.address, c.mask, [c.value]⟩ :: b :: done)

def checkTable (checks : List Check) : List Int :=
  match blocksOf checks [] with
  | [] => []
  | blocks => (blocks.reverse.flatMap CheckBlock.encode) ++ [0]

/-- The statements of the loop that walks a table. -/
inductive LoopStatement where
  | address
  | mask
  | length
  | compare

def LoopStatement.text (continues : Bool) : LoopStatement → String
  | address => "  while ((addr = (volatile uint32_t *) *ptr++) != 0) \x7b\n"
  | mask => "    mask = *ptr++;\n"
  | length => "    len = *ptr++;\n    for (i = 0; i < len; i++)\n"
  | compare => s!"      if ((*addr++ & mask) != *ptr++) {failureAction continues}\n  \x7d\n"

def tableLoop (continues : Bool) : String :=
  "  int i;\n  uint32_t mask, len;\n  volatile uint32_t *addr;\n"
  ++ "  const uint32_t sample_output[] = SAMPLE_OUTPUT;\n"
  ++ "  const uint32_t *ptr = sample_output;\n\n"
  ++ String.join ([LoopStatement.address, .mask, .length, .compare].map (·.text continues))

/-- At most `limit + 1` checks. -/
def limitChecks (limit : Option Int) (checks : List Check) : List Check :=
  match limit with
  | none => checks
  | some n => checks.take (max 1 (n + 1).toNat)

def emitStatements (main : Sink) (continues : Bool) (checks : List Check) : Run Unit :=
  checks.forM fun c => do
    Run.check (c.continues == continues)
    Run.emit main (Check.statement c continues)

def emitTable (main header : Sink) (continues : Bool) (checks : List Check) : Run Unit := do
  Run.check (checks.all (·.continues == continues))
  Run.emit header (CSource.arrayDefine "SAMPLE_OUTPUT" .hexWord 8 (checkTable checks))
  Run.emit main (tableLoop continues)

def finishChecks : Run Unit := do
  let checks := (← get).bus.checks.toList.mergeSort Check.le
  let settings := (← get).bus.settings
  match checks with
  | [] => return
  | first :: _ =>
    let main ← require settings.mainFile
    match settings.sampleOutputHeader with
    | none => emitStatements main first.continues checks
    | some header => emitTable main header first.continues (limitChecks (← Run.options).maxCount checks)
    Run.modifyBus fun b => { b with checks := #[] }

end CnnForge.Bus
