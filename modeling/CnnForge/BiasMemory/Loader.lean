import CnnForge.BiasMemory.Plan
import CnnForge.Bus.ProgramText
import CnnForge.Bus.Register

namespace CnnForge.BiasMemory

def contents (d : Device) (writes : Array BiasWrite) (memory size : Nat) : List Int :=
  (writes.foldl (fun (a : Array Int) w =>
    if w.memory? d = some memory then a.setIfInBounds w.offset w.value else a)
    (Array.replicate size 0)).toList

def tables (d : Device) (plan : BiasPlan) : List (Nat × List Int) :=
  (plan.tops.zipIdx.filter fun x => x.1 > 0).map fun x => (x.2, contents d plan.writes x.2 x.1)

inductive Statement where
  | store (w : BiasWrite)
  | copy (memory : Nat) (bytes : List Int)
deriving Repr

def Statement.emit (d : Device) (base : Int) : Statement → Run Unit
  | store w => Bus.writeBias w.group w.offset w.value
  | copy memory bytes =>
    let address := base + d.groupSpacing * memory + d.biasBase
    Bus.output (s!"  memcpy_8to32((uint32_t *) 0x{Text.hex 8 address}, bias_{memory}, "
      ++ s!"sizeof(uint8_t) * {bytes.length});\n") true

def statements (d : Device) (plan : BiasPlan) (embedded : Bool) : List Statement :=
  if embedded then (tables d plan).map fun x => .copy x.1 x.2 else plan.writes.toList.map .store

def defineArrays (tables : List (Nat × List Int)) : Run Unit :=
  tables.forM fun x => Bus.defineArray x.2 s!"BIAS_{x.1}" "0x%02x" 16

def openLoader (tables : List (Nat × List Int)) : Run Unit := do
  if tables.isEmpty then
    Bus.functionHeader { function := "load_bias" }
    Bus.output "  // Not used in this network" true
  else
    tables.forM fun x =>
      Bus.output s!"static const uint8_t bias_{x.1}[] = BIAS_{x.1};\n" true
    Bus.output "\n" true
    Bus.functionHeader { lead := "", function := "memcpy_8to32", returnType := "static void",
                         arguments := "uint32_t *dst, const uint8_t *src, int n" }
    Bus.output "  while (n-- > 0) \x7b\n    *dst++ = *src++;\n  \x7d\n" true
    Bus.functionFooter "void"
    Bus.functionHeader { function := "load_bias" }

def raise (d : Device) : BiasFailure → Run Unit
  | .mismatch layer channels values =>
    Run.stop (s!"Layer {layer}: output channel count {channels} does not match the number of bias "
      ++ s!"values {values}.")
  | .full layer group top =>
    Run.stop (s!"Layer {layer}: bias memory capacity for group {group} exhausted, "
      ++ s!"used so far: {top}.")
  | .exhausted r tops group top =>
    Run.stop (s!"Layer {r.layer}: bias memory capacity exhausted - available groups: "
      ++ s!"{Text.bracketed (r.groups.map toString)}, "
      ++ s!"used so far: {Text.bracketed (tops.map toString)}, needed: {r.length} bytes, "
      ++ s!"best available: group {group} with {(d.biasSize : Int) - top} bytes available.")
  | .failure cause => throw cause

def settings (d : Device) (o : Options) (groupsUsed : List Int) : BiasSettings :=
  { device := d, quadLayer := if o.fastFifoQuad then some o.firstLayer else none, groupsUsed }

def load (embedded : Bool) (layers : List BiasLayer) (groupsUsed : List Int) : Run BiasPlan := do
  let d ← Run.device
  let o ← Run.options
  if !embedded then Bus.functionHeader { function := "load_bias" }
  let (plan, problem) := match (placeBias (settings d o groupsUsed) layers o.firstLayer).run {} with
    | .ok _ plan => (plan, none)
    | .error e plan => (plan, some e)
  plan.warnings.toList.forM Run.warn
  if !embedded then (statements d plan embedded).forM (·.emit d o.apbBase)
  if let some e := problem then raise d e
  if embedded then
    defineArrays (tables d plan)
    openLoader (tables d plan)
    (statements d plan embedded).forM (·.emit d o.apbBase)
  Bus.functionFooter
  return plan

end CnnForge.BiasMemory
