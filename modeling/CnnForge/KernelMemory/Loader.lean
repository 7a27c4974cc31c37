import CnnForge.Bus.ProgramText
import CnnForge.KernelMemory.Arrays
import CnnForge.KernelMemory.Packing

namespace CnnForge.KernelMemory

structure LoaderSettings where
  embedded : Bool := false
  verify : Bool := false
  api : Bool := false
deriving Repr, Inhabited

def showMap (m : KernelMemory) (d : Device) (layers : Nat) (put : String → Run Unit) : Run Unit := do
  if layers = 0 then throw .value
  put ("\n".intercalate (m.mapLines d layers) ++ "\n")

def packAll (s : PackSettings) (layers : List KernelLayer) (first : Nat) :
    Run (KernelMemory × List KernelSpan) := do
  let tell (st : Packing) : Run Unit := do
    for n in st.notes do
      match n with
      | .line text => Run.putLine text
      | .warning text => Run.warn text
  match (packLayers s layers first).run {} with
  | .ok spans st =>
    tell st
    return (st.memory, spans)
  | .error e st =>
    tell st
    match e with
    | .failure cause => throw cause
    | .mismatch message => Run.stop message
    | .exhausted layer offset needed =>
      Run.reportError (s!"\nKernel memory exhausted at layer {layer}; offset: {offset}, "
        ++ s!"needed: {needed}.\n\nKernel map so far:")
      showMap st.memory s.device layers.length fun t => Run.diagnose t t
      throw (.exit 1)

def interleavedCount (l : KernelLayer) : Int :=
  Int.fdiv (l.inExpand * l.outputChannels * 9 * l.bits) (l.kernelSize.product * 8)

def writeAll (m : KernelMemory) (d : Device) (layers : Array KernelLayer) (spans : Array KernelSpan)
    (verifyOnly skipZero : Bool) : Run Unit := do
  for p in List.range d.maxProcessors do
    for (column, w) in m.row d p do
      if !(skipZero && w.bytes.all (· = 0)) then
        let l := layers.getD w.layer default
        let il : Option Bus.Interleaving :=
          if l.interleaved then
            some { first := (spans.getD w.layer default).offset, count := interleavedCount l }
          else none
        Bus.writeKernel w.layer p column w.bytes false verifyOnly il

def baseAddress (d : Device) (p : Nat) : Int := Bus.kernelAddress d p 0

def copyFunction (api : Bool) : Run Unit := do
  Bus.functionHeader { lead := "", function := "memcpy_96to128", returnType := "void",
                       arguments := "uint32_t *dst, const uint32_t *src, int n" }
  Bus.output ("  while (n-- > 0) \x7b\n    *dst++ = *src++;\n    *dst++ = *src++;\n"
    ++ "    *dst++ = *src++;\n    *dst++ = 0;  // Execute write\n  \x7d\n") api
  Bus.functionFooter "void"

def declareArray (p : Nat) (flash api : Bool) : Run Unit := do
  if flash then Bus.output CSource.flashAttribute api
  Bus.output s!"static const uint32_t kernels_{p}[] = KERNELS_{p};\n" api

def definePlain (m : KernelMemory) (runs : List KernelRun) (flash api : Bool) : Run Unit := do
  for r in runs do
    Bus.defineArray (m.plainWords r) s!"KERNELS_{r.processor}" "0x%08x" 8
  for r in runs do
    declareArray r.processor flash api
  Bus.output "\n" api
  copyFunction api

def definePacked (m : KernelMemory) (d : Device) (o : Options) (flash api : Bool) : Run Unit := do
  for p in List.range d.maxProcessors do
    if let some c := m.columns? d o.legacyKernels p then
      let words := m.packedWords p c
      if o.blockMode then
        let address := baseAddress d p
        Bus.write (Bits.or (address + c.first * 4) 1) (1 : Int)
        for (w, i) in words.zipIdx do
          Bus.write (address + 4 * i) w
      else Bus.defineArray words s!"KERNELS_{p}" "0x%08x" 8
      declareArray p flash api
  Bus.output "\n" api

def copyStatements (d : Device) (base : Int) (packed : Bool) (r : KernelRun) : String :=
  let address := base + baseAddress d r.processor
  let first : Int := r.columns.first
  if packed then
    s!"  *((volatile uint8_t *) 0x{Text.hex 8 (Bits.or (address + first * 4) 1)}) = 0x01; "
      ++ "// Set address\n"
      ++ s!"  memcpy32((uint32_t *) 0x{Text.hex 8 address}, kernels_{r.processor}, "
      ++ s!"{(r.size * 9 + 3) / 4});\n"
  else
    s!"  memcpy_96to128((uint32_t *) 0x{Text.hex 8 (address + first * 16)}, "
      ++ s!"kernels_{r.processor}, {r.size});\n"

def loadFunction (d : Device) (o : Options) (runs : List KernelRun) (api : Bool) : Run Unit := do
  Bus.functionHeader { function := "load_weights" }
  for r in runs do
    Run.check ((o.apbBase + baseAddress d r.processor).fmod 16 = 0)
    Bus.output (copyStatements d o.apbBase o.expressWeights r) api
  Bus.functionFooter

def begin (s : LoaderSettings) (o : Options) (layers : List KernelLayer) : Run Unit := do
  if o.debug then Run.putLine "\nLoading Kernels..."
  Run.check !((s.embedded || o.expressWeights) && layers.any (·.interleaved))

def packSettings (o : Options) (d : Device) : PackSettings :=
  { device := d, quad := o.fastFifoQuad, greedy := o.greedyKernels, legacy := o.legacyKernels,
    start := o.weightStart, debug := o.debug }

def emitChecks (s : LoaderSettings) (d : Device) (o : Options) (layers : List KernelLayer)
    (m : KernelMemory) (spans : List KernelSpan) : Run Unit := do
  if o.verbose then
    Run.putLine "\nKernel map:"
    showMap m d layers.length Run.put
  if s.verify then
    Bus.functionHeader { function := "verify_weights" }
    writeAll m d layers.toArray spans.toArray true false
    Bus.functionFooter

def emitLoad (s : LoaderSettings) (d : Device) (o : Options) (layers : List KernelLayer)
    (m : KernelMemory) (spans : List KernelSpan) : Run Unit := do
  if s.embedded || o.expressWeights then
    let runs := m.runs d o.legacyKernels
    let flash := o.riscvFlash && !o.riscvCache
    Bus.output "// Kernels:\n" s.api
    if o.expressWeights then definePacked m d o flash s.api
    else definePlain m runs flash s.api
    if !o.blockMode then loadFunction d o runs s.api
  else
    Bus.functionHeader { function := "load_weights" }
    writeAll m d layers.toArray spans.toArray false o.zeroSram
    Bus.functionFooter

def emitLoader (s : LoaderSettings) (d : Device) (o : Options) (layers : List KernelLayer)
    (m : KernelMemory) (spans : List KernelSpan) : Run Unit := do
  emitChecks s d o layers m spans
  emitLoad s d o layers m spans

def load (s : LoaderSettings) (layers : List KernelLayer) : Run (List KernelSpan) := do
  let d ← Run.device
  let o ← Run.options
  begin s o layers
  let (m, spans) ← packAll (packSettings o d) layers o.firstLayer
  emitLoader s d o layers m spans
  return spans

end CnnForge.KernelMemory
