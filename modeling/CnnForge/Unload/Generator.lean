import CnnForge.Bus.ProgramText
import CnnForge.Unload.Interleaver
import CnnForge.Unload.Program

namespace CnnForge.Unload

def usesInterleaver (o : Options) (l : OutputLayout) : Run Bool := do
  let n := l.shape
  Run.check (!o.blockMode || !o.mlator)
  if !o.mlator && l.bits = 8 && o.embeddedCode && n.pixels % 4 = 0 then
    Run.warn "Use --mlator to optimize cnn_unload() for 8-bit output values."
  if !o.mlator then return false
  if l.bits ≠ 8 then
    Run.warn "ignoring --mlator for 32-bit output."
    return false
  if n.channels > 1 && n.pixels % 4 ≠ 0 then
    Run.warn (s!"ignoring --mlator for {n.height}x{n.width} frame size ({n.pixels} bytes) "
      ++ "that is not divisible by 4")
    return false
  return true

def declarations (l : OutputLayout) (interleaved : Bool) (chunk : Int) : String :=
  let single := l.shape.pixels = 1
  if interleaved then
    "  volatile uint32_t *mlat, *ctrl;\n" ++ (if chunk > 1 then "  int i;\n" else "")
      ++ (if l.bits ≠ 32 && !single then "  uint32_t offs;\n\n" else "")
  else
    "  volatile uint32_t *addr;\n"
      ++ (if l.bits = 32 then ""
        else s!"  uint{l.bits}_t *out_buf = (uint{l.bits}_t *) out_buf32;\n"
          ++ if single then "  uint32_t val;\n" else "  uint32_t val, offs;\n")

def interleaved (l : OutputLayout) (d : Device) (o : Options) (out : Sink) (chunk : Int)
    (bs : List OutputBlock) : Run Unit := do
  if chunk = 0 then throw .divisionByZero
  let run := bs.forM (Interleaver.planBlock l d o.apbBase chunk.toNat)
  let show_ (p : Interleaver.Plan) : Run Unit :=
    Run.emit out (String.join (p.statements.toList.map (Interleaver.text d)))
  match run.run {} with
  | .ok _ p => show_ p
  | .error e p =>
    show_ p
    throw e

def shapeText (n : DataShape) (unchanged : Bool) : String :=
  let sizes := [n.channels, n.height, n.width].map toString
  if unchanged then Text.parenthesized sizes else Text.bracketed sizes

def generate (file : Option Sink) (l : OutputLayout) (unchanged : Bool := false) : Run Unit := do
  let d ← Run.device
  let o ← Run.options
  let viaUnit ← usesInterleaver o l
  let out ← Run.orFail .property file
  let chunk : Int := if o.embeddedCode then o.mlatorChunk else 1
  let shape := shapeText l.shape unchanged
  let buffer := if l.bits = 32 then "out_buf" else "out_buf32"
  Run.emit out (s!"// Custom unload for this network: {l.bits}-bit data, shape: {shape}\n"
    ++ CSource.functionHeader o { function := "unload", arguments := s!"uint32_t *{buffer}" }
    ++ declarations l viaUnit chunk)
  let bs ← Run.lift (l.blocks d)
  if viaUnit then interleaved l d o out chunk bs
  else
    let narrow : Int := if o.embeddedCode then o.narrowChunk else 0
    let wide : Int := if o.embeddedCode then o.wideChunk else 0
    let statements := program l wide narrow (l.reads d bs)
    if statements.any UnloadStatement.isLoop then Run.emit out "  int i;\n"
    if !statements.isEmpty then
      Run.emit out ("\n" ++ String.join (statements.map (·.text (o.apbBase + d.dataBase))))
  Run.emit out CSource.functionFooter

end CnnForge.Unload
