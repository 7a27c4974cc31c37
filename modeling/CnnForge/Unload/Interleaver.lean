import CnnForge.Unload.Layout

namespace CnnForge

inductive InterleaverStatement where
  | units (control unit : Int)
  | channel (c : Nat)
  | offset (words : Nat)
  | disable
  | start (register : Int) (pixel : Nat)
  | increment (register : Int) (pass : Nat)
  | enable (lane : Nat)
  | prime
  | store (comment : String)
  | loop (times chunk : Nat)
deriving Repr, DecidableEq, Inhabited

namespace Interleaver

def offValue (d : Device) : Nat := d.controlReg.readySelect <<< 1 ||| 1 <<< 3

def onValue (d : Device) (lane : Nat) : Nat :=
  d.controlReg.readySelect <<< 1 ||| 1 <<< 16 ||| lane <<< 17 ||| 1 <<< 3

def storeText (indent comment : String) : String :=
  s!"{indent}  out_buf32[offs++] = *mlat;{comment}\n"

def text (d : Device) : InterleaverStatement → String
  | .units control unit =>
    s!"  ctrl = (volatile uint32_t *) 0x{Text.hex 8 control};\n"
      ++ s!"  mlat = (volatile uint32_t *) 0x{Text.hex 8 unit};\n"
  | .channel c => s!"  // Channel {c}\n"
  | .offset words => s!"  offs = 0x{Text.hex 4 words};\n"
  | .disable => s!"  *ctrl = 0x{Text.hex 8 (offValue d)}; // Disable mlator\n"
  | .start register pixel =>
    s!"  *((volatile uint32_t *) 0x{Text.hex 8 register}) = 0x{Text.hex 8 pixel}; // Set SRAM address\n"
  | .increment register pass =>
    s!"  *((volatile uint32_t *) 0x{Text.hex 8 register}) = 0x{Text.hex 8 pass}; "
      ++ "// Set pointer increment\n"
  | .enable lane => s!"  *ctrl = 0x{Text.hex 8 (onValue d lane)}; // Enable mlator, byte {lane}\n"
  | .prime => "  asm volatile (\"\" : \"=m\" (*mlat) : \"r\" (*mlat)); // Prime\n"
  | .store comment => storeText "" comment
  | .loop times chunk =>
    s!"  for (i = 0; i < {times}; i++) \x7b\n" ++ String.join (List.replicate chunk (storeText "  " ""))
      ++ "  \x7d\n"

def stores (chunk n : Nat) : List InterleaverStatement :=
  if chunk = 1 then []
  else if n ≥ 2 * chunk then .loop (n / chunk) chunk :: List.replicate (n % chunk) (.store "")
  else List.replicate n (.store "")

structure Plan where
  statements : Array InterleaverStatement := #[]
  unit : Option Int := none
  readAddress : Option Int := none
  writeAddress : Option Nat := none
  waiting : Nat := 0
deriving Inhabited

namespace Plan

def add (p : Plan) (xs : List InterleaverStatement) : Plan :=
  { p with statements := p.statements ++ xs.toArray }

def flush (p : Plan) (chunk : Nat) : Plan :=
  if p.waiting > 0 then { p.add (stores chunk p.waiting) with waiting := 0 } else p

end Plan

abbrev Planning := EStateM Failure Plan

def target (l : OutputLayout) (c n : Nat) : Nat :=
  c * l.shape.height * l.shape.width + n / l.shape.width * l.shape.height + n % l.shape.width

def planWord (l : OutputLayout) (d : Device) (base : Int) (chunk : Nat) (b : OutputBlock)
    (lane c n : Nat) : Planning Unit := do
  let source := l.offset + (OutputLayout.blockWord d b + (n / 4 * l.width + b.pass * l.size : Nat)) * 4
  let goal := target l c n
  if goal % 4 ≠ 0 then throw (.check "")
  if (← get).writeAddress ≠ some goal then modify (·.add [.offset (goal / 4)])
  if (← get).readAddress ≠ some source then
    let group : Int := b.processor / d.groupSize
    modify (·.flush chunk)
    if n ≠ 0 then modify (·.add [.disable])
    modify (·.add [
      .start (base + d.layerAddress group d.layerReg.writeBase 0) n,
      .increment (base + d.layerAddress group d.layerReg.control2 0) b.pass,
      .enable lane, .prime])
  let row := n / l.shape.width
  let column := n % l.shape.width
  if chunk = 1 then modify (·.add [.store s!" // {c},{row},{column}-{column + 3}"])
  modify fun p => { p with
    waiting := p.waiting + 1, readAddress := some (source + 4), writeAddress := some (goal + 4) }

def planBlock (l : OutputLayout) (d : Device) (base : Int) (chunk : Nat) (b : OutputBlock) :
    Planning Unit := do
  if l.size ≠ 1 then throw (.check "")
  let group : Int := b.processor / d.groupSize
  let unit := base + d.controlAddress group d.controlReg.mlator
  if (← get).unit ≠ some unit then
    modify fun p => { p with unit := some unit }
    modify (·.add [.units (base + d.controlAddress group d.controlReg.control) unit])
  for lane in b.usedLanes do
    let c := b.first + lane
    modify (·.add [.channel c])
    for k in List.range ((l.shape.pixels + 3) / 4) do
      planWord l d base chunk b lane c (4 * k)
    modify (·.flush chunk)
    modify (·.add [.disable])

end Interleaver

end CnnForge
