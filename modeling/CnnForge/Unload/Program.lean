import CnnForge.Unload.Layout

namespace CnnForge

inductive UnloadOp where
  | copyWord (stride : Int)
  | readWord (stride : Int)
  | storeByte (lane distance : Nat)
  | storeNext (lane : Nat)
  | advance
deriving Repr, DecidableEq, Inhabited

inductive UnloadStatement where
  | source (address : Int)
  | rewind
  | skip (distance : Nat)
  | repeated (times : Nat) (body : List UnloadOp)
deriving Repr, DecidableEq, Inhabited

namespace UnloadOp

def pointerText (indent target : String) (stride : Int) : String :=
  if stride = 4 then s!"{indent}  {target} = *addr++;\n"
  else s!"{indent}  {target} = *addr;\n{indent}  addr += 0x{Text.hex 4 (stride.fdiv 4)};\n"

def laneText (lane : Nat) : String := if lane = 0 then "val" else s!"(val >> {lane * 8})"

def text (indent : String) : UnloadOp → String
  | copyWord stride => pointerText indent "*out_buf++" stride
  | readWord stride => pointerText indent "val" stride
  | storeByte lane distance =>
    let place := if lane > 0 then s!"+0x{Text.hex 2 distance}" else ""
    s!"{indent}  out_buf[offs{place}] = {laneText lane} & 0xff;\n"
  | storeNext lane => s!"{indent}  *out_buf++ = {laneText lane} & 0xff;\n"
  | advance => s!"{indent}  offs++;\n"

end UnloadOp

namespace UnloadStatement

def isLoop : UnloadStatement → Bool
  | repeated times _ => times > 1
  | _ => false

def text (base : Int) : UnloadStatement → String
  | source address => s!"  addr = (volatile uint32_t *) 0x{Text.hex 8 (base + address)};\n"
  | rewind => "  offs = 0x0000;\n"
  | skip distance => s!"  offs += 0x{Text.hex 4 distance};\n"
  | repeated times body =>
    if times > 1 then
      s!"  for (i = 0; i < {times}; i++) \x7b\n" ++ String.join (body.map (·.text "  ")) ++ "  \x7d\n"
    else String.join (body.map (·.text ""))

end UnloadStatement

structure WordRun where
  source : Int
  stride : Int
  words : Nat
deriving Repr, DecidableEq, Inhabited

structure ByteRun extends WordRun where
  lanes : List Nat
deriving Repr, DecidableEq, Inhabited

namespace Unload

def unrolled (chunk : Int) (body : List UnloadOp) (n : Nat) : List UnloadStatement :=
  if n = 0 then []
  else
    let size := max 1 chunk.toNat
    let times := max 1 (if chunk > 0 then n / size else 1)
    .repeated times (List.replicate (min n size) body).flatten :: unrolled chunk body (n - times * size)
termination_by n
decreasing_by
  have : 1 ≤ times * size := Nat.mul_pos (by omega) (by omega)
  change n - times * size < n
  omega

def runLength (stride : Int) : List Int → Nat
  | a :: b :: rest => if b - a = stride then runLength stride (b :: rest) + 1 else 0
  | _ => 0

def distance : List Int → Int
  | a :: b :: _ => b - a
  | _ => 4

def copyRuns (all : List Int) (addresses : List Int) : List WordRun :=
  match addresses with
  | [] => []
  | a :: rest =>
    let stride := distance addresses
    let further := min (runLength stride all) rest.length
    ⟨a, stride, further + 1⟩ :: copyRuns all (rest.drop further)
termination_by addresses.length
decreasing_by
  simp only [List.length_drop, List.length_cons]
  omega

def copyWords (chunk : Int) (runs : List WordRun) : List UnloadStatement :=
  runs.flatMap fun r => .source r.source :: unrolled chunk [.copyWord r.stride] r.words

def wordLanes : List OutputRead → List Nat
  | [] => []
  | r :: rest => r.lane :: (rest.takeWhile (·.address = r.address)).map (·.lane)

def firsts (lanes : Nat) (reads : List OutputRead) : List Int :=
  match reads with
  | [] => []
  | r :: rest => r.address :: firsts lanes (rest.drop (lanes - 1))
termination_by reads.length
decreasing_by
  simp only [List.length_drop, List.length_cons]
  omega

def wordBody (stride : Int) (pixels : Nat) (lanes : List Nat) : List UnloadOp :=
  .readWord stride ::
    (if pixels = 1 then lanes.map .storeNext
     else lanes.map (fun lane => .storeByte lane (pixels * lane)) ++ [.advance])

def byteRuns (reads : List OutputRead) : List ByteRun :=
  match reads with
  | [] => []
  | r :: rest =>
    let lanes := wordLanes (r :: rest)
    let words := firsts lanes.length (r :: rest)
    let further := runLength (distance words) words
    { source := r.address, stride := distance words, words := further + 1, lanes } ::
      byteRuns (rest.drop ((further + 1) * lanes.length - 1))
termination_by reads.length
decreasing_by
  simp only [List.length_drop, List.length_cons]
  omega

def storeBytes (chunk : Int) (pixels : Nat) : List ByteRun → List UnloadStatement
  | [] => []
  | r :: rest =>
    .source r.source :: unrolled chunk (wordBody r.stride pixels r.lanes) r.words
      ++ (if pixels ≠ 1 ∧ rest ≠ [] ∧ r.lanes.length > 1 then [.skip (pixels * (r.lanes.length - 1))]
        else [])
      ++ storeBytes chunk pixels rest

def program (l : OutputLayout) (wide narrow : Int) (reads : List OutputRead) : List UnloadStatement :=
  if reads.isEmpty then []
  else if l.size = 4 then
    let addresses := reads.map (·.address)
    copyWords wide (copyRuns addresses addresses)
  else
    (if l.shape.pixels = 1 then [] else [.rewind]) ++ storeBytes narrow l.shape.pixels (byteRuns reads)

end Unload

end CnnForge
