import CnnForge.Session

namespace CnnForge.SampleData

def packChannels (values : List Int) : Int :=
  values.foldr (fun v acc => Bits.or (Bits.up acc 8) (Bits.unsigned v)) 0

def channelOf (packed : Int) (c : Nat) : Int := Bits.signed (Bits.byte (Bits.down packed (8 * c)))

def nextPixel (step : Int) (values : List Int) : List Int :=
  let n := values.length
  let packed := Bits.low (8 * n) (packChannels values + step)
  (List.range n).map (channelOf packed)

/-- Pixels of a synthesized input: after the first `words` of them each follows from the one `words`
places before it. -/
def synthesizePixels (step : Int) (words : Nat) (pixels : Array (List Int)) : Array (List Int) :=
  (List.range (pixels.size - words)).foldl (fun ps i =>
    ps.setIfInBounds (i + words) (nextPixel step (ps.getD i []))) pixels

def synthesize (t : Tensor) (step words : Int) : Run Tensor := do
  let some channels := t.shape.head? | throw .index
  if channels < 1 || channels > 4 then
    Run.stop "`--synthesize-input` requires 1 to 4 input channels."
  let n := t.size / channels
  if words = 0 then throw .divisionByZero
  if (n : Int).fmod words ≠ 0 then
    Run.stop (s!"`--synthesize-words` must be a divisor of the number of pixels per channel ({n}).")
  if words < 0 then return t
  let pixels := Array.ofFn fun i : Fin n => (List.range channels).map fun c => t.flat (c * n + i)
  let pixels := synthesizePixels step words.toNat pixels
  return Tensor.ofFn t.shape fun k => (pixels.getD (k % n) []).getD (k / n) 0

def stored (path : String) : Run (List Tensor) := do
  match ← Run.lift ((← get).files.read path) with
  | .tensors ts => pure ts
  | .text _ => pure []

def load (path : String) (step : Option Int := none) (words : Int := 8) : Run Tensor := do
  let t ← Run.orFail .value (← stored path).head?
  match step with
  | none => pure t
  | some step => synthesize t step words

end CnnForge.SampleData
