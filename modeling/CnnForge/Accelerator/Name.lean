import CnnForge.Accelerator.Plan
import CnnForge.Text.Digest

namespace CnnForge.Accelerator

def PlannedLayer.nameText (l : PlannedLayer) : String :=
  let format := if l.bigData then "b" else "l"
  let flat := if l.flatten then "f" else ""
  let pooling := if !l.pools then "" else if l.poolAverage then "avg" else "max"
  let activation := match l.activation with
    | some .relu => "_relu"
    | some .abs => "_abs"
    | _ => ""
  s!"-{l.inputChannels}x{l.inputText}{format}{flat}_{pooling}{l.poolText}s{l.poolStride.row}p{l.padding.row}m{l.outputChannels}{activation}"

def Plan.fullName (p : Plan) (o : Options) : String :=
  if o.embeddedCode then o.testPrefix
  else
    o.testPrefix ++ String.join (p.used.map fun i => (p.layer i).nameText)
      ++ (if o.repeatLayers > 1 then s!"_repeat{o.repeatLayers}" else "")

def maxPath : Int := 255

/-- `name` as a folder below `base`. A negative number of characters to keep counts from the end. -/
def shortName (base name : String) : String :=
  if (name.length : Int) + base.length > maxPath - 10 then
    let digest := Text.Digest.ofText name
    let cut := maxPath - name.length - base.length - digest.length - 10
    let kept := if cut < 0 then (name.length : Int) + cut else cut
    String.ofList (name.toList.take kept.toNat) ++ "-" ++ digest
  else name

end CnnForge.Accelerator
