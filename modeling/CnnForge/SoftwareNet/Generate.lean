import CnnForge.Asset
import CnnForge.CSource.FileHead
import CnnForge.OutputFolder
import CnnForge.SoftwareNet.Inference
import CnnForge.SoftwareNet.LayerCode
import CnnForge.SoftwareNet.Weights
import CnnForge.Statistics.Summary

namespace CnnForge.SoftwareNet

def numbersDefine (name : String) (items : List Int) : String :=
  CSource.arrayDefine name .decimal 16 items

structure Files where
  sampleData : Sink
  weights : Sink
  program : Sink

def makeFolder (t : OutputFolder) : Run Unit := do
  let parts := pathParts t.folder
  let files := (← get).files
  if files.isFile t.folder then throw .fileExists
  if (List.range parts.length).any fun i => files.isFile ("/".intercalate (parts.take i)) then
    throw .notDirectory
  modify fun s => { s with files := s.files.addFolder t.folder }

def parameterDefines (i : Nat) (l : SoftwareLayer) : Except Failure String := do
  if l.isPassthrough then return ""
  let weights ← storedWeights l
  let bias ← storedBias l
  return numbersDefine s!"WEIGHTS_{i}" weights.data.toList ++ numbersDefine s!"BIAS_{i}" bias

def parameterArrays (i : Nat) (l : SoftwareLayer) : String :=
  if l.isPassthrough then ""
  else s!"static const q7_t weights_{i}[] = WEIGHTS_{i};\n"
    ++ s!"static const q7_t bias_{i}[] = BIAS_{i};\n"

def declarations (p : Plan) : String :=
  let sizes := bufferSizes p
  String.join (p.layers.toList.zipIdx.map fun (l, i) => parameterArrays i l) ++ "\n"
    ++ s!"static q7_t buffer0[{max sizes.image p.data.size}];\n"
    ++ s!"static q7_t buffer1[{sizes.image}];\n"
    ++ s!"static q15_t col_buffer[{sizes.columns}];\n\n"
    ++ "int cnn_run(const q7_t *input, int input_size, "
    ++ s!"q{p.outputBits}_t **output, int *output_size)\n\x7b\n"

def writeHead (t : OutputFolder) (f : Files) (p : Plan) : Run Unit := do
  Run.emit f.program CSource.termsOfUse
  Run.emit f.program (s!"// {t.name}\n" ++ t.origin)
  (CSource.fileHead (← Run.options) (← Run.device) { embedded := true }).emit (some f.program) none
  if p.data.rank != 3 then throw .value
  Run.emit f.sampleData (numbersDefine "INPUT_DATA" p.data.channelsLast.data.toList)
  Run.emit f.program ("static const q7_t input_data[] = INPUT_DATA;\n"
    ++ s!"static const q{p.outputWidth - 1}_t output_data[] = OUTPUT_DATA; "
    ++ "// Last conv layer output\n")
  for (l, i) in p.layers.toList.zipIdx do
    Run.emit f.weights (← Run.lift (parameterDefines i l))
  if p.layers.any fun l => (l.inputDim.map List.length) == some 1 then throw .index
  Run.emit f.program ("\n" ++ declarations p)

def runLayer (f : Files) (outputs : Array Tensor) (i : Nat) (l : SoftwareLayer) (b : Buffers) :
    Run (Tensor × Buffers) := do
  let input ← Run.perform (Network.gather outputs l.inSequences)
  let (out, size) ← computeLayer i l input
  let (code, b) ← Run.perform (layerCode i l size b)
  Run.emit f.program code
  if !out.anyNonzero then
    Run.warn (s!"Layer {i}: All output values for the given sample input are zero. The generated "
      ++ "known-answer test for this network may not be meaningful. See the log file for details.")
  let out ← Run.orFail .value (out.reshape? (size.map Int.toNat))
  if (← Run.options).verbose then
    let stored := out.channelsLast
    Run.putLine "TRANSPOSED (HWC) AND FLATTENED:"
    Run.putLine (Text.renderGrid ((stored.reshape? [stored.size]).getD stored))
    Run.put "\n"
  return (out, b)

def runLayers (f : Files) (p : Plan) : Run (Tensor × String) := do
  let (outputs, b) ← p.layers.toList.zipIdx.foldlM (fun (outputs, b) (l, i) => do
    let (out, b) ← runLayer f outputs i l b
    return (outputs.push out, b)) (#[p.data], ({} : Buffers))
  return (outputs.back?.getD default, b.full)

def programEnd (p : Plan) (outputSize : Nat) (buffer : String) : String :=
  let cast := if p.outputWidth = 8 then "" else "(q31_t *) "
  let print := if p.outputBits = 7 then
    "    printf(\"%5hhd\", (int8_t) (output[i] & 0xff));\n"
    else "    printf(\"%8d\", (int32_t) output[i]);\n"
  s!"  *output = {cast}{buffer};\n  *output_size = {outputSize};\n\n  return 1;\n\x7d\n\n"
    ++ "int main(void)\n\x7b\n  int i;\n" ++ s!"  q{p.outputBits}_t *output;\n"
    ++ "  int output_size;\n\n"
    ++ s!"  cnn_run(input_data, {p.data.size}, &output, &output_size);\n\n"
    ++ "  if (memcmp(output_data, output, output_size) == 0)\n"
    ++ "    printf(\"*** PASS ***\\n\\n\");\n  else\n    printf(\"!!! FAIL !!!\\n\\n\");\n\n"
    ++ "  printf(\"Output of final layer:\\n\");\n  for (i = 0; i < output_size; i++) \x7b\n"
    ++ print
    ++ "    if ((i + 1) % 32 == 0)\n      printf(\"\\n\");\n"
    ++ "    else if ((i + 1) % 4 == 0)\n      printf(\" \");\n  \x7d\n  printf(\"\\n\");\n\n"
    ++ "  return 0;\n\x7d\n\n"

def generate (command : String) (n : Network) : Run String := do
  let p ← Run.perform (plan n)
  let o ← Run.options
  let d ← Run.device
  let t : OutputFolder := { base := o.baseFolder, name := o.testPrefix, command }
  Run.putLine s!"{t.name}..."
  makeFolder t
  if o.log then t.openLog d o.logFile
  let sampleData ← t.create o.sampleFile
  let weights ← t.create o.weightFile
  let program ← t.create (o.cFile ++ ".c")
  let f : Files := { sampleData, weights, program }
  writeHead t f p
  let (out, buffer) ← runLayers f p
  Run.emit f.program (programEnd p out.size buffer)
  Run.emit f.sampleData (numbersDefine "OUTPUT_DATA" out.channelsLast.data.toList)
  Asset.copyAll "assets" "cmsis-nn" t.base t.name
  let layers := (List.range n.layers.size).drop n.firstLayer
  Run.putLine (← Run.lift ((← get).statistics.summary d o.debug (layers.map Int.ofNat) none))
  return t.name

end CnnForge.SoftwareNet
