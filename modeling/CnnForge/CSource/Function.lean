import CnnForge.CSource.ArrayDefine
import CnnForge.CSource.Script

namespace CnnForge.CSource

def flashAttribute : String := "__attribute__ ((section(\".rvflash_section\")))\n"

def secondCoreOrigin : Nat := 0x10001000

structure FunctionFrame where
  function : String := "configure"
  arguments : String := "void"
  returnType : String := "int"
  lead : String := "cnn_"
deriving Repr, Inhabited

def functionHeader (o : Options) (f : FunctionFrame := {}) : String :=
  (if o.riscvFlash && !o.riscvCache then flashAttribute else "")
    ++ s!"{f.returnType} {f.lead}{f.function}({f.arguments})\n\x7b\n"

def functionFooter (returnValue : String := "CNN_OK") : String :=
  (if returnValue ≠ "void" then s!"\n  return {returnValue};\n" else "") ++ "\x7d\n\n"

def resultBuffer (width : Int) : Except Failure String :=
  if width = 32 then .ok "static int32_t ml_data[CNN_NUM_OUTPUTS];\n"
  else if width = 0 then .error .divisionByZero
  else
    let n := Int.fdiv 32 width
    .ok s!"static int32_t ml_data32[(CNN_NUM_OUTPUTS + {n - 1}) / {n}];\n"

def resultName (width : Int) : String := if width = 32 then "ml_data" else "ml_data32"

def softmaxLayer (o : Options) (width shift : Int) : Script Unit := do
  Script.main "// Classification layer:\n"
  match resultBuffer width with
  | .ok s => Script.main s
  | .error e => throw e
  Script.main "static q15_t ml_softmax[CNN_NUM_OUTPUTS];\n\n"
  Script.main (functionHeader o { lead := "", function := "softmax_layer", returnType := "void" })
  Script.main s!"  cnn_unload((uint32_t *) {resultName width});\n"
  if width = 32 then
    if shift = 0 then
      Script.main
        "  softmax_q17p14_q15((const q31_t *) ml_data, CNN_NUM_OUTPUTS, ml_softmax);\n"
    else
      Script.main ("  softmax_shift_q17p14_q15((q31_t *) ml_data, "
        ++ s!"CNN_NUM_OUTPUTS, {shift}, ml_softmax);\n")
  else
    Script.main "  arm_softmax_q7_q15((const q7_t *) ml_data32, CNN_NUM_OUTPUTS, ml_softmax);\n"
  Script.main (functionFooter "void")

def selectClock (source divider : String) (comment : String := "") : String :=
  (if comment ≠ "" then s!"  // {comment}\n" else "")
  ++ (if source = "ITO" then
    "  while ((MXC_GCR->ito_ctrl & MXC_F_GCR_ITO_CTRL_RDY) != MXC_F_GCR_ITO_CTRL_RDY) ;\n" else "")
  ++ "  MXC_GCR->pclkdiv = (MXC_GCR->pclkdiv & "
  ++ "~(MXC_F_GCR_PCLKDIV_CNNCLKDIV | MXC_F_GCR_PCLKDIV_CNNCLKSEL))\n"
  ++ s!"                     | MXC_S_GCR_PCLKDIV_CNNCLKDIV_{divider} | "
  ++ s!"MXC_S_GCR_PCLKDIV_CNNCLKSEL_{source};\n"

def defineArray (sink : Option Sink) (name format : String) (columns : Int) (items : List Int) :
    Run Unit := do
  let f ← Run.orFail .value (ItemFormat.read? format)
  let out ← Run.orFail .property sink
  if columns = 0 && items.length > 1 then throw .divisionByZero
  Run.emit out (arrayDefine name f columns.natAbs items)

end CnnForge.CSource
