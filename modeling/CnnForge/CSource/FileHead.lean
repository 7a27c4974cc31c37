import CnnForge.CSource.Function

namespace CnnForge.CSource

def termsOfUse : String :=
  "/*******************************************************************************\n" ++
  "* Copyright (C) Maxim Integrated Products, Inc., All rights Reserved.\n" ++
  "*\n" ++
  "* This software is protected by copyright laws of the United States and\n" ++
  "* of foreign countries. This material may also be protected by patent laws\n" ++
  "* and technology transfer regulations of the United States and of foreign\n" ++
  "* countries. This software is furnished under a license agreement and/or a\n" ++
  "* nondisclosure agreement and may only be used or reproduced in accordance\n" ++
  "* with the terms of those agreements. Dissemination of this information to\n" ++
  "* any party or parties not specified in the license agreement and/or\n" ++
  "* nondisclosure agreement is expressly prohibited.\n" ++
  "*\n" ++
  "* The above copyright notice and this permission notice shall be included\n" ++
  "* in all copies or substantial portions of the Software.\n" ++
  "*\n" ++
  "* THE SOFTWARE IS PROVIDED \"AS IS\", WITHOUT WARRANTY OF ANY KIND, EXPRESS\n" ++
  "* OR IMPLIED, INCLUDING BUT NOT LIMITED TO THE WARRANTIES OF\n" ++
  "* MERCHANTABILITY, FITNESS FOR A PARTICULAR PURPOSE AND NONINFRINGEMENT.\n" ++
  "* IN NO EVENT SHALL MAXIM INTEGRATED BE LIABLE FOR ANY CLAIM, DAMAGES\n" ++
  "* OR OTHER LIABILITY, WHETHER IN AN ACTION OF CONTRACT, TORT OR OTHERWISE,\n" ++
  "* ARISING FROM, OUT OF OR IN CONNECTION WITH THE SOFTWARE OR THE USE OR\n" ++
  "* OTHER DEALINGS IN THE SOFTWARE.\n" ++
  "*\n" ++
  "* Except as contained in this notice, the name of Maxim Integrated\n" ++
  "* Products, Inc. shall not be used except as stated in the Maxim Integrated\n" ++
  "* Products, Inc. Branding Policy.\n" ++
  "*\n" ++
  "* The mere transfer of this software does not imply any licenses\n" ++
  "* of trade secrets, proprietary technology, copyrights, patents,\n" ++
  "* trademarks, maskwork rights, or any other form of intellectual\n" ++
  "* property whatsoever. Maxim Integrated Products, Inc. retains all\n" ++
  "* ownership rights.\n" ++
  "*******************************************************************************/\n\n"

structure HeadSettings where
  embedded : Bool := false
  resumption : Resumption := .never
  riscv : Option Bool := some false
  embeddedHost : Bool := false
  groups : Option (List Int) := none
  library : Option Bool := some false
  oneShot : Int := 0
deriving Repr, Inhabited

def registerCell (address : Int) : String := s!"*((volatile uint32_t *) 0x{Text.hex 8 address})"

def includes (names : List String) : String :=
  String.join (names.map fun n => s!"#include {n}\n")

def includeSection (o : Options) (d : Device) (h : HeadSettings) (mainCode inputCsv : Bool) :
    Script Unit := do
  let software := d.isSoftware
  let library := h.library == some true
  Script.main (includes ["<stdlib.h>", "<stdint.h>"])
  Script.mainIf (h.embedded || o.verifyKernels) (includes ["<string.h>"])
  Script.mainIf h.embedded (includes ["<stdio.h>"])
  if !software then
    if h.embedded || h.embeddedHost then
      Script.main (includes ["\"mxc.h\""])
      if h.library.isNone || library then
        Script.main (includes [if d.features.gcfr then "\"gcfr_regs.h\"" else "\"bbfc_regs.h\""])
      Script.mainIf (h.riscv.isSome && !library) (includes ["\"fcr_regs.h\"", "\"sema_regs.h\""])
    else
      if d.features.modernSimulation then
        Script.mainIf inputCsv (includes ["\"cameraif_regs.h\""])
        Script.main (includes ["\"mxc_device.h\"", "\"mxc_delay.h\"", "\"mxc_assert.h\"",
          "\"mxc_errors.h\"", "\"mxc_lock.h\"", "\"mxc_pins.h\"", "\"mxc_sys.h\"",
          "\"nvic_table.h\""])
      Script.main "#include \"global_functions.h\" // For RTL Simulation\n"
  Script.mainIf inputCsv
    "#include \"pcif_defines_af2.h\"\n#define NUM_DATA_WORDS 4\n#include \"pcif.c\"\n"
  Script.mainIf h.embedded (includes ["\"cnn.h\""])
  if mainCode then
    Script.mainIf ((library || h.library.isNone) && (h.embedded || o.compactWeights))
      s!"#include \"{o.weightFile}\"\n"
    if !library && (h.embedded || o.compactData) then
      Script.main s!"#include \"{o.sampleFile}\"\n"
      Script.mainIf (!software && o.generateKat && o.resultFile.toLower ≠ "none")
        s!"#include \"{o.resultFile}\"\n"
  Script.main "\n"

def failFunction (o : Options) : Script Unit := do
  Script.main (functionHeader o { lead := "", function := "fail", returnType := "void" })
  Script.mainIf o.forever
    ("  mxc_gpio_cfg_t gpio_out;\n  gpio_out.port = MXC_GPIO2;\n"
      ++ "  gpio_out.mask = MXC_GPIO_PIN_4;\n  gpio_out.pad = MXC_GPIO_PAD_NONE;\n"
      ++ "  gpio_out.func = MXC_GPIO_FUNC_OUT;\n  MXC_GPIO_Config(&gpio_out);\n"
      ++ "  MXC_GPIO_OutSet(gpio_out.port, gpio_out.mask);\n\n")
  Script.main "  printf(\"\\n*** FAIL ***\\n\\n\");\n  while (1);\n"
  Script.main (functionFooter "void")

def completionHandler (o : Options) (d : Device) (h : HeadSettings) : Script Unit := do
  let second := h.riscv == some true
  Script.main (functionHeader o
    (if second then
      { lead := "", function := "CNN_IRQHandler",
        returnType := "void __attribute__((interrupt(\"machine\")))" }
    else { lead := "", function := "CNN_ISR", returnType := "void" }))
  Script.main "  // Acknowledge interrupt to all groups\n"
  let some groups := h.groups | throw .kind
  for group in groups do
    let a := d.apbBase + d.controlAddress group d.controlReg.control
    if h.oneShot > 0 && !d.features.needsOneShotClear then
      Script.main s!"  {registerCell a} &= ~(1<<12);\n"
    else Script.main s!"  {registerCell a} &= ~((1<<12) | 1);\n"
  Script.main "\n"
  Script.mainIf (h.embedded && !o.measureEnergy)
    "  CNN_COMPLETE; // Signal that processing is complete\n"
  Script.main ("#ifdef CNN_INFERENCE_TIMER\n  cnn_time = MXC_TMR_SW_Stop(CNN_INFERENCE_TIMER);\n"
    ++ "#else\n  cnn_time = 1;\n#endif\n")
  Script.mainIf second
    "\n  NVIC_ClearPendingIRQ(CNN_IRQn);\n  NVIC_ClearPendingEVENT(CNN_IRQn);\n"
  Script.main (functionFooter "void")

def resumeFunctions (o : Options) (d : Device) (h : HeadSettings) : Script Unit := do
  match h.resumption with
  | .never => pure ()
  | .undecided => throw .kind
  | .group g =>
    let cell := registerCell (o.apbBase + d.controlAddress g d.controlReg.control)
    Script.main (functionHeader o { function := "continue" })
    Script.main s!"  cnn_time = 0;\n\n  {cell} |= 1; // Re-enable group {g}\n"
    Script.main functionFooter
    Script.main (functionHeader o { function := "stop" })
    Script.main s!"  {cell} &= ~1; // Disable group {g}\n"
    Script.main functionFooter

def fileHead (o : Options) (d : Device) (h : HeadSettings) : Script Unit := do
  let software := d.isSoftware
  let library := h.library == some true
  let mainCode := h.riscv ≠ some false || software
  let inputCsv := o.inputCsv.isSome && mainCode
  includeSection o d h mainCode inputCsv
  Script.mainIf (!(h.embedded || h.embeddedHost)) "#define CNN_FAIL 0\n#define CNN_OK 1\n\n"
  Script.mainIf (!library && h.embeddedHost)
    "extern volatile void const *__FlashStart_; // Defined in linker file\n\n"
  if !library && !software && mainCode then
    Script.mainIf (h.embedded || d.features.modernSimulation)
      "volatile uint32_t cnn_time; // Stopwatch\n\n"
    if h.embedded then failFunction o
  if (h.library.isNone || library) && !software && mainCode then
    if h.embedded || d.features.modernSimulation then completionHandler o d h
    else
      Script.main (functionHeader o { function := "wait", returnType := "void" })
      Script.main (s!"  while (({registerCell (o.apbBase + d.cnnBase)} & (1<<12)) != 1<<12) ;\n")
      Script.main (functionFooter "void")
  if h.library.isNone || library then resumeFunctions o d h

end CnnForge.CSource
