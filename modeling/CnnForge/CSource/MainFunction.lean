import CnnForge.CSource.Function

namespace CnnForge.CSource

attribute [local instance (2000)] instPowNat

structure MainSettings where
  library : Bool := false
  unload : Bool := false
  embedded : Bool := false
  riscv : Option Bool := none
  channels : Option Int := none
  outputWidth : Int := 8
  embeddedHost : Bool := false
  groups : Option (List Int) := none
  forever : Bool := false
  fifo : Bool := false
  bias : Bool := false
  loadKernels : Bool := true
  oneShot : Int := 0
deriving Repr, Inhabited

namespace MainSettings

def runsNetwork (m : MainSettings) : Bool := m.riscv ≠ some false

def setsUp (m : MainSettings) : Bool := m.riscv ≠ some true

def second (m : MainSettings) : Bool := m.riscv == some true

def wrapper (m : MainSettings) : Bool := m.riscv == some false

def onChip (m : MainSettings) : Bool := m.embedded || m.embeddedHost

def split (m : MainSettings) : Bool := m.embedded && m.library

end MainSettings

def waitLoop (second : Bool) (indent : String) : String :=
  (if second then "" else s!"{indent}SCB->SCR &= ~SCB_SCR_SLEEPDEEP_Msk; // SLEEPDEEP=0\n")
  ++ s!"{indent}while (cnn_time == 0)\n"
  ++ (if second then s!"{indent}  asm volatile(\"wfi\"); // Wait for CNN\n"
      else s!"{indent}  __WFI(); // Wait for CNN\n")

def clockTrimStatements (t : ClockTrim) : Script Unit := do
  Script.main ("  // Manual clock trim override:\n"
    ++ "  *((volatile uint32_t *) 0x40000c00) = 1; // Set TME\n")
  if t.hirc8m ≠ 0 || t.hirc ≠ 0 then
    Script.main "  trim = *((volatile uint32_t *) 0x40005420);\n"
    Script.mainIf (t.hirc8m ≠ 0) ("  trim &= ~0xffff;\n"
      ++ s!"  trim |= 0x{Text.hex 0 t.hirc8m}; // HIRC8M (7.3728 MHz) trim\n")
    Script.mainIf (t.hirc ≠ 0) ("  trim &= ~(0x1ff << 22);\n"
      ++ s!"  trim |= 0x{Text.hex 0 t.hirc} << 22; // HIRC (60 MHz) trim\n")
    Script.main "  *((volatile uint32_t *) 0x40005420) = trim;\n"
  Script.mainIf (t.hirc96m ≠ 0)
    ("  trim = *((volatile uint32_t *) 0x40005440) & ~(0x1ff << 15);\n"
      ++ "  *((volatile uint32_t *) 0x40005440) = trim | (0xff << 15); // HILIM\n"
      ++ s!"  *((volatile uint32_t *) 0x40006c04) = 0x{Text.hex 0 t.hirc96m}; "
      ++ "// HIRC96M (100 MHz) trim\n")
  Script.main "  *((volatile uint32_t *) 0x40000c00) = 0; // Clear TME\n\n"

structure PowerMask where
  used : Nat
  unused : Nat
deriving Repr, Inhabited

def PowerMask.ofGroups (groups : List Int) (all : Nat) : PowerMask :=
  let used := groups.foldl (fun m g => m ||| 1 <<< g.toNat) 0
  ⟨used, (2 ^ all - 1) - ((2 ^ all - 1) &&& used)⟩

def powerUp (unit : String) (p : PowerMask) : String :=
  s!"  MXC_{unit}->reg3 = 0xf; // Reset\n"
  ++ s!"  MXC_{unit}->reg1 = 0x{Text.hex 1 p.used}; // Mask memory\n"
  ++ s!"  MXC_{unit}->reg0 = 0x{Text.hex 1 p.used}; // Power\n"
  ++ s!"  MXC_{unit}->reg2 = 0x{Text.hex 1 p.unused}; // Iso\n"
  ++ s!"  MXC_{unit}->reg3 = 0x0; // Reset\n\n"

def chipClocks (o : Options) (d : Device) : Script Unit := do
  Script.main "  MXC_ICC_Enable(MXC_ICC0); // Enable cache\n\n"
  if let some t := o.clockTrim then clockTrimStatements t
  Script.main (s!"  // Switch to {d.ipoSpeed} MHz clock\n"
    ++ "  MXC_SYS_Clock_Select(MXC_SYS_CLOCK_IPO);\n")
  Script.mainIf (o.pll == some true)
    "  MXC_GCR->ito_ctrl |= MXC_F_GCR_ITO_CTRL_EN; // Enable PLL (ITO)\n"
  Script.main "  SystemCoreClockUpdate();\n"

def simulationClocks (o : Options) (d : Device) (unit : String) (p : PowerMask) : Script Unit := do
  Script.main ("  icache_enable();\n\n"
    ++ "  *((volatile uint32_t *) 0x40000c00) = 0x00000001; // Set TME\n"
    ++ "  *((volatile uint32_t *) 0x40006c04) = 0x000001a0; // 96M trim\n"
    ++ "  *((volatile uint32_t *) 0x40000c00) = 0x00000000; // Clear TME\n\n")
  if d.features.gcfr && d.features.modernSimulation then
    Script.main ("  MXC_GCR->clkctrl |= MXC_F_GCR_CLKCTRL_IPO_EN;"
      ++ " // Enable internal primary osc (IPO)\n")
    Script.mainIf (o.pll == some true)
      "  MXC_GCR->ito_ctrl |= MXC_F_GCR_ITO_CTRL_EN; // Enable PLL (ITO)\n"
    Script.main ("  while ((MXC_GCR->clkctrl & MXC_F_GCR_CLKCTRL_IPO_RDY) == 0) ; // Wait for osc\n"
      ++ "  MXC_GCR->clkctrl |= MXC_S_GCR_CLKCTRL_SYSCLK_SEL_IPO; // Select osc\n")
  else
    Script.main ("  MXC_GCR->clkcn |= MXC_F_GCR_CLKCN_HIRC96M_EN; // Enable 96M\n"
      ++ "  while ((MXC_GCR->clkcn & MXC_F_GCR_CLKCN_HIRC96M_RDY) == 0) ; // Wait for 96M\n"
      ++ "  MXC_GCR->clkcn |= MXC_S_GCR_CLKCN_CLKSEL_HIRC96; // Select 96M\n")
    Script.mainIf (!d.features.modernSimulation)
      ("\n  // Reset all domains, restore power to CNN\n" ++ powerUp unit p
        ++ "  MXC_GCR->pckdiv = 0x00010000; // CNN clock 96M div 2\n"
        ++ "  MXC_GCR->perckcn &= ~0x2000000; // Enable CNN clock\n")

def startSecondCore (o : Options) (d : Device) (m : MainSettings) : Script Unit := do
  let modern := d.features.modernSimulation
  if o.riscvCache then
    if m.onChip then
      Script.main ("\n  MXC_FCR->urvbootaddr = (uint32_t) &__FlashStart_; "
        ++ "// Set RISC-V boot address\n")
    else if modern then
      Script.main (s!"  MXC_FCR->urvbootaddr = 0x{Text.hex 8 secondCoreOrigin}; "
        ++ "// Set RISC-V boot address\n")
    else
      Script.main (s!"  MXC_NBBFC->reg4 = 0x{Text.hex 8 secondCoreOrigin}; "
        ++ "// Set RISC-V boot address\n")
  else
    Script.mainIf modern (s!"  MXC_FCR->urvbootaddr = 0x{Text.hex 8 d.riscvSramOrigin}; "
      ++ "// Set RISC-V boot address\n")
  if o.riscvExclusive then
    if m.onChip || modern then
      Script.main ("  MXC_FCR->urvctrl |= 0x00000001; // Exclusive SRAM access for RISC-V\n")
    else
      Script.main ("  *((volatile uint32_t *) 0x40000814) |= 0x00000001; "
        ++ "// Exclusive SRAM access for RISC-V (MXC_NBBFC->reg5)\n")
  if m.onChip || modern then
    Script.main ("  MXC_SYS_ClockEnable(MXC_SYS_PERIPH_CLOCK_SMPHR); // Enable Sempahore clock\n"
      ++ "  NVIC_SetVector(RISCV_IRQn, WakeISR); // Set wakeup ISR\n")
    Script.mainIf (m.onChip && o.debugWait ≠ 0)
      ("\n  // DO NOT DELETE THIS LINE:\n"
        ++ s!"  MXC_Delay(SEC({o.debugWait})); // Let debugger interrupt if needed\n\n")
    Script.main "  MXC_SYS_ClockEnable(MXC_SYS_PERIPH_CLOCK_CPU1); // Enable RISC-V clock\n"
  else
    Script.main "  MXC_GCR->perckcn1 &= ~MXC_F_GCR_PERCKCN1_CPU1; // Enable RISC-V clock\n"

def chipSetup (o : Options) (d : Device) (m : MainSettings) (unit : String) (p : PowerMask) :
    Script Unit := do
  if m.setsUp then
    if m.onChip then chipClocks o d else simulationClocks o d unit p
    if m.riscv.isSome then startSecondCore o d m
    else
      Script.mainIf (m.onChip && o.debugWait ≠ 0)
        ("\n  printf(\"Waiting...\\n\");\n\n  // DO NOT DELETE THIS LINE:\n"
          ++ s!"  MXC_Delay(SEC({o.debugWait})); // Let debugger interrupt if needed\n")
    Script.main "\n"
  else if m.second then
    Script.mainIf (o.riscvDebug && m.embedded) "  Debug_Init(); // Set up RISCV JTAG\n"
    if o.riscvCache then
      if m.embedded then Script.main "  MXC_ICC_Enable(MXC_ICC1); // Enable cache\n\n"
      else Script.main "  icache1_enable();\n  invalidate_icache1();\n\n"

def cameraSetup (o : Options) (d : Device) (m : MainSettings) : Script Unit := do
  Script.main ("  enable_pcif_clock(); // Enable camera clock\n"
    ++ "  set_pcif_gpio_altf();\n\n")
  let (mode, format) :=
    if o.inputCsvFormat = 555 then ("10", "555")
    else if o.inputCsvFormat = 565 then ("12", "565")
    else ("8", "888")
  Script.main s!"  // Enable {format} format single image in external timing mode\n"
  if d.features.modernSimulation then
    Script.main ("  MXC_PCIF->ctrl = MXC_S_CAMERAIF_CTRL_READ_MODE_SINGLE_IMG +\n"
      ++ s!"                   MXC_S_CAMERAIF_CTRL_DATA_WIDTH_{mode}BIT +\n"
      ++ "                   MXC_F_CAMERAIF_CTRL_PCIF_SYS")
    Script.main (if m.channels = some 3 then
      " +\n                   MXC_F_CAMERAIF_CTRL_THREE_CH_EN;\n\n" else ";\n\n")
  else
    Script.main ("  MXC_CAMERAIF0->ctrl = MXC_S_CAMERAIF_CTRL_READ_MODE_SINGLE_IMG +\n"
      ++ s!"                        MXC_S_CAMERAIF_CTRL_DATA_WIDTH_{mode}BIT +\n"
      ++ "                        MXC_S_CAMERAIF_CTRL_DS_TIMING_EN_DIS +\n"
      ++ "                        MXC_S_CAMERAIF_CTRL_PCIF_SYS_EN_EN")
    Script.main (if m.channels = some 3 then
      " +\n                        (1<<30);\n\n" else ";\n\n")

def basePowerMeasurement (m : MainSettings) : Script Unit := do
  Script.main ("  cnn_disable(); // Disable clock and power to CNN\n"
    ++ "  // Enable primary clock\n  MXC_SYS_ClockSourceEnable(MXC_SYS_CLOCK_IPO);\n\n"
    ++ "  printf(\"Measuring system base power...\\n\");\n  SYS_START;\n")
  Script.main (if m.second then "  MXC_TMR_Delay(MXC_TMR0, 1000000);\n"
    else "  MXC_Delay(SEC(1));\n")
  Script.main "  SYS_COMPLETE;\n"

def acceleratorEnable (o : Options) (d : Device) (m : MainSettings) (unit : String)
    (p : PowerMask) : Script Unit := do
  let pll := o.pll == some true
  if m.split then
    let speed := if pll then d.pllSpeed else d.apbSpeed
    let source := if pll then "ITO" else "PCLK"
    Script.main ("  // Enable peripheral, enable CNN interrupt, turn on CNN clock\n"
      ++ s!"  // CNN clock: {speed} MHz div 1\n"
      ++ s!"  cnn_enable(MXC_S_GCR_PCLKDIV_CNNCLKSEL_{source}, MXC_S_GCR_PCLKDIV_CNNCLKDIV_DIV1);\n")
    Script.put .library (functionHeader o
      { function := "enable", arguments := "uint32_t clock_source, uint32_t clock_divider" })
  Script.put .library ("  // Reset all domains, restore power to CNN\n" ++ powerUp unit p)
  if m.split then
    Script.putIf d.features.pll .library
      ("  if (clock_source == MXC_S_GCR_PCLKDIV_CNNCLKSEL_ITO)\n  "
        ++ "  while ((MXC_GCR->ito_ctrl & MXC_F_GCR_ITO_CTRL_RDY) != "
        ++ "MXC_F_GCR_ITO_CTRL_RDY) ; // Wait for PLL\n")
    Script.put .library ("  MXC_GCR->pclkdiv = (MXC_GCR->pclkdiv & "
      ++ "~(MXC_F_GCR_PCLKDIV_CNNCLKDIV | MXC_F_GCR_PCLKDIV_CNNCLKSEL))\n"
      ++ "                     | clock_divider | clock_source;\n")
  else Script.put .library (selectClock "PCLK" "DIV1" "CNN clock: APB div 1")
  Script.put .library
    "  MXC_SYS_ClockEnable(MXC_SYS_PERIPH_CLOCK_CNN); // Enable CNN clock\n\n"
  Script.put .library (if m.second then
      "  // Set CNN complete vector\n  __enable_irq();\n  NVIC_EnableIRQ(CNN_IRQn);\n"
        ++ "  NVIC_EnableEVENT(CNN_IRQn);\n"
    else "  NVIC_SetVector(CNN_IRQn, CNN_ISR); // Set CNN complete vector\n")
  if m.split then
    Script.put .library functionFooter
    Script.put .library (functionHeader o
      { function := "boost_enable", arguments := "mxc_gpio_regs_t *port, uint32_t pin" })

def pinOutput : String :=
  "  gpio_out.pad = MXC_GPIO_PAD_NONE;\n  gpio_out.func = MXC_GPIO_FUNC_OUT;\n"
    ++ "  MXC_GPIO_Config(&gpio_out);\n  MXC_GPIO_OutSet(gpio_out.port, gpio_out.mask);\n"

def boostEnable (o : Options) (m : MainSettings) : Script Unit := do
  if o.boost.isSome || m.library then
    if let some b := o.boost then
      Script.mainIf (!m.library) s!"\n  // Configure P{b.port}.{b.pin}, turn on the CNN Boost\n"
    Script.put .library "  mxc_gpio_cfg_t gpio_out;\n"
    match o.boost, m.library with
    | some b, false =>
      Script.main s!"  gpio_out.port = MXC_GPIO{b.port};\n  gpio_out.mask = MXC_GPIO_PIN_{b.pin};\n"
    | boost, _ =>
      Script.put .library "  gpio_out.port = port;\n  gpio_out.mask = pin;\n"
      if let some b := boost then
        Script.main (s!"  cnn_boost_enable(MXC_GPIO{b.port}, "
          ++ s!"MXC_GPIO_PIN_{b.pin}); // Turn on the boost circuit\n")
    Script.put .library pinOutput

def embeddedSteps (o : Options) (m : MainSettings) : Script Unit := do
  Script.main ("  printf(\"\\n*** CNN Inference Test ***\\n\");\n\n"
    ++ "  cnn_init(); // Bring state machine into consistent state\n")
  if o.measureEnergy then
    Script.mainIf (o.pll == some true)
      (selectClock "ITO" "DIV1" "Switch CNN clock to PLL (ITO)")
    Script.main ("\n  printf(\"Measuring weight loading...\\n\");\n  CNN_START;\n"
      ++ "  for (i = 0; i < 100; i++)\n    cnn_load_weights(); // Load kernels\n"
      ++ "  CNN_COMPLETE;\n\n  printf(\"Measuring input loading...\\n\");\n"
      ++ "  MXC_TMR_Delay(MXC_TMR0, 500000);\n  CNN_START;\n  for (i = 0; i < 100; i++)\n"
      ++ "    load_input(); // Load data input\n  CNN_COMPLETE;\n\n")
  else Script.main "  cnn_load_weights(); // Load kernels\n"
  Script.mainIf o.verifyKernels "  if (cnn_verify_weights() != CNN_OK) fail();\n"
  Script.main (if m.bias then "  cnn_load_bias();\n"
    else "  cnn_load_bias(); // Not used in this network\n")
  Script.main "  cnn_configure(); // Configure state machine\n"
  if !o.measureEnergy then
    Script.mainIf (!m.fifo) "  load_input(); // Load data input\n"
    Script.main "  cnn_start(); // Start CNN processing\n"
    Script.mainIf m.fifo "  load_input(); // Load data input via FIFO\n"
  Script.main "\n"

def simulationSteps (o : Options) (m : MainSettings) : Script Unit := do
  Script.main "  cnn_init(); // Bring state machine into consistent state\n"
  Script.main (if m.loadKernels then "  cnn_load_weights(); // Load kernels\n"
    else "  // Kernels are pre-loaded\n")
  Script.mainIf o.verifyKernels
    "  if (cnn_verify_weights() != CNN_OK) \x7b fail(); pass(); return 0; \x7d\n"
  Script.main (if m.bias then "  cnn_load_bias();\n" else "  // No bias values\n")
  Script.main "  if (cnn_configure() != CNN_OK) \x7b fail(); pass(); return 0; \x7d\n"

def awaitNetwork (o : Options) (d : Device) (m : MainSettings) : Script Unit := do
  if o.measureEnergy then
    Script.main ("  printf(\"Measuring input load + inference...\\n\");\n"
      ++ "  MXC_TMR_Delay(MXC_TMR0, 500000);\n"
      ++ "  CNN_START; // Allow capture of processing time\n  for (i = 0; i < 100; i++) \x7b\n")
    Script.mainIf (!m.fifo) "    load_input(); // Load data input\n"
    Script.main "    cnn_start(); // Run inference\n"
    Script.mainIf m.fifo "    load_input(); // Load data input via FIFO\n"
    Script.main (waitLoop m.second "    ")
    Script.main "  \x7d\n  CNN_COMPLETE;\n\n"
  else if m.embedded || d.features.modernSimulation then
    if o.waitForInterrupt then Script.main (waitLoop m.second "  " ++ "\n")
    else Script.main "  while (cnn_time == 0); // Spin wait\n"
  else Script.main "  cnn_wait();\n\n"

def awaitInLoop (d : Device) (m : MainSettings) : Script Unit :=
  if m.embedded || d.features.modernSimulation then Script.main (waitLoop m.second "    ")
  else Script.main "    cnn_wait();\n"

def boostDisable (o : Options) (m : MainSettings) : Script Unit := do
  if m.split then
    Script.put .library (functionHeader o
      { function := "boost_disable", arguments := "mxc_gpio_regs_t *port, uint32_t pin" })
    Script.put .library ("  mxc_gpio_cfg_t gpio_out;\n  gpio_out.port = port;\n"
      ++ "  gpio_out.mask = pin;\n" ++ pinOutput)
    Script.put .library functionFooter
  if let some b := o.boost then
    if !m.forever then
      Script.main (if m.library then
          s!"  cnn_boost_disable(MXC_GPIO{b.port}, MXC_GPIO_PIN_{b.pin}); "
            ++ "// Turn off the boost circuit\n\n"
        else "  // Turn off the CNN Boost\n  MXC_GPIO_OutClr(gpio_out.port, gpio_out.mask);\n\n")

def resultSteps (o : Options) (m : MainSettings) (unload : Bool) : Script Unit := do
  Script.mainIf o.generateKat "  if (check_output() != CNN_OK) fail();\n"
  if o.softmax then Script.main "  softmax_layer();\n"
  else Script.mainIf unload s!"  cnn_unload((uint32_t *) {resultName m.outputWidth});\n"
  if m.embedded then
    let loading := if m.fifo then "data loading and " else ""
    Script.main ("\n  printf(\"\\n*** PASS ***\\n\\n\");\n\n#ifdef CNN_INFERENCE_TIMER\n"
      ++ s!"  printf(\"Approximate {loading}inference time: %u us\\n\\n\", cnn_time);\n"
      ++ "#endif\n\n")
    Script.mainIf o.measureEnergy
      "  printf(\"See monitor display for inference energy.\\n\\n\");\n\n"

def acceleratorDisable (o : Options) (d : Device) (m : MainSettings) (unit : String) :
    Script Unit := do
  if m.split then
    Script.main "  cnn_disable(); // Shut down CNN clock, disable peripheral\n\n"
    Script.put .library (functionHeader o { function := "disable" })
  Script.putIf (m.embedded || d.features.modernSimulation) .library
    "  // Disable CNN clock\n  MXC_SYS_ClockDisable(MXC_SYS_PERIPH_CLOCK_CNN);\n\n"
  Script.put .library ("  // Disable power to CNN\n"
    ++ s!"  MXC_{unit}->reg3 = 0xf; // Reset\n  MXC_{unit}->reg2 = 0xf; // Iso\n"
    ++ s!"  MXC_{unit}->reg0 = 0x0; // Power\n  MXC_{unit}->reg1 = 0x0; // Mask memory\n"
    ++ s!"  MXC_{unit}->reg3 = 0x0; // Reset\n")
  Script.putIf m.split .library functionFooter

def finalSteps (o : Options) (d : Device) (m : MainSettings) : Script Unit := do
  if m.forever then
    Script.main ("  printf(\"Starting endless loop...\\n\");\n\n  LED_On(1);\n\n"
      ++ "  while(1) \x7b\n    cnn_start();\n")
    awaitInLoop d m
    Script.main "  \x7d\n"
  else
    Script.mainIf o.softmax
      ("  printf(\"Classification results:\\n\");\n"
        ++ "  for (i = 0; i < CNN_NUM_OUTPUTS; i++) \x7b\n"
        ++ "    digs = (1000 * ml_softmax[i] + 0x4000) >> 15;\n    tens = digs % 10;\n"
        ++ "    digs = digs / 10;\n"
        ++ "    printf(\"[%7d] -> Class %d: %d.%d%%\\n\", ml_data[i], i, digs, tens);\n  \x7d\n")

def networkSteps (o : Options) (d : Device) (m : MainSettings) (unit : String) (p : PowerMask)
    (unload : Bool) : Script Unit := do
  if m.embedded || d.features.modernSimulation then
    if o.measureEnergy then basePowerMeasurement m
    acceleratorEnable o d m unit p
    boostEnable o m
    Script.putIf m.split .library functionFooter
    Script.main "\n"
  if m.embedded then embeddedSteps o m else simulationSteps o m
  Script.mainIf o.stopStart "\n  cnn_stop();\n  cnn_continue();\n\n"
  awaitNetwork o d m
  if m.oneShot > 0 then
    Script.main s!"  for (i = 0; i < {m.oneShot}; i++) \x7b\n    cnn_continue();\n"
    awaitInLoop d m
    Script.main "  \x7d\n\n"
  Script.mainIf (o.pll == some true)
    (selectClock "PCLK" "DIV1" "Switch CNN clock and disable PLL"
      ++ "  MXC_GCR->ito_ctrl &= ~MXC_F_GCR_ITO_CTRL_EN;\n\n")
  boostDisable o m
  resultSteps o m unload
  if !m.forever then acceleratorDisable o d m unit
  finalSteps o d m

def coreHandshake (o : Options) (d : Device) (m : MainSettings) : Script Unit := do
  if m.wrapper then
    if o.sleep then
      Script.mainIf d.features.needsSemaphoreWake
        "  MXC_PWRSEQ->lppwen |= 0x400; // CPU1WKEN=1\n"
      Script.main ((if m.embedded then "  MXC_LP_ClearWakeStatus();\n"
          else "  _MXC_LP_ClearWakeStatus();\n")
        ++ "  SCB->SCR |= SCB_SCR_SLEEPDEEP_Msk; // SLEEPDEEP=1\n")
    Script.main (if o.waitForInterrupt then "  __WFI(); // Let RISC-V run\n"
      else "  riscv_done = 0;\n  while (riscv_done == 0); // Let RISC-V run\n")
  else if m.second then
    Script.mainIf (m.embedded || d.features.modernSimulation)
      ("\n  // Signal the Cortex-M4\n"
        ++ "  MXC_SEMA->irq0 = MXC_F_SEMA_IRQ0_EN | MXC_F_SEMA_IRQ0_CM4_IRQ;\n")

def mainSupport (o : Options) (d : Device) (m : MainSettings) (unload : Bool) : Script Unit := do
  if unload && !o.softmax then
    match resultBuffer m.outputWidth with
    | .ok s => Script.main s
    | .error e => throw e
    Script.main "\n"
  if m.wrapper && (m.embeddedHost || d.features.modernSimulation) then
    Script.mainIf (!o.waitForInterrupt) "static volatile int riscv_done;\n\n"
    Script.main (functionHeader o { lead := "", function := "WakeISR", returnType := "void" })
    Script.main "  MXC_SEMA->irq0 = MXC_F_SEMA_IRQ0_EN & ~MXC_F_SEMA_IRQ0_CM4_IRQ;\n"
    Script.mainIf (!o.waitForInterrupt) "  riscv_done = 1;\n"
    Script.main (functionFooter "void")
  if m.wrapper && o.sleep && !m.embedded then
    Script.main (functionHeader o
      { lead := "", function := "_MXC_LP_ClearWakeStatus", returnType := "void" })
    Script.main ("  /* Write 1 to clear */\n  MXC_PWRSEQ->lpwkst0 = 0xFFFFFFFF;\n"
      ++ "  MXC_PWRSEQ->lpwkst1 = 0xFFFFFFFF;\n  MXC_PWRSEQ->lppwst  = 0xFFFFFFFF;\n")
    Script.main (functionFooter "void")

def mainVariables (o : Options) (m : MainSettings) : Script Unit := do
  Script.mainIf (o.clockTrim.isSome && !m.second) "  uint32_t trim;\n"
  Script.mainIf (m.embedded && o.softmax || m.oneShot > 0 || o.measureEnergy) "  int i;\n"
  if m.embedded && !m.forever && o.softmax then
    Script.main "  int digs, tens;\n"
    Script.mainIf (m.outputWidth ≠ 32)
      s!"int{m.outputWidth}_t *ml_data = (int{m.outputWidth}_t *) ml_data32;\n"
  Script.mainIf (m.embedded && o.softmax || m.oneShot > 0) "\n"

def mainFunction (o : Options) (d : Device) (m : MainSettings) : Script Unit := do
  let unload := m.unload && o.unload
  let some groups := m.groups | throw (.check "")
  let p := PowerMask.ofGroups groups d.groupsAll
  mainSupport o d m unload
  Script.main (functionHeader o { lead := "", function := "main" })
  mainVariables o m
  let unit :=
    if !m.onChip && !d.features.modernSimulation || !d.features.gcfr then "BBFC" else "GCFR"
  chipSetup o d m unit p
  if o.inputCsv.isSome && m.runsNetwork then cameraSetup o d m
  if m.runsNetwork then networkSteps o d m unit p unload
  coreHandshake o d m
  Script.mainIf (!m.embedded && !m.embeddedHost) "\n  pass();"
  Script.main (functionFooter "0")

end CnnForge.CSource
