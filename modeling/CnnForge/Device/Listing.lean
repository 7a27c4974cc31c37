import CnnForge.Device.Catalog
import CnnForge.Value

namespace CnnForge.Device

def commonConstants (d : Device) : List (String × Nat) :=
  [
    ("APB_BASE", d.apbBase), ("APB_SPEED", d.apbSpeed), ("BIAS_DIV", d.biasScale),
    ("C_GROUP_OFFS", d.groupSpacing), ("C_SRAM_BASE", d.dataBase),
    ("INSTANCE_COUNT", d.instanceCount), ("INSTANCE_SIZE", d.instanceSize),
    ("INSTANCE_WIDTH", d.instanceWidth), ("IPO_SPEED", d.ipoSpeed),
    ("MASK_INSTANCES", d.maskInstances), ("MASK_INSTANCES_EACH", d.maskInstancesEach),
    ("MASK_WIDTH_LARGE", d.maskWidthLarge), ("MASK_WIDTH_SMALL", d.maskWidthSmall),
    ("MAX_DILATION", d.maxDilation), ("MAX_LAYERS", d.maxLayers),
    ("MAX_POOL_DILATION", d.maxPoolDilation), ("MAX_POOL_PASSES", d.maxPoolPasses),
    ("MAX_PROC", d.maxProcessors), ("MAX_ROW_COL", d.maxRowCol), ("MEM_SIZE", d.memorySize),
    ("PLL_SPEED", d.pllSpeed), ("P_NUMGROUPS", d.groups), ("P_NUMPRO", d.groupSize),
    ("P_SHARED", d.shared)]

def acceleratorConstants (d : Device) : List (String × Nat) :=
  let r := d.layerReg
  let f := d.fields
  [
    ("ACTIVATION_BITS", 8), ("AON_CTL", d.controlReg.alwaysOn),
    ("AON_READY_SEL", d.controlReg.alwaysOnReadySelect), ("BIAS_SIZE", d.biasSize),
    ("BIST_BIAS_ERR", d.tests.bias.error), ("BIST_BIAS_EX", d.tests.bias.start),
    ("BIST_BIAS_WAIT", d.tests.bias.wait), ("BIST_DATA_ERR", d.tests.data.error),
    ("BIST_DATA_EX", d.tests.data.start), ("BIST_DATA_WAIT", d.tests.data.wait),
    ("BIST_MASK_ERR", d.tests.mask.error), ("BIST_MASK_EX", d.tests.mask.start),
    ("BIST_MASK_WAIT", d.tests.mask.wait), ("BIST_TRAM_ERR", d.tests.tram.error),
    ("BIST_TRAM_EX", d.tests.tram.start), ("BIST_TRAM_WAIT", d.tests.tram.wait),
    ("C_BRAM_BASE", d.biasBase), ("C_CNN", d.layerRegisterWords), ("C_CNN_BASE", d.cnnBase),
    ("C_FIFO_BASE", d.fifoBase), ("C_MRAM_BASE", d.maskBase), ("C_PAD", d.padCycles),
    ("C_START", d.startCycles), ("C_TRAM_BASE", d.tramBase), ("DEFAULT_WEIGHT_BITS", 8),
    ("FAST_FIFO_BASE", d.fastFifoBase), ("FAST_FIFO_CR", fastFifoControl), ("FAST_FIFO_DMA", 5),
    ("FAST_FIFO_DR", fastFifoData), ("FAST_FIFO_IE", fastFifoInterruptEnable),
    ("FAST_FIFO_IS", 3), ("FAST_FIFO_SR", fastFifoStatus), ("FIFO_CTL", fifoControl),
    ("FIFO_READY_SEL", d.controlReg.fifoReadySelect), ("FIFO_REG", fifoData),
    ("FIFO_STAT", fifoStatus), ("FLASH_SIZE", d.flashSize), ("FRAME_SIZE_MAX", d.frameSizeMax),
    ("INSTANCE_SHIFT", d.instanceShift), ("LREG_CCNT", r.columns), ("LREG_ENA", r.enable),
    ("LREG_FMAX", r.rollover), ("LREG_LCTL", r.control), ("LREG_LCTL2", r.control2),
    ("LREG_ONED", r.oneD), ("LREG_PCCNT", r.poolColumns), ("LREG_POST", r.post),
    ("LREG_PRCNT", r.poolRows), ("LREG_RCNT", r.rows), ("LREG_RPTR_BASE", r.readBase),
    ("LREG_STREAM1", r.stream1), ("LREG_STREAM2", r.stream2), ("LREG_STRIDE", r.stride),
    ("LREG_TPTR", r.tram), ("LREG_WPTR_BASE", r.writeBase), ("LREG_WPTR_CHOFFS", r.writeChannel),
    ("LREG_WPTR_MOFFS", r.writeMask), ("LREG_WPTR_TOFFS", r.writeSlot),
    ("MASK_OFFS", d.maskSpacing), ("MAX_CHANNELS", d.maxChannels), ("MAX_CNT_BITS", f.countBits),
    ("MAX_DSVAL2_BITS", f.streamDeltaBits), ("MAX_FBUF_BITS", f.rolloverBits),
    ("MAX_IFRM_BITS", f.frameBits), ("MAX_ISVAL_BITS", f.streamStartBits), ("MAX_LREG", r.last),
    ("MAX_PTR_BITS", f.pointerBits), ("MAX_START_LAYER", d.maxStartLayer),
    ("MAX_STREAM_LAYERS", d.maxStreamLayers), ("MAX_TPTR_BITS", f.tramBits),
    ("MAX_WPTRINC_BITS", f.pointerIncrementBits), ("PAD_CNT_OFFS", f.padCount),
    ("PIPELINE_READY_SEL", d.controlReg.pipelineReadySelect), ("P_NUMGROUPS_ALL", d.groupsAll),
    ("READY_SEL", d.controlReg.readySelect), ("REG_CTL", d.controlReg.control),
    ("REG_IFRM", d.controlReg.frame), ("REG_LCNT_MAX", d.controlReg.layerCount),
    ("REG_MLAT", d.controlReg.mlator), ("REG_SRAM", d.controlReg.sram),
    ("REG_SRAM_TEST", d.controlReg.sramTest), ("RISCV_SRAM_ORIGIN", d.riscvSramOrigin),
    ("TRAM_OFFS", d.tramSpacing), ("TRAM_SIZE", d.tramSize),
    ("WRITE_PTR_SHIFT", d.writePointerShift), ("XPCH_MAX_OFFS", f.crossChannel)]

def optionalConstants (d : Device) : List (String × Option Nat) :=
  let r := d.layerReg
  let f := d.fields
  [
    ("CNT_DIFF_OFFS", f.countDiff), ("CNT_INC_OFFS", f.countIncrement),
    ("CPRIME_MAX_OFFS", f.columnPrime), ("CTL_PIPELINE_OFFS", f.pipeline),
    ("LREG_MCNT", r.maskCount), ("LREG_MCNT1", r.maskCount1), ("LREG_MCNT2", r.maskCount2),
    ("LREG_NXTLYR", r.nextLayer), ("LREG_OCHAN", r.outChannels), ("LREG_OFFS", r.spacing),
    ("MAX_STREAM_LREG", r.lastStream), ("MIN_STREAM_LREG", r.firstStream),
    ("MP_STRIDE_OFFS", f.multiPassStride), ("RD_AHEAD_OFFS", f.readAhead),
    ("SHIFT_CNT_OFFS", f.shiftCount)]

def singleCountConstants (d : Device) : List (String × Nat) :=
  [("MCNT_MAX_OFFS", d.fields.maskMax), ("MCNT_SAD_OFFS", d.fields.maskStart)]

def doubleCountConstants (d : Device) : List (String × Nat) :=
  let f := d.fields
  [("BIST_ZERO_BOTH_EX", d.tests.clearAll), ("BIST_ZERO_EX", d.tests.clear),
    ("BIST_ZERO_WAIT", d.tests.clearWait), ("PAD_ENA_OFFS", f.padEnable), ("RPRIME_MAX_OFFS", f.rowPrime)]

def snoopConstants (d : Device) : List (String × Nat) :=
  match d.controlReg.snoop with
  | none => []
  | some first =>
    let names := ["A1", "A2", "D1", "D2", "X1", "X2", "C1", "C2", "ACC", "HIT", "MAX", "AM"]
    let unit (k : Nat) : List (String × Nat) := names.zipIdx.map fun (n, i) => (s!"REG_SNP{k + 1}_{n}", first + 12 * k + i)
    unit 0 ++ unit 1

def featureConstants (d : Device) : List (String × Bool) :=
  let x := d.features
  [
    ("EMULATE_ELTWISE_MP", x.emulatesMultiPassElementwise), ("MODERN_SIM", x.modernSimulation),
    ("REQUIRE_FIFO_CPL", x.needsFifoComplete), ("REQUIRE_NEW_STREAMING", x.needsNewStreaming),
    ("REQUIRE_ONESHOT_CLEAR", x.needsOneShotClear), ("REQUIRE_REG_CLEAR", x.needsRegisterClear),
    ("REQUIRE_SEMA_LPWKEN", x.needsSemaphoreWake),
    ("SUPPORT_ARBITRARY_OUTPUT_WIDTH", x.arbitraryOutputWidth),
    ("SUPPORT_ARBITRARY_PADDING", x.arbitraryPadding),
    ("SUPPORT_ARBITRARY_STRIDE", x.arbitraryStride), ("SUPPORT_BINARY_WEIGHTS", x.binaryWeights),
    ("SUPPORT_CALCX4", x.calcx4), ("SUPPORT_DEPTHWISE", x.depthwise),
    ("SUPPORT_FIFO_GO", x.fifoGo), ("SUPPORT_GCFR", x.gcfr),
    ("SUPPORT_KERNEL_BYPASS", x.kernelBypass), ("SUPPORT_LINK_LAYER", x.linkLayer),
    ("SUPPORT_MULTIPASS_STRIDE", x.multiPassStride), ("SUPPORT_PIPELINE", x.pipeline),
    ("SUPPORT_PLL", x.pll), ("SUPPORT_READ_AHEAD", x.readAhead), ("SUPPORT_SNOOP", x.snoop),
    ("SUPPORT_STREAM_BIAS", x.streamBias), ("SUPPORT_STREAM_NONPAD_FINAL", x.streamUnpaddedFinal),
    ("USE_PROCESSORS", x.usesProcessors)]

def generatorName (d : Device) : String := if d.isSoftware then "cmsisnn" else "max7800x"

def constants (d : Device) : List (String × Value) :=
  let numbers (xs : List (String × Nat)) := xs.map fun (n, v) => (n, Value.int v)
  let list (xs : List Int) := Value.list (xs.map .int)
  numbers (commonConstants d) ++ (featureConstants d).map (fun (n, v) => (n, Value.bool v))
    ++ [("backend", .text (generatorName d)), ("device", .int d.code), ("partnum", .text d.partNumber)]
    ++ if d.isSoftware then []
      else numbers (acceleratorConstants d)
        ++ (optionalConstants d).filterMap (fun (n, v) => v.map fun v => (n, Value.int v))
        ++ numbers (if d.layerReg.maskCount.isSome then singleCountConstants d
          else doubleCountConstants d)
        ++ numbers (snoopConstants d)
        ++ [("LREG_RFU", .null), ("SUPPORTED_X2D_PADS", list d.transposePads),
          ("SUPPORTED_X2D_OUTPUT_PADS", list d.transposeOutputPads)]

/-- The device with another value for a constant of its geometry; an unknown name changes nothing. -/
def withConstant (d : Device) (name : String) (n : Nat) : Device :=
  match name with
  | "APB_BASE" => { d with apbBase := n }
  | "BIAS_SIZE" => { d with biasSize := n }
  | "C_CNN_BASE" => { d with cnnBase := n }
  | "C_GROUP_OFFS" => { d with groupSpacing := n }
  | "C_SRAM_BASE" => { d with dataBase := n }
  | "INSTANCE_COUNT" => { d with instanceCount := n }
  | "INSTANCE_SIZE" => { d with instanceSize := n }
  | "INSTANCE_WIDTH" => { d with instanceWidth := n }
  | "MASK_WIDTH_LARGE" => { d with maskWidthLarge := n }
  | "MASK_WIDTH_SMALL" => { d with maskWidthSmall := n }
  | "MAX_LAYERS" => { d with maxLayers := n }
  | "MAX_PROC" => { d with maxProcessors := n }
  | "P_NUMGROUPS" => { d with groups := n }
  | "P_NUMPRO" => { d with groupSize := n }
  | "P_SHARED" => { d with shared := n }
  | "TRAM_SIZE" => { d with tramSize := n }
  | _ => d

end CnnForge.Device
