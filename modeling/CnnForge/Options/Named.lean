import CnnForge.Options
import CnnForge.Text.Numeral
import CnnForge.Value.Shown

namespace CnnForge.Options

structure Entry where
  name : String
  get : Options → Value
  set : Value → Options → Options

namespace Entry

def flag (name : String) (get : Options → Bool) (set : Options → Bool → Options) : Entry :=
  ⟨name, fun o => .bool (get o), fun v o => set o v.truth⟩

def integer (name : String) (get : Options → Int) (set : Options → Int → Options) : Entry :=
  ⟨name, fun o => .int (get o), fun v o => set o (v.int?.getD 0)⟩

def count (name : String) (get : Options → Nat) (set : Options → Nat → Options) : Entry :=
  ⟨name, fun o => .int (get o), fun v o => set o (v.int?.getD 0).toNat⟩

def text (name : String) (get : Options → String) (set : Options → String → Options) : Entry :=
  ⟨name, fun o => .text (get o), fun v o => set o (v.text?.getD "")⟩

def shown (name : String) (get : Options → String) (set : Options → String → Options) : Entry :=
  ⟨name, fun o => ((Text.readInt? 10 (get o)).map .int).getD (.text (get o)), fun v o => set o v.shown⟩

def optInteger (name : String) (get : Options → Option Int) (set : Options → Option Int → Options) :
    Entry :=
  ⟨name, fun o => ((get o).map Value.int).getD .null, fun v o => set o v.int?⟩

def optText (name : String) (get : Options → Option String)
    (set : Options → Option String → Options) : Entry :=
  ⟨name, fun o => ((get o).map Value.text).getD .null, fun v o => set o v.text?⟩

def optFlag (name : String) (get : Options → Option Bool) (set : Options → Option Bool → Options) :
    Entry :=
  ⟨name, fun o => ((get o).map Value.bool).getD .null, fun v o => set o v.bool?⟩

end Entry

open Entry

def boostEntry : Entry :=
  ⟨"boost", fun o => (o.boost.map fun p => Value.list [.int p.port, .int p.pin]).getD .null,
   fun v o => { o with boost := match v.ints? with
      | some [a, b] => some ⟨a, b⟩
      | _ => none }⟩

def clockTrimEntry : Entry :=
  ⟨"clock_trim",
   fun o => (o.clockTrim.map fun t =>
     Value.list [.int t.hirc8m, .int t.hirc, .int t.hirc96m]).getD .null,
   fun v o => { o with clockTrim := match v.ints? with
      | some [a, b, c] => some ⟨a, b, c⟩
      | _ => none }⟩

def entries : List Entry :=
  [boostEntry, clockTrimEntry,
   flag "allow_streaming" (·.allowStreaming) fun o x => { o with allowStreaming := x },
   integer "apb_base" (·.apbBase) fun o x => { o with apbBase := x },
   text "api_filename" (·.apiFile) fun o x => { o with apiFile := x },
   flag "avg_pool_rounding" (·.roundAverage) fun o x => { o with roundAverage := x },
   text "base_directory" (·.baseFolder) fun o x => { o with baseFolder := x },
   flag "block_mode" (·.blockMode) fun o x => { o with blockMode := x },
   text "board_name" (·.boardName) fun o x => { o with boardName := x },
   text "c_filename" (·.cFile) fun o x => { o with cFile := x },
   flag "compact_data" (·.compactData) fun o x => { o with compactData := x },
   flag "compact_weights" (·.compactWeights) fun o x => { o with compactWeights := x },
   flag "debug" (·.debug) fun o x => { o with debug := x },
   flag "debug_computation" (·.debugComputation) fun o x => { o with debugComputation := x },
   flag "debug_latency" (·.debugLatency) fun o x => { o with debugLatency := x },
   flag "debug_new_streaming" (·.debugNewStreaming) fun o x => { o with debugNewStreaming := x },
   flag "debug_snoop" (·.debugSnoop) fun o x => { o with debugSnoop := x },
   integer "debug_wait" (·.debugWait) fun o x => { o with debugWait := x },
   flag "embedded_code" (·.embeddedCode) fun o x => { o with embeddedCode := x },
   flag "ext_rdy" (·.externalReady) fun o x => { o with externalReady := x },
   flag "fast_fifo" (·.fastFifo) fun o x => { o with fastFifo := x },
   flag "fast_fifo_quad" (·.fastFifoQuad) fun o x => { o with fastFifoQuad := x },
   flag "fifo" (·.fifo) fun o x => { o with fifo := x },
   flag "fifo_go" (·.fifoGo) fun o x => { o with fifoGo := x },
   integer "final_layer" (·.finalLayer) fun o x => { o with finalLayer := x },
   count "first_layer_used" (·.firstLayer) fun o x => { o with firstLayer := x },
   flag "fixed_input" (·.fixedInput) fun o x => { o with fixedInput := x },
   flag "forever" (·.forever) fun o x => { o with forever := x },
   flag "generate_kat" (·.generateKat) fun o x => { o with generateKat := x },
   flag "greedy_kernel_allocator" (·.greedyKernels) fun o x => { o with greedyKernels := x },
   flag "ignore_bias_groups" (·.ignoreBiasGroups) fun o x => { o with ignoreBiasGroups := x },
   integer "increase_delta1" (·.increaseDelta1) fun o x => { o with increaseDelta1 := x },
   integer "increase_delta2" (·.increaseDelta2) fun o x => { o with increaseDelta2 := x },
   integer "increase_start" (·.increaseStart) fun o x => { o with increaseStart := x },
   flag "init_tram" (·.initTram) fun o x => { o with initTram := x },
   optText "input_csv" (·.inputCsv) fun o x => { o with inputCsv := x },
   integer "input_csv_format" (·.inputCsvFormat) fun o x => { o with inputCsvFormat := x },
   shown "input_csv_period" (·.inputCsvPeriod) fun o x => { o with inputCsvPeriod := x },
   integer "input_csv_retrace" (·.inputCsvRetrace) fun o x => { o with inputCsvRetrace := x },
   flag "input_fifo" (·.inputFifo) fun o x => { o with inputFifo := x },
   text "input_filename" (·.inputFile) fun o x => { o with inputFile := x },
   shown "input_pix_clk" (·.inputPixelClock) fun o x => { o with inputPixelClock := x },
   flag "input_sync" (·.inputSync) fun o x => { o with inputSync := x },
   text "kernel_format" (·.kernelFormat) fun o x => { o with kernelFormat := x },
   flag "legacy_kernels" (·.legacyKernels) fun o x => { o with legacyKernels := x },
   flag "legacy_test" (·.legacyTest) fun o x => { o with legacyTest := x },
   flag "link_layer" (·.linkLayer) fun o x => { o with linkLayer := x },
   flag "log" (·.log) fun o x => { o with log := x },
   text "log_filename" (·.logFile) fun o x => { o with logFile := x },
   flag "log_intermediate" (·.logIntermediate) fun o x => { o with logIntermediate := x },
   flag "log_pooling" (·.logPooling) fun o x => { o with logPooling := x },
   optInteger "max_count" (·.maxCount) fun o x => { o with maxCount := x },
   flag "measure_energy" (·.measureEnergy) fun o x => { o with measureEnergy := x },
   flag "mexpress" (·.expressWeights) fun o x => { o with expressWeights := x },
   flag "mlator" (·.mlator) fun o x => { o with mlator := x },
   integer "mlator_chunk" (·.mlatorChunk) fun o x => { o with mlatorChunk := x },
   flag "mlator_noverify" (·.mlatorNoVerify) fun o x => { o with mlatorNoVerify := x },
   integer "narrow_chunk" (·.narrowChunk) fun o x => { o with narrowChunk := x },
   flag "no_error_stop" (·.noErrorStop) fun o x => { o with noErrorStop := x },
   integer "oneshot" (·.oneShot) fun o x => { o with oneShot := x },
   text "output_filename" (·.outputFile) fun o x => { o with outputFile := x },
   optInteger "override_delta1" (·.overrideDelta1) fun o x => { o with overrideDelta1 := x },
   optInteger "override_delta2" (·.overrideDelta2) fun o x => { o with overrideDelta2 := x },
   optInteger "override_rollover" (·.overrideRollover) fun o x => { o with overrideRollover := x },
   optInteger "override_start" (·.overrideStart) fun o x => { o with overrideStart := x },
   flag "overwrite" (·.overwrite) fun o x => { o with overwrite := x },
   flag "overwrite_ok" (·.overwriteOk) fun o x => { o with overwriteOk := x },
   optFlag "pipeline" (·.pipeline) fun o x => { o with pipeline := x },
   optFlag "pll" (·.pll) fun o x => { o with pll := x },
   flag "powerdown" (·.powerDown) fun o x => { o with powerDown := x },
   text "prefix" (·.testPrefix) fun o x => { o with testPrefix := x },
   flag "pretend_zero_sram" (·.pretendZeroSram) fun o x => { o with pretendZeroSram := x },
   count "repeat_layers" (·.repeatLayers) fun o x => { o with repeatLayers := x },
   flag "reshape_inputs" (·.reshapeInputs) fun o x => { o with reshapeInputs := x },
   text "result_filename" (·.resultFile) fun o x => { o with resultFile := x },
   optText "result_numpy" (·.resultNumpy) fun o x => { o with resultNumpy := x },
   flag "result_output" (·.resultOutput) fun o x => { o with resultOutput := x },
   flag "riscv" (·.riscv) fun o x => { o with riscv := x },
   flag "riscv_cache" (·.riscvCache) fun o x => { o with riscvCache := x },
   flag "riscv_debug" (·.riscvDebug) fun o x => { o with riscvDebug := x },
   flag "riscv_exclusive" (·.riscvExclusive) fun o x => { o with riscvExclusive := x },
   flag "riscv_flash" (·.riscvFlash) fun o x => { o with riscvFlash := x },
   flag "rtl_preload" (·.rtlPreload) fun o x => { o with rtlPreload := x },
   text "runtest_filename" (·.runTestFile) fun o x => { o with runTestFile := x },
   text "sample_filename" (·.sampleFile) fun o x => { o with sampleFile := x },
   flag "simple1b" (·.simple1b) fun o x => { o with simple1b := x },
   flag "sleep" (·.sleep) fun o x => { o with sleep := x },
   integer "slow_load" (·.slowLoad) fun o x => { o with slowLoad := x },
   flag "softmax" (·.softmax) fun o x => { o with softmax := x },
   integer "split" (·.split) fun o x => { o with split := x },
   count "start_layer" (·.startLayer) fun o x => { o with startLayer := x },
   flag "stopstart" (·.stopStart) fun o x => { o with stopStart := x },
   optInteger "synthesize_input" (·.synthesizeInput) fun o x => { o with synthesizeInput := x },
   integer "synthesize_words" (·.synthesizeWords) fun o x => { o with synthesizeWords := x },
   text "test_dir" (·.testFolder) fun o x => { o with testFolder := x },
   optInteger "timeout" (·.timeout) fun o x => { o with timeout := x },
   optInteger "timer" (·.timer) fun o x => { o with timer := x },
   flag "unload" (·.unload) fun o x => { o with unload := x },
   flag "verbose" (·.verbose) fun o x => { o with verbose := x },
   flag "verbose_all" (·.verboseAll) fun o x => { o with verboseAll := x },
   flag "verify_kernels" (·.verifyKernels) fun o x => { o with verifyKernels := x },
   flag "verify_writes" (·.verifyWrites) fun o x => { o with verifyWrites := x },
   text "weight_filename" (·.weightFile) fun o x => { o with weightFile := x },
   integer "weight_start" (·.weightStart) fun o x => { o with weightStart := x },
   flag "wfi" (·.waitForInterrupt) fun o x => { o with waitForInterrupt := x },
   integer "wide_chunk" (·.wideChunk) fun o x => { o with wideChunk := x },
   flag "write_zero_regs" (·.writeZeroRegisters) fun o x => { o with writeZeroRegisters := x },
   flag "zero_sram" (·.zeroSram) fun o x => { o with zeroSram := x },
   flag "zero_unused" (·.zeroUnused) fun o x => { o with zeroUnused := x }]

/-- Sets the option called `name`; an unknown name changes nothing. -/
def set (o : Options) (name : String) (v : Value) : Options :=
  match entries.find? (·.name = name) with
  | some e => e.set v o
  | none => o

def get? (o : Options) (name : String) : Option Value :=
  (entries.find? (·.name = name)).map (·.get o)

end CnnForge.Options
