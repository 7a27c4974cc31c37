import CnnForge.Session

namespace CnnForge.Testbench

def tenths (n : Int) : String :=
  (if n < 0 then "-" else "") ++ s!"{n.natAbs / 10}.{n.natAbs % 10}"

def blockText (o : Options) (timeout : Int) : String :=
  "// Check default register values.\n// Write all registers.\n"
  ++ "// Make sure only writable bits will change.\nint     inp1;\nstring  fn;\n\n"
  ++ (if timeout ≠ 0 then s!"defparam REPEAT_TIMEOUT = {timeout};\n\n" else "")
  ++ "initial begin\n  //----------------------------------------------------------------\n"
  ++ "  // Initialize the CNN\n"
  ++ "  //----------------------------------------------------------------\n  #200000;\n"
  ++ s!"  fn = \x7b`TARGET_DIR,\"/{o.inputFile}.mem\"\x7d;\n"
  ++ "  inp1=$fopen(fn, \"r\");\n  if (inp1 == 0) begin\n"
  ++ "    $display(\"ERROR : CAN NOT OPEN THE FILE\");\n  end\n  else begin\n"
  ++ "    write_cnn(inp1);\n    $fclose(inp1);\n  end\nend\n\ninitial begin\n  #1;\n"
  ++ "  error_count = 0;\n  @(posedge rstn);\n  #5000;     // for invalidate done\n"
  ++ "  -> StartTest;\nend\n"

def programText (d : Device) (o : Options) (timeout : Int) (riscv : Bool) : String :=
  s!"// {o.runTestFile}\n`define ARM_PROG_SOURCE {o.cFile}.c\n"
  ++ (if riscv then s!"`define RISCV_PROG_SOURCE {o.cFile}_riscv.c\n`define MULTI_CPU_SETUP\n" else "")
  ++ (if timeout ≠ 0 then
      s!"// Timeout: {timeout} ms\ndefparam REPEAT_TIMEOUT = {tenths timeout};\n" else "")
  ++ (if riscv then
      "\nevent ev_load_riscv_flash_image;\ninitial begin\n    @(por_done);\n"
      ++ "    $display(\"Loading RISC-V FLASH main array image %s at %0t\", FLASH_IMAGE, $time);\n"
      ++ "    $readmemh(\x7b`TARGET_DIR,\"/RISCV_PROG_flash.prog\"\x7d, `FLASH.main_mem, 32'h0000, "
      ++ s!"32'h{Text.hexUpper 4 (d.flashSize + 0x3ff)});\n"
      ++ "    ->ev_load_riscv_flash_image;\n    #1;\nend\n" else "")
  ++ (if d.features.modernSimulation then
      "\n`ifdef gate_sims\n"
      ++ "  `define CNN_ENA  `DIGITAL_TOP.xuut1.x16proc_0__xproc_xuut.xcnn_fsm2.cnnena\n"
      ++ "  `define CNN_CLK  `DIGITAL_TOP.xuut1.x16proc_0__xproc_xuut.clk\n`else\n"
      ++ "  `define CNN_ENA  `DIGITAL_TOP.xuut1.x16proc[0].xproc.xuut.cnnena\n"
      ++ "  `define CNN_CLK  `DIGITAL_TOP.xuut1.x16proc[0].xproc.xuut.clk\n`endif\n\n"
    else
      "\n`define CNN_ENA  tb.xchip.xuut1.x16proc[0].xproc.xuut.cnnena\n"
      ++ "`define CNN_CLK  tb.xchip.xuut1.x16proc[0].xproc.xuut.clk\n\n")

def cyclesText (o : Options) : String :=
  "real  start_time;\nreal  end_time;\nreal  clk1_time;\nreal  clk2_time;\nlogic start_ena;\n"
  ++ "logic clkena1;\nlogic clkena2;\n"
  ++ (if o.resultOutput then "int   chk_stat;\n" else "")
  ++ "logic chk_clk;\n\ninitial begin\n"
  ++ (if o.resultOutput then "   open_files;\n   chk_stat   = 0;\n" else "")
  ++ "   start_time = 0;\n   end_time   = 0;\n   clk1_time  = 0;\n   clk2_time  = 0;\n"
  ++ "   start_ena  = 0;\n   clkena1    = 0;\n   clkena2    = 0;\nend\n\n"
  ++ "always @(posedge `CNN_ENA) begin\n  if (!start_ena) begin\n"
  ++ (if o.rtlPreload then
      "    load_cnn_mems_0;\n    load_cnn_mems_1;\n    load_cnn_mems_2;\n    load_cnn_mems_3;\n" else "")
  ++ "    start_time  = $realtime;\n    start_ena   = 1;\n    $display(\"CNN enabled\");\n"
  ++ "  end\nend\n\nassign #10 chk_clk = `CNN_ENA;\n\nalways @(negedge chk_clk) begin\n"
  ++ "  if (start_ena) begin\n    end_time  = $realtime;\n    clkena1   = 1;\n"
  ++ (if o.resultOutput then
      "    dump_cnn_mems_0;\n    dump_cnn_mems_1;\n    dump_cnn_mems_2;\n    dump_cnn_mems_3;\n"
      ++ "    close_files;\n"
      ++ "    chk_stat = $system(\x7b`TARGET_DIR,\"/verify-output.py \",`TARGET_DIR\x7d);\n"
      ++ "    if (chk_stat != 0)\n      error_count++;\n" else "")
  ++ "  end\nend\n\nalways @(posedge `CNN_CLK) begin\n  if (clkena1) begin\n"
  ++ "    clk1_time = $realtime;\n    clkena1   = 0;\n    clkena2   = 1;\n"
  ++ "  end else if (clkena2) begin\n    clk2_time = $realtime;\n    clkena2   = 0;\n"
  ++ "    $display(\"CNN Cycles = %.0f\", $ceil((end_time - start_time)/(clk2_time - clk1_time)));\n"
  ++ "  end\nend\n"

def cameraSignals (file : String) : String :=
  s!"\n`define CSV_FILE \x7b`TARGET_DIR,\"/{file}\"\x7d\n"
  ++ "`include \"pcif_defines_af2.sv\"\n`define NO_FLASH_MODEL\n\ninteger input_file;\n"
  ++ "string  null_string;\nlogic [7:0] data;\n\nint count;\n\nlogic old_pixclk_val;\n"
  ++ "logic pixclk_val;\nlogic hsync_val;\nlogic vsync_val;\nlogic [11:0] data_val;\n\n"
  ++ "assign `PCIF_PIXCLK  = pixclk_val;\nassign `PCIF_HSYNC   = hsync_val;\n"
  ++ "assign `PCIF_VSYNC   = vsync_val;\nassign `PCIF_DATA_11 = data_val[11];\n"
  ++ "assign `PCIF_DATA_10 = data_val[10];\nassign `PCIF_DATA_9  = data_val[9];\n"
  ++ "assign `PCIF_DATA_8  = data_val[8];\nassign `PCIF_DATA_7  = data_val[7];\n"
  ++ "assign `PCIF_DATA_6  = data_val[6];\nassign `PCIF_DATA_5  = data_val[5];\n"
  ++ "assign `PCIF_DATA_4  = data_val[4];\nassign `PCIF_DATA_3  = data_val[3];\n"
  ++ "assign `PCIF_DATA_2  = data_val[2];\nassign `PCIF_DATA_1  = data_val[1];\n"
  ++ "assign `PCIF_DATA_0  = data_val[0];\n"

def readSignals : String :=
  "      $fscanf(input_file, \"%H,%H,%H,%H\", vsync_val, hsync_val, pixclk_val, data_val);\n"

def cameraClock (d : Device) (o : Options) : String :=
  let modern := d.features.modernSimulation
  s!"\nparameter pclk_ai_per_pix = {o.inputPixelClock};\n\n"
  ++ (if modern then "`define PCLK_AI  `DIGITAL_TOP.pclk_ai\n" else "logic        pclk_ai;\n")
  ++ "logic        clk_pix;\nlogic        start_io;\nlogic        end_of_file;\n"
  ++ "integer      clk_pix_i;\n\n"
  ++ (if modern then "always @(posedge `PCLK_AI) begin\n"
    else "assign pclk_ai = tb.xchip.pclk_ai;\n\nalways @(posedge pclk_ai) begin\n")
  ++ "  if (clk_pix_i == pclk_ai_per_pix)\n    clk_pix_i = 0;\n  else\n"
  ++ "    clk_pix_i = clk_pix_i + 1;\nend\n\nassign clk_pix = clk_pix_i == pclk_ai_per_pix;\n\n"
  ++ "always @(posedge clk_pix) begin\n  if (start_io) begin\n"
  ++ "    if (!$feof(input_file)) begin\n" ++ readSignals
  ++ "    end else begin\n      end_of_file = 1;\n      start_io    = 0;\n    end\n  end\nend\n"

def cameraText (d : Device) (o : Options) (file : String) : String :=
  cameraSignals file
  ++ (if o.inputSync then cameraClock d o else "")
  ++ "\ninitial begin\n  old_pixclk_val = 0;\n  pixclk_val = 0;\n  hsync_val = 0;\n"
  ++ "  vsync_val = 0;\n  data_val = '0;\n  input_file = $fopen(`CSV_FILE, \"r\");\n"
  ++ (if o.inputSync then "\n  start_io    = 0;\n  end_of_file = 0;\n  clk_pix_i   = 0;\n" else "")
  ++ "\n  if (!input_file)\n    begin\n    $display(\"Error opening %s\", `CSV_FILE);\n"
  ++ "    $finish;\n  end\n\n  @(posedge sim.trig[0]);\n\n  $fgets(null_string, input_file);\n"
  ++ "  $display(\"Reading camera image from %s\", `CSV_FILE);\n"
  ++ (if o.inputSync then
      "\n  start_io = 1;\n  while (!end_of_file) begin\n    count++;\n    #200ns;\n  end\n"
    else
      "\n  while (!$feof(input_file))\n    begin\n      count++;\n" ++ readSignals
      ++ s!"      #{o.inputCsvPeriod}ns;\n    end\n")
  ++ "\n  $fclose(input_file);\n  $display(\"Camera image data read\");\n\nend\n"

def text (d : Device) (o : Options) (timeout : Int) (riscv : Bool) : String :=
  if o.blockMode then blockText o timeout
  else
    programText d o timeout riscv ++ cyclesText o
      ++ (match o.inputCsv with
        | some file => cameraText d o file
        | none => "")

def create (name : String) (timeout : Option Int) (riscv : Bool := false) : Run Unit := do
  let d ← Run.device
  let o ← Run.options
  let path := joinPath (joinPath o.baseFolder name) o.runTestFile
  Run.createFile path
  Run.emit (.file path) (text d o (timeout.getD 0) riscv)

def regressionEntry (topLevel : Option String) (name queue : String) : String :=
  match topLevel with
  | none | some "" => s!"tests/{name}/run_test:{queue}"
  | some top => s!"tests/{top}/{name}/run_test:{queue}"

def occursIn (part text : String) : Bool := (text.splitOn part).length > 1

def addRegression (topLevel : Option String) (name queue folder : String)
    (list : String := "autogen_list") : Run Unit := do
  let path := joinPath folder list
  let entry := regressionEntry topLevel name queue
  let listed ← match (← get).files.read path with
    | .ok (.text s) => pure (occursIn entry s)
    | .ok (.tensors _) => throw .encoding
    | .error .fileMissing => pure false
    | .error e => throw e
  if !listed then
    let files ← Run.lift ((← get).files.openAppend path)
    modify fun s => { s with files := files.append path (entry ++ "\n") }

end CnnForge.Testbench
