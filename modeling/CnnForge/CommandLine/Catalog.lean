import CnnForge.CommandLine.Option

namespace CnnForge.CommandLine

open OptionSpec

def OptionSpec.within (o : OptionSpec) (group : Nat) : OptionSpec := { o with exclusive := some group }

def OptionSpec.named (o : OptionSpec) (target : String) : OptionSpec := { o with target }

def OptionSpec.needed (o : OptionSpec) : OptionSpec := { o with required := true }

def deviceGroup : Nat := 0

def deviceOptions : List OptionSpec :=
  [{ names := ["-h", "--help"], target := "", action := .help },
   { names := ["--ai85"], target := "device", action := .constant (.int 85)
     exclusive := some deviceGroup },
   { names := ["--device"], target := "device", action := .store .device
     exclusive := some deviceGroup },
   flag ["--avg-pool-rounding"],
   flag ["--simple1b"]]

def embeddedOptions : List OptionSpec :=
  [({ flag ["-e", "--embedded-code"] with default := .bool true } : OptionSpec).within 1,
   (off ["--rtl", "--rtl-sim"] "embedded_code").within 1,
   (flag ["--rtl-preload"]).within 1,
   (openFlag ["--pipeline"]).within 2,
   (off ["--no-pipeline"] "pipeline").within 2,
   (openFlag ["--pll"]).within 3,
   (off ["--no-pll"] "pll").within 3,
   (text ["--config-file"]).needed,
   text ["--checkpoint-file"],
   text ["--board-name"] (.text "EvKit_V1"),
   flag ["--display-checkpoint"],
   (text ["--prefix"]).needed,
   integer ["--debugwait"] (.int 2)]

def codeOptions : List OptionSpec :=
  [flag ["--overwrite"],
   flag ["--compact-data"],
   flag ["--compact-weights"],
   flag ["--mexpress"],
   flag ["--mlator"],
   integer ["--unroll-mlator"] (.int 8),
   integer ["--unroll-8bit"] (.int 1),
   integer ["--unroll-wide"] (.int 8),
   flag ["--softmax"],
   openFlag ["--unload"],
   off ["--no-unload"] "unload",
   off ["--no-kat"] "generate_kat",
   text ["--boost"],
   integer ["--start-layer"] (.int 0),
   off ["--no-wfi"] "wfi",
   (integer ["--timer"]).within 4,
   (flag ["--energy"]).within 4,
   off ["--no-greedy-kernel"] "greedy_kernel_allocator"]

def fileOptions : List OptionSpec :=
  [text ["--c-filename"],
   text ["--api-filename"] (.text "cnn.c"),
   text ["--weight-filename"] (.text "weights.h"),
   text ["--sample-filename"] (.text "sampledata.h"),
   text ["--sample-input"],
   (text ["--sample-output-filename"] (.text "sampleoutput.h")).named "result_filename",
   (text ["--sample-numpy-filename"]).named "result_numpy"]

def fifoOptions : List OptionSpec :=
  [flag ["--fifo"],
   flag ["--fast-fifo"],
   flag ["--fast-fifo-quad"],
   flag ["--fifo-go"],
   integer ["--slow-load"] (.int 0),
   { flag ["--debug-new-streaming"] with default := .bool true }]

def riscvOptions : List OptionSpec :=
  [flag ["--riscv"],
   (openFlag ["--riscv-flash"]).within 5,
   (off ["--no-riscv-flash"] "riscv_flash").within 5,
   (openFlag ["--riscv-cache"]).within 6,
   (off ["--no-riscv-cache"] "riscv_cache").within 6,
   flag ["--riscv-debug"],
   flag ["--riscv-exclusive"]]

def debugOptions : List OptionSpec :=
  [flag ["-v", "--verbose"],
   openFlag ["-L", "--log"],
   off ["--no-log"] "log",
   flag ["--log-intermediate"],
   flag ["--log-pooling"],
   off ["--log-last-only", "--verbose-all"] "verbose_all",
   text ["--log-filename"] (.text "log.txt"),
   flag ["-D", "--debug"],
   flag ["--debug-computation"],
   flag ["--debug-latency"],
   flag ["--no-error-stop"],
   integer ["--stop-after"],
   flag ["--stop-start"],
   flag ["--one-shot"],
   integer ["--repeat-layers"] (.int 1),
   text ["--clock-trim"],
   flag ["--fixed-input"],
   flag ["--reshape-inputs"],
   flag ["--forever"],
   flag ["--link-layer"],
   (flag ["--read-ahead"]).named "rd_ahead",
   flag ["--calcx4"],
   flag ["--ext-rdy"],
   integer ["--weight-start"] (.int 0),
   flag ["--ignore-bias-groups"],
   text ["--kernel-format"] (.text "\x7b0:4\x7d"),
   flag ["--debug-snoop"]]

def simulationOptions : List OptionSpec :=
  [text ["--input-csv"],
   { integer ["--input-csv-format"] (.int 888) with choices := some [555, 565, 888] },
   integer ["--input-csv-retrace"] (.int 5),
   text ["--input-csv-period"] (.int 80),
   text ["--input-pix-clk"] (.int 9),
   flag ["--input-sync"],
   flag ["--input-fifo"],
   text ["--autogen"] (.text "None"),
   text ["--autogen_list"] (.text "autogen_list"),
   text ["--input-filename"] (.text "input"),
   text ["--output-filename"] (.text "output"),
   text ["--runtest-filename"] (.text "run_test.sv"),
   flag ["--legacy-test"],
   flag ["--legacy-kernels"],
   (text ["--test-dir"]).needed,
   text ["--top-level"] (.text "cnn"),
   text ["--queue-name"] (.text "short"),
   integer ["--timeout"],
   flag ["--result-output"]]

def streamingOptions : List OptionSpec :=
  [(flag ["--overlap-data"]).named "overwrite_ok",
   anyBase ["--override-start"],
   anyBase ["--increase-start"] (.int 2),
   anyBase ["--override-rollover"],
   anyBase ["--override-delta1"],
   anyBase ["--increase-delta1"] (.int 0),
   anyBase ["--override-delta2"],
   anyBase ["--increase-delta2"] (.int 0),
   flag ["--ignore-streaming"],
   flag ["--allow-streaming"],
   text ["--no-bias"],
   text ["--streaming-layers"],
   flag ["--powerdown"],
   flag ["--deepsleep"]]

def hardwareOptions : List OptionSpec :=
  [integer ["--max-proc"],
   anyBase ["--input-offset"],
   flag ["--verify-writes"],
   flag ["--verify-kernels"],
   flag ["--mlator-noverify"],
   flag ["--write-zero-registers"],
   flag ["--init-tram"],
   flag ["--zero-sram"],
   flag ["--pretend-zero-sram"],
   flag ["--zero-unused"],
   anyBase ["--apb-base"],
   integer ["--ready-sel"],
   integer ["--ready-sel-fifo"],
   integer ["--ready-sel-aon"],
   { integer ["--input-split"] (.int 1) with
     choices := some ((List.range 1024).map fun (k : Nat) => (k : Int) + 1) },
   anyBase ["--synthesize-input"],
   integer ["--synthesize-words"] (.int 8),
   (integer ["--max-verify-length", "--max-checklines"]).named "max_count"]

def options : List OptionSpec :=
  deviceOptions ++ embeddedOptions ++ codeOptions ++ fileOptions ++ fifoOptions ++ riscvOptions
    ++ debugOptions ++ simulationOptions ++ streamingOptions ++ hardwareOptions

end CnnForge.CommandLine
