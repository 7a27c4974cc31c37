import CnnForge.CommandLine.Parse
import CnnForge.Options.Named
import CnnForge.Session

namespace CnnForge.CommandLine

namespace Arguments

def get (args : Arguments) (name : String) : Value := (List.lookup name args).getD .null

def isSet (args : Arguments) (name : String) : Bool := (get args name).truth

def readInts? (base : Nat) (separator : String) (v : Value) : Option (List Int) := do
  (← v.text?).splitOn separator |>.mapM (Text.readInt? base)

end Arguments

open Arguments

def listOf (ns : List Int) : Value := .list (ns.map .int)

def readList (args : Arguments) (name : String) (base : Nat) (separator : String)
    (count : Option Nat) (message : String) : Except Failure Arguments :=
  match get args name with
  | .null => .ok args
  | v =>
    match readInts? base separator v with
    | some ns =>
      if count.all (· = ns.length) then .ok (setArgument args name (listOf ns))
      else .error (.refused message)
    | none => .error (.refused message)

def fillIn (args : Arguments) (name : String) (v : Value) : Arguments :=
  if get args name matches .null then setArgument args name v else args

def complete (args : Arguments) : Except Failure Arguments := do
  let args := if isSet args "rtl_preload" then setArgument args "embedded_code" (.bool false) else args
  let args :=
    if isSet args "c_filename" then args
    else
      let name := if isSet args "embedded_code" then "main" else "test"
      setArgument args "c_filename" (.text name)
  let args := fillIn (fillIn args "log" (.bool true)) "unload" (.bool true)
  let args ← readList args "no_bias" 10 "," none
    "ERROR: Argument `--no-bias` must be a comma-separated list of integers only"
  let args := fillIn args "no_bias" (.list [])
  let args ← readList args "clock_trim" 0 "," (some 3)
    ("ERROR: Argument `--clock-trim` must be a comma-separated list of three hexadecimal values "
      ++ "(use 0 to ignore a value)")
  let args ← readList args "boost" 0 "." (some 2) "ERROR: Argument `--boost` must be a port.pin"
  let args ← readList args "streaming_layers" 0 "," none
    "ERROR: Argument `--streaming-layers` must be a comma-separated list of integers only"
  let args :=
    if (get args "top_level").text? == some "None" then setArgument args "top_level" .null else args
  let args := fillIn args "riscv_flash" (get args "riscv")
  return fillIn args "riscv_cache" (get args "riscv")

def programName : String := "ai8xize.py"

def readArguments (words : List String) : Run Arguments := do
  match parse words with
  | .error .help => throw (.exit 0)
  | .error (.error message) =>
    let line := s!"{programName}: error: {message}\n"
    Run.diagnose line line
    throw (.exit 2)
  | .ok args =>
    let args ← Run.lift (complete args)
    if isSet args "allow_streaming" then Run.warn "`--allow-streaming` is unsupported."
    return args

def sameNames : List String :=
  ["allow_streaming", "api_filename", "avg_pool_rounding", "board_name", "boost", "c_filename",
   "calcx4", "clock_trim", "compact_weights", "debug", "debug_computation", "debug_latency",
   "debug_new_streaming", "debug_snoop", "embedded_code", "ext_rdy", "fast_fifo",
   "fast_fifo_quad", "fifo", "fifo_go", "fixed_input", "forever", "generate_kat",
   "greedy_kernel_allocator", "ignore_bias_groups", "increase_delta1", "increase_delta2",
   "increase_start", "init_tram", "input_csv", "input_csv_format", "input_csv_period",
   "input_csv_retrace", "input_fifo", "input_filename", "input_pix_clk", "input_sync",
   "kernel_format", "legacy_kernels", "legacy_test", "link_layer", "log", "log_filename",
   "log_intermediate", "log_pooling", "max_count", "mexpress", "mlator", "mlator_noverify",
   "no_error_stop", "output_filename", "override_delta1", "override_delta2",
   "override_rollover", "override_start", "overwrite", "overwrite_ok", "pipeline", "pll",
   "powerdown", "prefix", "pretend_zero_sram", "repeat_layers", "reshape_inputs",
   "result_filename", "result_numpy", "result_output", "riscv", "riscv_cache", "riscv_debug",
   "riscv_exclusive", "riscv_flash", "rtl_preload", "runtest_filename", "sample_filename",
   "simple1b", "slow_load", "softmax", "start_layer", "synthesize_input", "synthesize_words",
   "test_dir", "timeout", "timer", "unload", "verbose", "verbose_all", "verify_kernels",
   "verify_writes", "weight_filename", "weight_start", "wfi", "zero_sram", "zero_unused"]

def otherNames : List (String × String) :=
  [("base_directory", "test_dir"), ("debug_wait", "debugwait"), ("measure_energy", "energy"),
   ("mlator_chunk", "unroll_mlator"), ("narrow_chunk", "unroll_8bit"), ("oneshot", "one_shot"),
   ("sleep", "deepsleep"), ("split", "input_split"), ("stopstart", "stop_start"),
   ("wide_chunk", "unroll_wide"), ("write_zero_regs", "write_zero_registers")]

def settings (args : Arguments) : List (String × Value) :=
  let compactData := isSet args "compact_data" && !isSet args "rtl_preload"
  (if isSet args "apb_base" then [("apb_base", get args "apb_base")] else [])
    ++ [("block_mode", .bool !(isSet args "top_level")), ("compact_data", .bool compactData)]
    ++ (sameNames.map fun n => (n, get args n))
    ++ otherNames.map fun (n, a) => (n, get args a)

def initialValue (name : String) : Value :=
  if name == "calcx4" then .list [] else (({} : Options).get? name).getD .null

def changedSettings (args : Arguments) : List (String × Value) :=
  (settings args).filter fun (n, v) => !v.same (initialValue n)

def apply (args : Arguments) : Run Unit :=
  Run.modifyOptions fun o => (settings args).foldl (fun o (n, v) => o.set n v) o

end CnnForge.CommandLine
