namespace CnnForge

structure Pin where
  port : Int
  pin : Int
deriving Repr, DecidableEq, Inhabited

structure ClockTrim where
  hirc8m : Int
  hirc : Int
  hirc96m : Int
deriving Repr, DecidableEq, Inhabited

structure Options where
  allowStreaming : Bool := false
  apbBase : Int := 0
  apiFile : String := ""
  roundAverage : Bool := false
  baseFolder : String := ""
  blockMode : Bool := false
  boardName : String := ""
  boost : Option Pin := none
  cFile : String := ""
  clockTrim : Option ClockTrim := none
  compactData : Bool := false
  compactWeights : Bool := false
  debugComputation : Bool := false
  debugLatency : Bool := false
  debugNewStreaming : Bool := false
  debugSnoop : Bool := false
  debugWait : Int := 1
  debug : Bool := false
  embeddedCode : Bool := false
  externalReady : Bool := false
  fastFifoQuad : Bool := false
  fastFifo : Bool := false
  fifoGo : Bool := false
  fifo : Bool := false
  finalLayer : Int := -1
  firstLayer : Nat := 0
  fixedInput : Bool := false
  forever : Bool := false
  generateKat : Bool := true
  greedyKernels : Bool := true
  ignoreBiasGroups : Bool := false
  increaseDelta1 : Int := 0
  increaseDelta2 : Int := 0
  increaseStart : Int := 0
  initTram : Bool := false
  inputCsvFormat : Int := 888
  inputCsvPeriod : String := "0"
  inputCsvRetrace : Int := 0
  inputCsv : Option String := none
  inputFifo : Bool := false
  inputFile : String := ""
  inputPixelClock : String := "0"
  inputSync : Bool := false
  kernelFormat : String := ""
  legacyKernels : Bool := false
  legacyTest : Bool := false
  linkLayer : Bool := false
  logFile : String := ""
  logIntermediate : Bool := false
  logPooling : Bool := false
  log : Bool := false
  maxCount : Option Int := none
  measureEnergy : Bool := false
  expressWeights : Bool := false
  mlatorChunk : Int := 0
  mlatorNoVerify : Bool := false
  mlator : Bool := false
  narrowChunk : Int := 0
  noErrorStop : Bool := false
  oneShot : Int := 0
  outputFile : String := ""
  overrideDelta1 : Option Int := none
  overrideDelta2 : Option Int := none
  overrideRollover : Option Int := none
  overrideStart : Option Int := none
  overwriteOk : Bool := false
  overwrite : Bool := false
  pipeline : Option Bool := some false
  pll : Option Bool := some false
  powerDown : Bool := false
  testPrefix : String := ""
  pretendZeroSram : Bool := false
  repeatLayers : Nat := 1
  reshapeInputs : Bool := false
  resultFile : String := ""
  resultNumpy : Option String := none
  resultOutput : Bool := false
  riscvCache : Bool := false
  riscvDebug : Bool := false
  riscvExclusive : Bool := false
  riscvFlash : Bool := false
  riscv : Bool := false
  rtlPreload : Bool := false
  runTestFile : String := ""
  sampleFile : String := ""
  simple1b : Bool := false
  sleep : Bool := false
  slowLoad : Int := 0
  softmax : Bool := false
  split : Int := 1
  startLayer : Nat := 0
  stopStart : Bool := false
  synthesizeInput : Option Int := none
  synthesizeWords : Int := 0
  testFolder : String := ""
  timeout : Option Int := none
  timer : Option Int := none
  unload : Bool := true
  verboseAll : Bool := false
  verbose : Bool := false
  verifyKernels : Bool := false
  verifyWrites : Bool := false
  weightFile : String := ""
  weightStart : Int := 0
  waitForInterrupt : Bool := true
  wideChunk : Int := 0
  writeZeroRegisters : Bool := false
  zeroSram : Bool := false
  zeroUnused : Bool := false
deriving Repr, Inhabited

end CnnForge
