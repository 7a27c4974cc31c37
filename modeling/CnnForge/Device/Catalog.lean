import CnnForge.Device.Basic

namespace CnnForge.Device

attribute [default_instance 20000] instPowNat
attribute [local instance (2000)] instPowNat

def cmsisNn : Device where
  kind := .cmsisNn
  partNumber := "CMSIS-NN"
  maxLayers := 256
  maxRowCol := 2 ^ 16
  memorySize := 2 ^ 32
  features := { arbitraryPadding := true, arbitraryStride := true, arbitraryOutputWidth := true,
                usesProcessors := false }

def max78000 : Device where
  kind := .max78000
  partNumber := "MAX78000"
  apbBase := 0x50000000
  maxLayers := 32
  maxStreamLayers := 8
  maxStartLayer := 0
  layerRegisterWords := 4
  cnnBase := 0x100000
  groups := 4
  groupsAll := 4
  groupSize := 16
  shared := 4
  maxProcessors := 64
  maxRowCol := 1024
  maxChannels := 1024
  frameSizeMax := 2 ^ 21
  layerReg :=
    { rows := 0, columns := 1, oneD := 2, poolRows := 3, poolColumns := 4, stride := 5,
      writeBase := 6, writeSlot := 7, writeMask := 8, writeChannel := 9, readBase := 10,
      control := 11, maskCount := some 12, tram := 13, enable := 14, post := 15, stream1 := 16,
      stream2 := 17, rollover := 18, control2 := 20, last := 20 }
  fields :=
    { padCount := 16, crossChannel := 8, countBits := 10, pointerBits := 17, tramBits := 12,
      streamStartBits := 14, streamDeltaBits := 12, rolloverBits := 17, frameBits := 20,
      pointerIncrementBits := 4, maskStart := 16, maskMax := 0 }
  controlReg := { frame := 612, mlator := 1024 }
  tests :=
    { data := ⟨2 ^ 0, 2 ^ 27 + 2 ^ 18, 2 ^ 14⟩, mask := ⟨2 ^ 2, 2 ^ 27 + 2 ^ 19, 2 ^ 15⟩,
      tram := ⟨2 ^ 4, 2 ^ 27 + 2 ^ 20, 2 ^ 16⟩, bias := ⟨2 ^ 6, 2 ^ 27 + 2 ^ 21, 2 ^ 17⟩ }
  features := { gcfr := true, emulatesMultiPassElementwise := true }
  tramSize := 3072
  tramSpacing := 4096
  biasSize := 512
  maskWidthSmall := 768
  maskWidthLarge := 768
  maskSpacing := 1024
  biasBase := 0x108000
  tramBase := 0x110000
  maskBase := 0x180000
  dataBase := 0x400000
  groupSpacing := 0x400000
  instanceSize := 2048
  instanceWidth := 2048
  instanceCount := 1
  instanceShift := 13
  writePointerShift := 13
  memorySize := 2048 * 16
  fastFifoBase := 0x400c0400
  transposePads := [0, 1, 2]
  transposeOutputPads := [1]
  flashSize := 0x8000
  riscvSramOrigin := 0x2001C000
  startCycles := 4
  padCycles := 2

def max78002 : Device where
  kind := .max78002
  partNumber := "MAX78002"
  apbBase := 0x50000000
  maxLayers := 128
  maxStreamLayers := 8
  maxStartLayer := 127
  layerRegisterWords := 0x40000
  cnnBase := 0x1000000
  groups := 4
  groupsAll := 4
  groupSize := 16
  shared := 4
  maxProcessors := 64
  maxRowCol := 2048
  maxChannels := 1024
  frameSizeMax := 2 ^ 21
  layerReg :=
    { nextLayer := some 0, rows := 1, columns := 2, oneD := 3, poolRows := 4, poolColumns := 5,
      stride := 6, writeBase := 7, writeSlot := 8, writeMask := 9, writeChannel := 10,
      readBase := 11, control := 12, control2 := 13, maskCount1 := some 14, maskCount2 := some 15,
      outChannels := some 16, tram := 17, enable := 18, post := 19, last := 19,
      stream1 := 0x2000, stream2 := 0x2008, rollover := 0x2010, firstStream := some 0x2000,
      lastStream := some 0x2010, spacing := some 0x100 }
  fields :=
    { pipeline := some 5, padCount := 13, padEnable := 15, countDiff := some 16,
      countIncrement := some 4, multiPassStride := some 4, crossChannel := 12,
      readAhead := some 17, columnPrime := some 18, rowPrime := 22, shiftCount := some 26,
      countBits := 11, pointerBits := 21, tramBits := 14, streamStartBits := 15,
      streamDeltaBits := 13, rolloverBits := 18, frameBits := 22, pointerIncrementBits := 8 }
  controlReg :=
    { frame := 0x42018, mlator := 0x44000, snoop := some 0x42020, pipelineReadySelect := 3 }
  tests :=
    { data := ⟨2 ^ 12 + 2 ^ 0, 2 ^ 18, 2 ^ 14⟩, mask := ⟨2 ^ 13 + 2 ^ 2, 2 ^ 19, 2 ^ 15⟩,
      tram := ⟨2 ^ 13 + 2 ^ 12 + 2 ^ 4, 2 ^ 20, 2 ^ 16⟩,
      bias := ⟨2 ^ 12 + 2 ^ 11 + 2 ^ 10 + 2 ^ 6, 2 ^ 21, 2 ^ 17⟩,
      clearAll := 2 ^ 12 + 2 ^ 11 + 2 ^ 10 + 2 ^ 7, clear := 2 ^ 12 + 2 ^ 11 + 2 ^ 7,
      clearWait := 2 ^ 25 }
  features :=
    { streamBias := true, depthwise := true, calcx4 := true, pipeline := true, pll := true,
      binaryWeights := true, linkLayer := true, readAhead := true, multiPassStride := true,
      kernelBypass := true, fifoGo := true, snoop := true, streamUnpaddedFinal := true,
      needsRegisterClear := true, needsSemaphoreWake := true, needsOneShotClear := false,
      needsNewStreaming := true, needsFifoComplete := false, gcfr := true,
      modernSimulation := true }
  tramSize := 12288
  tramSpacing := 16384
  biasSize := 2048
  maskWidthSmall := 4096
  maskWidthLarge := 5120
  maskSpacing := 8192
  maskInstances := 8
  maskInstancesEach := 4
  biasBase := 0x1180000
  tramBase := 0x1200000
  maskBase := 0x1400000
  dataBase := 0x1800000
  groupSpacing := 0x1000000
  instanceSize := 8192
  instanceWidth := 5120
  instanceCount := 5
  instanceShift := 17
  writePointerShift := 15
  memorySize := 5120 * 16
  fastFifoBase := 0x400c0400
  transposePads := [0, 1, 2]
  transposeOutputPads := [1]
  flashSize := 0x28000
  riscvSramOrigin := 0x2005C000
  startCycles := 4
  padCycles := 2
  maxPoolDilation := 16
  maxPoolPasses := 2 ^ 16
  pllSpeed := 240

def code (d : Device) : Int :=
  match d.kind with
  | .cmsisNn => -1
  | .max78000 => 85
  | .max78002 => 87

def ofCode? : Int → Option Device
  | 85 => some max78000
  | 87 => some max78002
  | -1 => some cmsisNn
  | _ => none

def setName (d : Device) : String :=
  match d.kind with
  | .cmsisNn => "DevCMSISNN"
  | .max78000 => "DevAI85"
  | .max78002 => "DevAI87"

end CnnForge.Device
