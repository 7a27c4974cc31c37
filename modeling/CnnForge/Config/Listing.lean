import CnnForge.Config.Layer

namespace CnnForge.LayerConfig

def settings (l : LayerConfig) : List (String × Value) :=
  let list (s : ListSetting) : Value := .list s.toList
  [("processor_map", l.processors), ("padding", list l.padding), ("pool", list l.pool),
   ("pooling_enabled", .bool l.pooling), ("pool_stride", list l.poolStride),
   ("input_chan", l.inputChannels), ("input_chan_skip", l.inputChannelSkip),
   ("input_skip", l.inputSkip), ("input_dim", l.inputDim), ("input_offset", l.inputOffset),
   ("output_chan", l.outputChannels), ("output_offset", l.outputOffset),
   ("average", .int (if l.average then 1 else 0)),
   ("activation", (l.activation.map fun a => Value.int a.code).getD .null), ("big_data", .bool l.bigData),
   ("quantization", l.quantization), ("bias_quantization", .int 8),
   ("output_shift", l.outputShift), ("output_processor_map", l.outputProcessors),
   ("output_width", l.outputWidth), ("operator", .int l.operator.code),
   ("dilation", list l.dilation),
   ("kernel_size", .list [.int l.kernelSize.1, .int l.kernelSize.2]), ("stride", list l.stride),
   ("streaming", .bool l.streaming), ("flatten", .bool l.flatten), ("operands", l.operands),
   ("eltwise", .int l.elementwise.code), ("pool_first", .bool l.poolFirst),
   ("in_sequences", l.inSequences), ("next_sequence", l.nextSequence),
   ("simulated_sequence", l.simulatedSequence), ("snoop_sequence", l.snoopSequence),
   ("conv_groups", l.convGroups), ("write_gap", l.writeGap), ("bypass", .bool l.bypass),
   ("bias_group_map", l.biasGroups), ("calcx4", .bool l.calcx4),
   ("readahead", .bool l.readAhead), ("pool_dilation", list l.poolDilation),
   ("output_padding", list l.outputPadding),
   ("tcalc", (l.tcalc.map Value.bool).getD .null)]

end CnnForge.LayerConfig
