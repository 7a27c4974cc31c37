import CnnForge.Config.Listing
import CnnForge.Device.Listing
import CnnForge.Program
import CnnForge.Statistics.Latency
import CnnForge.Proofs.KnownAnswer
import CnnForge.Proofs.LayerOperands
import CnnForge.Proofs.AcceptedLayers
import CnnForge.Proofs.SearchSteps
import CnnForge.Proofs.PreloadedData
import CnnForge.Proofs.BiasRemoval
import CnnForge.Proofs.RelaidWeights
import CnnForge.Proofs.ArrayReading
import CnnForge.Proofs.FifoInput
import CnnForge.Proofs.TransposedSums
import CnnForge.Proofs.KernelFields
import CnnForge.Proofs.InputCopies
import CnnForge.Proofs.PooledLines
import CnnForge.Proofs.ByteStreams
import CnnForge.Proofs.TableLoop
import CnnForge.Proofs.Unrolling
import CnnForge.Proofs.InterleavedUnload
import CnnForge.Proofs.Requantization
import CnnForge.Proofs.MemoryFit
import CnnForge.Proofs.OverwriteReports
import CnnForge.Proofs.UnloadedWords
import CnnForge.Proofs.TracingBounds
import CnnForge.Proofs.SynthesizedInput
