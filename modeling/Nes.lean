import Nes.Console.Notices
import Nes.Proofs.Audio.Decay
import Nes.Proofs.Audio.FrameCounter
import Nes.Proofs.Audio.Invariant
import Nes.Proofs.Audio.NoisePitch
import Nes.Proofs.Audio.Overload
import Nes.Proofs.Audio.Playback
import Nes.Proofs.Audio.SampleQueue
import Nes.Proofs.Audio.Sweep
import Nes.Proofs.Bus.LastTransfer
import Nes.Proofs.Bus.LineCounter
import Nes.Proofs.Bus.ObjectCopy
import Nes.Proofs.Bus.Ports
import Nes.Proofs.Bus.SamplePlayback
import Nes.Proofs.Bus.View
import Nes.Proofs.Cartridge.CounterPeriod
import Nes.Proofs.Cartridge.EdgeHistory
import Nes.Proofs.Cartridge.RomImage
import Nes.Proofs.Cartridge.SerialPort
import Nes.Proofs.Cartridge.Storage
import Nes.Proofs.Cartridge.Windows
import Nes.Proofs.Checked.Console
import Nes.Proofs.Codec.Image
import Nes.Proofs.Console.Listening
import Nes.Proofs.Console.Lockstep
import Nes.Proofs.Console.ObjectCopy
import Nes.Proofs.Console.Picture
import Nes.Proofs.Console.Reset
import Nes.Proofs.Console.Snapshot
import Nes.Proofs.Cpu.Combined
import Nes.Proofs.Cpu.Stores
import Nes.Proofs.Cpu.TraceReading
import Nes.Proofs.Cpu.Transparency
import Nes.Proofs.Video.DataStream
import Nes.Proofs.Video.FrameTiming
import Nes.Proofs.Video.Interrupt
import Nes.Proofs.Video.Invariant
import Nes.Proofs.Video.Lingering
import Nes.Proofs.Video.Pipeline
import Nes.Proofs.Video.ScrollFrame
import Nes.Proofs.Video.ScrollSteps
import Nes.Proofs.Video.SpriteLine
