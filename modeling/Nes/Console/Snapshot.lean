import Nes.Bus.System
import Nes.Cartridge.Snapshot
import Nes.Cpu.Basic
import Nes.Video.Ppu.Snapshot

/-!
What a snapshot records of the whole machine, and its byte format: a magic word, a version, and the
processor, the picture unit, the sound unit, the bus and the cartridge in this order. Bytes behind
them are ignored.
-/

namespace Nes

/-- The recorded bus; the chips behind it are recorded on their own. -/
structure SystemState where
  ram : List UInt8
  controllers : Vector Controller 2
  openBus : UInt8
  cycles : UInt64
  stall : UInt64
  deriving DecidableEq

namespace SystemState

def codec : Codec SystemState :=
  (Codec.bytes.pair <| (Codec.vector Controller.codec 2).pair <| Codec.u8.pair <|
    Codec.u64.pair Codec.u64).iso
    (fun (ram, controllers, openBus, cycles, stall) => { ram, controllers, openBus, cycles, stall })
    (fun s => (s.ram, s.controllers, s.openBus, s.cycles, s.stall))

end SystemState

def System.save (system : System) : SystemState where
  ram := system.ram.toList
  controllers := system.controllers
  openBus := system.openBus
  cycles := system.cycles
  stall := system.stall

/-- Takes back a recorded bus; the chips behind it stay as they are. -/
def System.load (system : System) (state : SystemState) : Except Snapshot.Fault System := do
  let ram ← Snapshot.sized .ram 0x800 state.ram
  return { system with
    ram
    controllers := state.controllers
    openBus := state.openBus
    cycles := state.cycles
    stall := state.stall }

structure MachineState where
  cpu : Cpu
  ppu : PpuState
  apu : Apu.State
  bus : SystemState
  mapper : CartridgeState
  deriving DecidableEq

namespace MachineState

def magic : List UInt8 := [0x56, 0x53, 0x50, 0x52]

def version : UInt16 := 1

/-- The machine without magic and version. -/
def codec : Codec MachineState :=
  (Cpu.codec.pair <| PpuState.codec.pair <| Apu.State.codec.pair <| SystemState.codec.pair
    CartridgeState.codec).iso
    (fun (cpu, ppu, apu, bus, mapper) => { cpu, ppu, apu, bus, mapper })
    (fun s => (s.cpu, s.ppu, s.apu, s.bus, s.mapper))

def encode (state : MachineState) : List UInt8 :=
  magic ++ Codec.u16.encode version ++ codec.encode state

def decode (bytes : List UInt8) : Except Snapshot.Fault MachineState :=
  match bytes with
  | m0 :: m1 :: m2 :: m3 :: v0 :: v1 :: rest =>
    let found := UInt16.ofNat (Codec.ofDigits [v0, v1])
    if [m0, m1, m2, m3] != magic then .error .badMagic
    else if found != version then .error (.versionMismatch found version)
    else Snapshot.read codec rest
  | _ => .error .badMagic

end MachineState

end Nes
