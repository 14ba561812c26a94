import Nes.Console.Snapshot
import Nes.Cpu.Trace

/-!
The assembled console, as a host uses it: insert a cartridge, step by instructions or by pictures,
hold buttons, take pictures and samples, and save and load the whole machine.
-/

namespace Nes

structure Console where
  machine : Machine System
  /-- Report a line for each instruction. -/
  traceEnabled : Bool

namespace Console

def system (console : Console) : System := console.machine.bus

def mapSystem (console : Console) (change : System → System) : Console :=
  { console with machine := { console.machine with bus := change console.machine.bus } }

/-- The console after power-on; the program begins at the reset vector. -/
def powerOn (cart : Cartridge) (settings : Settings) : Console where
  machine := Machine.reset { bus := System.powerOn cart settings }
  traceEnabled := settings.trace

def ofImage (data : List UInt8) (settings : Settings) : Except LoadError Console := do
  return powerOn (← Cartridge.ofBytes data) settings

def halted (console : Console) : Bool := console.machine.cpu.halted

/-- One instruction or interrupt entry. Answers the cycles that have passed. -/
def step (console : Console) : UInt64 × Console :=
  let { machine, traceEnabled } := console
  let (elapsed, machine) := machine.step
  (elapsed, { machine, traceEnabled })

/-- Steps until a picture is complete or the processor halts, at most `limit` steps. Answers
`cycles` and the cycles that have passed. -/
def stepFrameFrom (cycles : UInt64) (limit : Nat) (console : Console) : UInt64 × Console :=
  match limit with
  | 0 => (cycles, console)
  | limit + 1 =>
    let (elapsed, console) := console.step
    if console.system.frameReady then (cycles + elapsed, console.mapSystem System.clearFrame)
    else if elapsed == 0 then (cycles, console)
    else stepFrameFrom (cycles + elapsed) limit console

/-- More steps than a frame has cycles; every step that is not the last takes at least one. -/
def frameStepLimit : Nat := 30000

/-- Steps until a picture is complete or the processor halts. -/
def stepFrame (console : Console) : UInt64 × Console := stepFrameFrom 0 frameStepLimit console

/-- The reset button; memory, cartridge and controllers keep what they hold. -/
def reset (console : Console) : Console :=
  let console := console.mapSystem System.reset
  { console with machine := console.machine.reset }

/-- Holds exactly the given buttons of controller 0 or 1. -/
def setButtons (console : Console) (port : Nat) (buttons : UInt8) : Console :=
  console.mapSystem (·.setButtons port buttons)

/-- The picture as palette entries, row by row. -/
def frame (console : Console) : Vector UInt8 (frameWidth * frameHeight) := console.system.ppu.frame

def trace (console : Console) : String := console.machine.trace

def saveState (console : Console) : MachineState where
  cpu := console.machine.cpu
  ppu := console.system.ppu.save
  apu := console.system.apu.state
  bus := console.system.save
  mapper := console.system.cart.save

/-- The bytes of a snapshot of the whole machine. -/
def save (console : Console) : List UInt8 := console.saveState.encode

/-- Loads a cartridge, or puts back what it held when that is refused. -/
def loadCart (cart : Cartridge) (state : CartridgeState) :
    Except Snapshot.Fault Unit × Cartridge :=
  let backup := cart.save
  match cart.load state with
  | (.ok (), cart) => (.ok (), cart)
  | (.error fault, cart) =>
    match cart.load backup with
    | (.ok (), cart) => (.error fault, cart)
    | (.error fault, cart) => (.error fault, cart)

/-- Takes back a snapshot. All parts but the cartridge are checked before anything changes. -/
def loadState (console : Console) (state : MachineState) :
    Except Snapshot.Fault Unit × Console :=
  let system := console.system
  let checked : Except Snapshot.Fault (Ppu × System × Apu) := do
    let ppu ← state.ppu.restore
    let bus ← system.load state.bus
    let apu ← system.apu.load state.apu
    return (ppu, bus, apu)
  match checked with
  | .error fault => (.error fault, console)
  | .ok (ppu, bus, apu) =>
    match loadCart system.cart state.mapper with
    | (.error fault, cart) => (.error fault, console.mapSystem ({ · with cart }))
    | (.ok (), cart) =>
      (.ok (), { console with machine := { cpu := state.cpu, bus := { bus with ppu, apu, cart } } })

def load (console : Console) (bytes : List UInt8) : Except Snapshot.Fault Unit × Console :=
  match MachineState.decode bytes with
  | .error fault => (.error fault, console)
  | .ok state => console.loadState state

end Console

end Nes
