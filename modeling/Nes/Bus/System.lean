import Nes.Audio.Apu
import Nes.Bus.Basic
import Nes.Controller
import Nes.Video.Ppu.Registers
import Nes.Video.Ppu.Step

/-!
The console's bus: 2 KiB of memory below 0x2000, the picture unit's registers below 0x4000, sound
and controllers from 0x4000, and the cartridge from 0x6000. Addresses that nothing answers show the
byte that was last on the bus. In each processor cycle the picture unit processes three dots and
the sound unit and the board one cycle.
-/

namespace Nes

/-- Everything behind the processor. -/
structure System where
  ram : Vector UInt8 0x800 := Vector.replicate _ 0
  cart : Cartridge
  ppu : Ppu := {}
  apu : Apu
  controllers : Vector Controller 2 := #v[{}, {}]
  /-- The byte that was last on the bus. -/
  openBus : UInt8 := 0
  /-- Cycles since power-on; their parity decides how long a copy of object memory takes. -/
  cycles : UInt64 := 0
  /-- Cycles that the processor owes. -/
  stall : UInt64 := 0
  /-- Object memory was copied by the instruction whose cycles are about to pass. -/
  dmaPending : Bool := false

namespace System

def powerOn (cart : Cartridge) (settings : Settings) : System where
  cart
  apu := Apu.powerOn settings

/-- Cycles of a copy of object memory that begins in an even cycle. -/
def oamDmaCycles : UInt64 := 513

def ramAt (ram : Vector UInt8 0x800) (address : UInt16) : UInt8 :=
  have : address.toNat % 0x800 < 0x800 := Nat.mod_lt _ (by decide)
  ram[address.toNat % 0x800]

def ramSet (ram : Vector UInt8 0x800) (address : UInt16) (data : UInt8) : Vector UInt8 0x800 :=
  have : address.toNat % 0x800 < 0x800 := Nat.mod_lt _ (by decide)
  ram.set (address.toNat % 0x800) data

/-- Stores bytes in the console's memory from an address on, past the bus. -/
def loadRam (system : System) (address : UInt16) : List UInt8 → System
  | [] => system
  | byte :: rest =>
    loadRam { system with ram := ramSet system.ram address byte } (address + 1) rest

def drive (system : System) (value : UInt8) : System := { system with openBus := value }

def readPpu (system : System) (address : UInt16) : UInt8 × System :=
  let (value, ppu, cart) := system.ppu.readRegister system.cart address
  (value, { system with ppu, cart, openBus := value })

/-- Reads a controller; the upper three bits come from the bus. -/
def readController (system : System) (port : Fin 2) : UInt8 × System :=
  let (bits, controller) := system.controllers[port].read
  let value := bits ||| (system.openBus &&& 0xE0)
  (value, { system with
    controllers := system.controllers.set port.val controller
    openBus := value })

/-- A processor read. The sound status does not reach the bus. -/
def read (system : System) (address : UInt16) : UInt8 × System :=
  if address < 0x2000 then
    let value := ramAt system.ram address
    (value, system.drive value)
  else if address < 0x4000 then system.readPpu address
  else if 0x6000 ≤ address then
    let value := system.cart.read address
    (value, system.drive value)
  else if address == 0x4015 then
    let (status, apu) := system.apu.readStatus system.openBus
    (status, { system with apu })
  else if address == 0x4016 then system.readController 0
  else if address == 0x4017 then system.readController 1
  else (system.openBus, system)

/-- Copies the first `count` bytes of a page into object memory. -/
def copyToOam (system : System) (page : UInt16) : Nat → System
  | 0 => system
  | count + 1 =>
    let (byte, system) := (system.copyToOam page count).read (page ||| UInt16.ofNat count)
    { system with ppu := system.ppu.writeOam byte }

/-- Copies a whole page into object memory; its cycles are charged when the instruction's pass. -/
def oamDma (system : System) (page : UInt8) : System :=
  { system.copyToOam (page.toUInt16 <<< 8) 256 with dmaPending := true }

/-- Writes the strobe of both controllers. -/
def strobe (system : System) (data : UInt8) : System :=
  { system with controllers := system.controllers.map (·.write data) }

/-- A processor write. Every byte written is on the bus. -/
def write (system : System) (address : UInt16) (data : UInt8) : System :=
  let system := system.drive data
  if address < 0x2000 then { system with ram := ramSet system.ram address data }
  else if address < 0x4000 then
    let (ppu, cart) := system.ppu.writeRegister system.cart address data
    { system with ppu, cart }
  else if 0x6000 ≤ address then { system with cart := system.cart.write address data }
  else if address == 0x4014 then system.oamDma data
  else if address == 0x4016 then system.strobe data
  else if address < 0x4018 then { system with apu := system.apu.write address data }
  else system

/-- A view of the processor's addresses that changes nothing. -/
def peek (system : System) (address : UInt16) : UInt8 :=
  if address < 0x2000 then ramAt system.ram address
  else if address < 0x4000 then system.ppu.peekRegister address
  else if 0x6000 ≤ address then system.cart.read address
  else system.openBus

/-- What the sample channel sees: memory and cartridge. -/
def sampleMemory (ram : Vector UInt8 0x800) (cart : Cartridge) (openBus : UInt8)
    (address : UInt16) : UInt8 :=
  if address < 0x2000 then ramAt ram address
  else if 0x6000 ≤ address then cart.read address
  else openBus

def stepPpu (system : System) : System :=
  let (ppu, cart) := system.ppu.step system.cart
  { system with ppu, cart }

/-- One cycle of the sound unit; a sample byte costs the processor cycles. -/
def stepApu (system : System) : System :=
  let (fetched, apu) := system.apu.step (sampleMemory system.ram system.cart system.openBus)
  match fetched with
  | some _ => { system with apu, stall := system.stall + Dmc.stallCycles }
  | none => { system with apu }

def stepCart (system : System) : System := { system with cart := system.cart.step }

/-- One processor cycle of everything behind the processor. -/
def cycle (system : System) : System :=
  let system := system.stepPpu.stepPpu.stepPpu.stepApu.stepCart
  { system with cycles := system.cycles + 1 }

def run : Nat → System → System
  | 0, system => system
  | count + 1, system => run count system.cycle

/-- What a copy of object memory costs if it was begun by the instruction that takes the next
`cycles`: the write is the last of them, and one in an odd cycle waits for an even one. -/
def dmaDebt (system : System) (cycles : UInt64) : UInt64 :=
  if system.dmaPending then
    let total := system.cycles + cycles
    let writeCycle := if total == 0 then 0 else total - 1
    oamDmaCycles + (writeCycle &&& 1)
  else 0

/-- Charges a copy of object memory that waits to be charged. -/
def chargeDma (system : System) (cycles : UInt64) : System :=
  { system with
    stall := system.stall + system.dmaDebt cycles
    dmaPending := false }

def tick (system : System) (cycles : UInt64) : System :=
  run cycles.toNat (system.chargeDma cycles)

def pollNmi (system : System) : Bool × System :=
  let (edge, ppu) := system.ppu.pollNmi
  (edge, { system with ppu })

/-- The level of the interrupt line, which the sound unit and the cartridge share. -/
def irqLine (system : System) : Bool := system.apu.irq || system.cart.irq

def takeStall (system : System) : UInt64 × System := (system.stall, { system with stall := 0 })

/-- The reset line of the chips; memory and cartridge keep what they hold. -/
def reset (system : System) : System :=
  { system with
    ppu := system.ppu.reset
    apu := system.apu.reset
    stall := 0
    dmaPending := false }

/-- Holds exactly the given buttons of a controller; a port that does not exist is ignored. -/
def setButtons (system : System) (port : Nat) (buttons : UInt8) : System :=
  if present : port < 2 then
    { system with
      controllers := system.controllers.set port (system.controllers[port].hold buttons) }
  else system

/-- A complete picture waits for the host. -/
def frameReady (system : System) : Bool := system.ppu.frameComplete

def clearFrame (system : System) : System :=
  { system with ppu := { system.ppu with frameComplete := false } }

instance : Bus System where
  read := read
  write := write
  peek := peek
  tick := tick
  pollNmi := pollNmi
  irqLine := irqLine
  takeStall := takeStall
  ppuPosition system := (system.ppu.raster.scanline, system.ppu.raster.dot)

end System

end Nes
