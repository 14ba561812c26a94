import Nes.Bus.Basic

/-!
A processor's memory without a console around it: 64 KiB that read back what was written. `FlatBus`
adds lines that can be set from outside.
-/

namespace Nes

structure FlatMemory where
  bytes : Vector UInt8 0x10000 := Vector.replicate _ 0

namespace FlatMemory

def read (memory : FlatMemory) (address : UInt16) : UInt8 :=
  have := address.toNat_lt
  memory.bytes[address.toNat]

def write (memory : FlatMemory) (address : UInt16) (data : UInt8) : FlatMemory :=
  { bytes := memory.bytes.set address.toNat data address.toNat_lt }

/-- Stores bytes from an address on; the last address is followed by the first. -/
def load (memory : FlatMemory) (address : UInt16) : List UInt8 → FlatMemory
  | [] => memory
  | byte :: rest => load (memory.write address byte) (address + 1) rest

instance : Bus FlatMemory where
  read memory address := (memory.read address, memory)
  write := write
  peek := read

end FlatMemory

/-- Flat memory with lines that are set from outside. -/
structure FlatBus where
  memory : FlatMemory := {}
  /-- Cycles that have passed. -/
  ticked : UInt64 := 0
  /-- An interrupt edge that has not been taken. -/
  nmi : Bool := false
  irq : Bool := false
  /-- Cycles that the processor owes. -/
  stall : UInt64 := 0
  scanline : UInt16 := 0
  dot : UInt16 := 0

namespace FlatBus

instance : Bus FlatBus where
  read bus address := (bus.memory.read address, bus)
  write bus address data := { bus with memory := bus.memory.write address data }
  peek bus address := bus.memory.read address
  tick bus cycles := { bus with ticked := bus.ticked + cycles }
  pollNmi bus := (bus.nmi, { bus with nmi := false })
  irqLine bus := bus.irq
  takeStall bus := (bus.stall, { bus with stall := 0 })
  ppuPosition bus := (bus.scanline, bus.dot)

end FlatBus

end Nes
