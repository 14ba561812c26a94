import Nes.Bus.Basic

/-!
A bus that keeps a list of the accesses made through it and otherwise behaves as the bus inside.
-/

namespace Nes

inductive Access where
  | read (address : UInt16) (value : UInt8)
  | write (address : UInt16) (data : UInt8)
  deriving DecidableEq

/-- A bus and the accesses made so far, newest first. -/
structure Recorder (β : Type) where
  bus : β
  recent : List Access := []

namespace Recorder

variable {β : Type}

/-- The accesses in the order in which they were made. -/
def accesses (recorder : Recorder β) : List Access := recorder.recent.reverse

def clear (recorder : Recorder β) : Recorder β := { recorder with recent := [] }

instance [Bus β] : Bus (Recorder β) where
  read recorder address :=
    let { bus, recent } := recorder
    let (value, bus) := Bus.read bus address
    (value, { bus, recent := .read address value :: recent })
  write recorder address data :=
    let { bus, recent } := recorder
    { bus := Bus.write bus address data, recent := .write address data :: recent }
  peek recorder address := Bus.peek recorder.bus address
  tick recorder cycles :=
    let { bus, recent } := recorder
    { bus := Bus.tick bus cycles, recent }
  pollNmi recorder :=
    let { bus, recent } := recorder
    let (edge, bus) := Bus.pollNmi bus
    (edge, { bus, recent })
  irqLine recorder := Bus.irqLine recorder.bus
  takeStall recorder :=
    let { bus, recent } := recorder
    let (stall, bus) := Bus.takeStall bus
    (stall, { bus, recent })
  ppuPosition recorder := Bus.ppuPosition recorder.bus

end Recorder

end Nes
