import Nes.Video.Raster

/-!
The value that lingers on the picture unit's data lines. Every driven value decays to zero after
about one frame.
-/

namespace Nes

/-- A lingering value and the dots it has left. -/
structure OpenBus where
  value : UInt8 := 0
  decay : UInt32 := 0
  deriving DecidableEq

namespace OpenBus

/-- Dots that a driven value lasts. -/
def lifetime : UInt32 := 341 * 262

def drive (_ : OpenBus) (value : UInt8) : OpenBus := { value, decay := lifetime }

/-- One dot; the value is gone when its lifetime ends. -/
def tick (bus : OpenBus) : OpenBus :=
  if bus.decay == 0 then bus
  else if bus.decay == 1 then { value := 0, decay := 0 }
  else { bus with decay := bus.decay - 1 }

end OpenBus

end Nes
