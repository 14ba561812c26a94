/-!
The bits of the processor status. Two of them exist only in copies on the stack.
-/

namespace Nes

/-- A bit of the processor status. -/
inductive Flag where
  | carry
  | zero
  | interruptDisable
  | decimal
  /-- Set in the copies that instructions push, clear in those of interrupts. -/
  | pushed
  /-- Reads back as one. -/
  | unused
  | overflow
  | negative
  deriving DecidableEq

def Flag.mask : Flag → UInt8
  | carry => 0x01
  | zero => 0x02
  | interruptDisable => 0x04
  | decimal => 0x08
  | pushed => 0x10
  | unused => 0x20
  | overflow => 0x40
  | negative => 0x80

end Nes
