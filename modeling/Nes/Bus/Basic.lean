/-!
What a processor needs of the machine around it. A bus that only reads, writes and peeks leaves the
rest at its default: nothing happens as time passes and nobody interrupts.
-/

namespace Nes

/-- A bus and everything behind it. -/
class Bus (β : Type) where
  read : β → UInt16 → UInt8 × β
  write : β → UInt16 → UInt8 → β
  /-- A read that changes nothing. -/
  peek : β → UInt16 → UInt8
  /-- Lets a number of processor cycles pass. -/
  tick : β → UInt64 → β := fun bus _ => bus
  /-- Takes a pending interrupt edge. -/
  pollNmi : β → Bool × β := fun bus => (false, bus)
  /-- The level of the interrupt line. -/
  irqLine : β → Bool := fun _ => false
  /-- Takes the cycles that the processor owes. -/
  takeStall : β → UInt64 × β := fun bus => (0, bus)
  /-- The scanline and dot of the picture, for reports. -/
  ppuPosition : β → UInt16 × UInt16 := fun _ => (0, 0)

end Nes
