import Nes.Codec.Basic

/-!
Where the output sampler stands between two samples. The phase is kept as the bits of a double, so
that a snapshot records and restores exactly the same number.
-/

namespace Nes

/-- Processor cycles since the last sample, as the bits of a double. -/
structure Phase where
  bits : UInt64 := 0
  deriving DecidableEq

namespace Phase

def toFloat (phase : Phase) : Float := Float.ofBits phase.bits

/-- One more cycle; when a whole `period` has passed a sample is due and the period is taken off. -/
def advance (phase : Phase) (period : Float) : Bool × Phase :=
  let moved := phase.toFloat + 1
  if moved ≥ period then (true, ⟨(moved - period).toBits⟩) else (false, ⟨moved.toBits⟩)

/-- A phase that a sampler can continue from: a finite number that is not below zero. -/
def valid (phase : Phase) : Bool := phase.toFloat.isFinite && !(phase.toFloat < 0)

def codec : Codec Phase := Codec.u64.iso Phase.mk Phase.bits

end Phase

end Nes
