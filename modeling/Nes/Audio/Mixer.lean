/-!
The summing network of the sound unit. It is not linear: the two pulses share one curve, the other
three channels another, and the sample is the sum of the two.
-/

namespace Nes.Mixer

/-- The curve of the two pulses at a summed level of `n`. -/
def pulseCurve (n : Nat) : Float32 :=
  if n = 0 then 0 else 95.52 / (8128.0 / Float32.ofNat n + 100.0)

def wideCurve (n : Nat) : Float32 :=
  if n = 0 then 0 else 163.67 / (24329.0 / Float32.ofNat n + 100.0)

/-- Where the pulses stand on their curve; it ends at thirty. -/
def pulseLevel (pulse1 pulse2 : UInt8) : Nat := min (pulse1.toNat + pulse2.toNat) 30

/-- Where the other channels stand on their curve; it ends at 202. -/
def wideLevel (triangle noise dmc : UInt8) : Nat :=
  min (3 * triangle.toNat + 2 * noise.toNat + dmc.toNat) 202

/-- One sample between zero and about one. -/
def mix (pulse1 pulse2 triangle noise dmc : UInt8) : Float32 :=
  pulseCurve (pulseLevel pulse1 pulse2) + wideCurve (wideLevel triangle noise dmc)

end Nes.Mixer
