import Nes.Audio.Envelope
import Nes.Audio.LengthCounter
import Nes.Snapshot.Fault

/-!
Noise from a feedback shift register of fifteen bits. The short mode taps bit 6 instead of bit 1,
which makes a metallic tone.
-/

namespace Nes

namespace Noise

/-- Periods by the four bits that select them. -/
def periodTable : Vector UInt16 16 := #v[
  4, 8, 16, 32, 64, 96, 128, 160, 202, 254, 380, 508, 762, 1016, 2034, 4068]

theorem selector_lt (data : UInt8) : data.toNat % 16 < 16 := Nat.mod_lt _ (by decide)

/-- The period selected by the low four bits of a register. -/
def periodOf (data : UInt8) : UInt16 :=
  have := selector_lt data
  periodTable[data.toNat % 16]

end Noise

structure Noise where
  envelope : Envelope := {}
  length : LengthCounter := {}
  shortMode : Bool := false
  period : UInt16 := 4
  timer : UInt16 := 0
  shift : UInt16 := 1
  deriving DecidableEq

namespace Noise

/-- Writes one of the four registers of the channel; the second does nothing. -/
def write (noise : Noise) (register : UInt16) (data : UInt8) : Noise :=
  match (register &&& 3).toNat with
  | 0 =>
    { noise with
      length := { noise.length with halt := data &&& 0x20 != 0 }
      envelope := noise.envelope.write data }
  | 1 => noise
  | 2 => { noise with shortMode := data &&& 0x80 != 0, period := periodOf data }
  | _ =>
    { noise with
      length := noise.length.load data
      envelope := { noise.envelope with start := true } }

/-- The bit that enters the shift register. -/
def feedback (noise : Noise) : UInt16 :=
  let tap : UInt16 := if noise.shortMode then 6 else 1
  (noise.shift &&& 1) ^^^ ((noise.shift >>> tap) &&& 1)

/-- One tick of the timer, every processor cycle. -/
def clockTimer (noise : Noise) : Noise :=
  if 0 < noise.timer then { noise with timer := noise.timer - 1 }
  else
    { noise with
      timer := noise.period
      shift := (noise.shift >>> 1) ||| (noise.feedback <<< 14) }

def clockEnvelope (noise : Noise) : Noise := { noise with envelope := noise.envelope.clock }

def clockLength (noise : Noise) : Noise := { noise with length := noise.length.clock }

def setEnabled (noise : Noise) (enabled : Bool) : Noise :=
  { noise with length := noise.length.setEnabled enabled }

def output (noise : Noise) : UInt8 :=
  if !noise.length.active || noise.shift &&& 1 != 0 then 0 else noise.envelope.output

/-- Refuses a shift register that is stuck at zero or too wide, and a period outside the table. -/
def validate (noise : Noise) : Except Snapshot.Fault Unit := do
  Snapshot.require (noise.shift != 0 && noise.shift ≤ 0x7FFF) (.outOfRange .noiseShift)
  Snapshot.require (periodTable.contains noise.period) (.outOfRange .noisePeriod)

def codec : Codec Noise :=
  (Envelope.codec.pair <| LengthCounter.codec.pair <| Codec.bool.pair <| Codec.u16.pair <|
    Codec.u16.pair Codec.u16).iso
    (fun (envelope, length, shortMode, period, timer, shift) =>
      { envelope, length, shortMode, period, timer, shift })
    (fun n => (n.envelope, n.length, n.shortMode, n.period, n.timer, n.shift))

end Noise

end Nes
