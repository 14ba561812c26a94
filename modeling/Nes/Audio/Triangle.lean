import Nes.Audio.LengthCounter
import Nes.Snapshot.Fault

/-!
A triangle wave without volume: a sequencer of thirty-two steps that moves while both the length
counter and the finer linear counter are running.
-/

namespace Nes

structure Triangle where
  length : LengthCounter := {}
  /-- Halts the length counter and keeps the linear counter reloading. -/
  control : Bool := false
  linearLoad : UInt8 := 0
  linearCounter : UInt8 := 0
  linearReload : Bool := false
  timerPeriod : UInt16 := 0
  timer : UInt16 := 0
  sequencerStep : UInt8 := 0
  deriving DecidableEq

namespace Triangle

/-- The level at a step of the wave: from fifteen down to zero and up again. -/
def waveAt (step : UInt8) : UInt8 :=
  let place := step &&& 31
  if place < 16 then 15 - place else place - 16

/-- Writes one of the four registers of the channel; the second does nothing. -/
def write (triangle : Triangle) (register : UInt16) (data : UInt8) : Triangle :=
  match (register &&& 3).toNat with
  | 0 =>
    let control := data &&& 0x80 != 0
    { triangle with
      control
      length := { triangle.length with halt := control }
      linearLoad := data &&& 0x7F }
  | 1 => triangle
  | 2 => { triangle with timerPeriod := (triangle.timerPeriod &&& 0x0700) ||| data.toUInt16 }
  | _ =>
    { triangle with
      timerPeriod := ((data &&& 7).toUInt16 <<< 8) ||| (triangle.timerPeriod &&& 0x00FF)
      length := triangle.length.load data
      linearReload := true }

def nextLinear (triangle : Triangle) : UInt8 :=
  if triangle.linearReload then triangle.linearLoad
  else if 0 < triangle.linearCounter then triangle.linearCounter - 1
  else triangle.linearCounter

/-- One quarter frame. -/
def clockLinear (triangle : Triangle) : Triangle :=
  { triangle with
    linearCounter := triangle.nextLinear
    linearReload := triangle.linearReload && triangle.control }

def clockLength (triangle : Triangle) : Triangle :=
  { triangle with length := triangle.length.clock }

def setEnabled (triangle : Triangle) (enabled : Bool) : Triangle :=
  { triangle with length := triangle.length.setEnabled enabled }

def sounding (triangle : Triangle) : Bool :=
  triangle.length.active && 0 < triangle.linearCounter

/-- One tick of the timer, every processor cycle. -/
def clockTimer (triangle : Triangle) : Triangle :=
  if 0 < triangle.timer then { triangle with timer := triangle.timer - 1 }
  else if triangle.sounding then
    { triangle with
      timer := triangle.timerPeriod
      sequencerStep := (triangle.sequencerStep + 1) &&& 31 }
  else { triangle with timer := triangle.timerPeriod }

/-- The channel's level; periods too short to hear are silent. -/
def output (triangle : Triangle) : UInt8 :=
  if !triangle.sounding || triangle.timerPeriod < 2 then 0 else waveAt triangle.sequencerStep

/-- Refuses a step past the wave and fields wider than their registers. -/
def validate (triangle : Triangle) : Except Snapshot.Fault Unit := do
  Snapshot.require (triangle.sequencerStep < 32) (.outOfRange .triangleSequencer)
  Snapshot.require (triangle.linearLoad ≤ 0x7F && triangle.timerPeriod ≤ 0x7FF)
    (.outOfRange .triangleTimer)

def codec : Codec Triangle :=
  (LengthCounter.codec.pair <| Codec.bool.pair <| Codec.u8.pair <| Codec.u8.pair <|
    Codec.bool.pair <| Codec.u16.pair <| Codec.u16.pair Codec.u8).iso
    (fun (length, control, linearLoad, linearCounter, linearReload, timerPeriod, timer,
        sequencerStep) =>
      { length, control, linearLoad, linearCounter, linearReload, timerPeriod, timer,
        sequencerStep })
    (fun t => (t.length, t.control, t.linearLoad, t.linearCounter, t.linearReload, t.timerPeriod,
      t.timer, t.sequencerStep))

end Triangle

end Nes
