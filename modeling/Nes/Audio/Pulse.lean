import Nes.Audio.Envelope
import Nes.Audio.LengthCounter
import Nes.Snapshot.Fault

/-!
A square wave with four duty cycles, an envelope, a length counter and a sweep unit that slides the
pitch. The two pulse channels differ only in how the sweep negates: the first adds the one's
complement of the change, the second the two's complement.
-/

namespace Nes

structure Pulse where
  /-- The sweep of this channel negates by one's complement. -/
  onesComplement : Bool := false
  duty : UInt8 := 0
  sequencerStep : UInt8 := 0
  envelope : Envelope := {}
  length : LengthCounter := {}
  sweepEnabled : Bool := false
  sweepPeriod : UInt8 := 0
  sweepNegate : Bool := false
  sweepShift : UInt8 := 0
  sweepReload : Bool := false
  sweepDivider : UInt8 := 0
  timerPeriod : UInt16 := 0
  timer : UInt16 := 0
  deriving DecidableEq

namespace Pulse

def first : Pulse := { onesComplement := true }

def second : Pulse := {}

/-- The four wave forms, each as its eight steps. -/
def dutyTable : Vector (Vector UInt8 8) 4 := #v[
  #v[0, 0, 0, 0, 0, 0, 0, 1],
  #v[0, 0, 0, 0, 0, 0, 1, 1],
  #v[0, 0, 0, 0, 1, 1, 1, 1],
  #v[1, 1, 1, 1, 1, 1, 0, 0]]

def wave (pulse : Pulse) : UInt8 :=
  have : pulse.duty.toNat % 4 < 4 := Nat.mod_lt _ (by decide)
  have : pulse.sequencerStep.toNat % 8 < 8 := Nat.mod_lt _ (by decide)
  dutyTable[pulse.duty.toNat % 4][pulse.sequencerStep.toNat % 8]

def write (pulse : Pulse) (register : UInt16) (data : UInt8) : Pulse :=
  match (register &&& 3).toNat with
  | 0 =>
    { pulse with
      duty := (data >>> 6) &&& 3
      length := { pulse.length with halt := data &&& 0x20 != 0 }
      envelope := pulse.envelope.write data }
  | 1 =>
    { pulse with
      sweepEnabled := data &&& 0x80 != 0
      sweepPeriod := (data >>> 4) &&& 7
      sweepNegate := data &&& 0x08 != 0
      sweepShift := data &&& 7
      sweepReload := true }
  | 2 => { pulse with timerPeriod := (pulse.timerPeriod &&& 0x0700) ||| data.toUInt16 }
  | _ =>
    { pulse with
      timerPeriod := ((data &&& 7).toUInt16 <<< 8) ||| (pulse.timerPeriod &&& 0x00FF)
      length := pulse.length.load data
      envelope := { pulse.envelope with start := true }
      sequencerStep := 0 }

/-- The period the sweep is heading for, which may lie outside the timer's range. -/
def targetPeriod (pulse : Pulse) : Int :=
  let period := pulse.timerPeriod.toNat
  let change := period >>> (pulse.sweepShift.toNat % 32)
  if !pulse.sweepNegate then (period : Int) + change
  else if pulse.onesComplement then (period : Int) - change - 1
  else (period : Int) - change

/-- The channel is silent when its period is too short or the sweep target does not fit in eleven
bits, even while the sweep is switched off. -/
def muted (pulse : Pulse) : Bool := pulse.timerPeriod < 8 || 0x7FF < pulse.targetPeriod

/-- One tick of the timer, every second processor cycle. -/
def clockTimer (pulse : Pulse) : Pulse :=
  if 0 < pulse.timer then { pulse with timer := pulse.timer - 1 }
  else
    { pulse with
      timer := pulse.timerPeriod
      sequencerStep := (pulse.sequencerStep - 1) &&& 7 }

/-- The sweep moves the period at this half frame. -/
def sweeps (pulse : Pulse) : Bool :=
  pulse.sweepDivider == 0 && pulse.sweepEnabled && 0 < pulse.sweepShift && !pulse.muted

def sweptPeriod (pulse : Pulse) : UInt16 :=
  if pulse.sweeps then UInt16.ofNat pulse.targetPeriod.toNat else pulse.timerPeriod

/-- One half frame of the sweep unit. -/
def clockSweep (pulse : Pulse) : Pulse :=
  if pulse.sweepDivider == 0 || pulse.sweepReload then
    { pulse with
      timerPeriod := pulse.sweptPeriod
      sweepDivider := pulse.sweepPeriod
      sweepReload := false }
  else { pulse with sweepDivider := pulse.sweepDivider - 1 }

def clockEnvelope (pulse : Pulse) : Pulse := { pulse with envelope := pulse.envelope.clock }

def clockLength (pulse : Pulse) : Pulse := { pulse with length := pulse.length.clock }

def setEnabled (pulse : Pulse) (enabled : Bool) : Pulse :=
  { pulse with length := pulse.length.setEnabled enabled }

def output (pulse : Pulse) : UInt8 :=
  if !pulse.length.active || pulse.muted || pulse.wave == 0 then 0 else pulse.envelope.output

/-- Refuses fields that are wider than the registers behind them. -/
def validate (pulse : Pulse) : Except Snapshot.Fault Unit := do
  Snapshot.require (pulse.duty ≤ 3) (.outOfRange .pulseDuty)
  Snapshot.require (pulse.sequencerStep ≤ 7) (.outOfRange .pulseSequencer)
  Snapshot.require (pulse.sweepShift ≤ 7 && pulse.sweepPeriod ≤ 7 && pulse.sweepDivider ≤ 7)
    (.outOfRange .pulseSweep)
  Snapshot.require (pulse.timerPeriod ≤ 0x7FF) (.outOfRange .pulseTimer)

def codec : Codec Pulse :=
  (Codec.bool.pair <| Codec.u8.pair <| Codec.u8.pair <| Envelope.codec.pair <|
    LengthCounter.codec.pair <| Codec.bool.pair <| Codec.u8.pair <| Codec.bool.pair <|
    Codec.u8.pair <| Codec.bool.pair <| Codec.u8.pair <| Codec.u16.pair Codec.u16).iso
    (fun (onesComplement, duty, sequencerStep, envelope, length, sweepEnabled, sweepPeriod,
        sweepNegate, sweepShift, sweepReload, sweepDivider, timerPeriod, timer) =>
      { onesComplement, duty, sequencerStep, envelope, length, sweepEnabled, sweepPeriod,
        sweepNegate, sweepShift, sweepReload, sweepDivider, timerPeriod, timer })
    (fun p => (p.onesComplement, p.duty, p.sequencerStep, p.envelope, p.length, p.sweepEnabled,
      p.sweepPeriod, p.sweepNegate, p.sweepShift, p.sweepReload, p.sweepDivider, p.timerPeriod,
      p.timer))

end Pulse

end Nes
