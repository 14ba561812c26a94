import Nes.Snapshot.Fault

/-!
Playback of delta-coded samples from processor memory. A reader keeps one byte ahead in a buffer;
the output unit shifts out one bit each `rate` cycles, least significant bit first, and each bit
moves the level by two. Reading a byte costs the processor four cycles.
-/

namespace Nes

namespace Dmc

/-- Processor cycles for each output bit, by the four bits that select them. -/
def rateTable : Vector UInt16 16 := #v[
  428, 380, 340, 320, 286, 254, 226, 214, 190, 160, 142, 128, 106, 84, 72, 54]

theorem selector_lt (data : UInt8) : data.toNat % 16 < 16 := Nat.mod_lt _ (by decide)

/-- The rate selected by the low four bits of a register. -/
def rateOf (data : UInt8) : UInt16 :=
  have := selector_lt data
  rateTable[data.toNat % 16]

/-- Processor cycles that reading one sample byte takes. -/
def stallCycles : UInt64 := 4

end Dmc

structure Dmc where
  irqEnabled : Bool := false
  irqPending : Bool := false
  looping : Bool := false
  rate : UInt16 := 428
  timer : UInt16 := 0
  outputLevel : UInt8 := 0
  sampleAddress : UInt16 := 0xC000
  sampleLength : UInt16 := 1
  currentAddress : UInt16 := 0xC000
  bytesRemaining : UInt16 := 0
  sampleBuffer : Option UInt8 := none
  shiftRegister : UInt8 := 0
  bitsRemaining : UInt8 := 8
  silence : Bool := true
  deriving DecidableEq

namespace Dmc

def write (dmc : Dmc) (register : UInt16) (data : UInt8) : Dmc :=
  match (register &&& 3).toNat with
  | 0 =>
    let irqEnabled := data &&& 0x80 != 0
    { dmc with
      irqEnabled
      irqPending := dmc.irqPending && irqEnabled
      looping := data &&& 0x40 != 0
      rate := rateOf data }
  | 1 => { dmc with outputLevel := data &&& 0x7F }
  | 2 => { dmc with sampleAddress := (data.toUInt16 <<< 6) ||| 0xC000 }
  | _ => { dmc with sampleLength := (data.toUInt16 <<< 4) ||| 1 }

def restart (dmc : Dmc) : Dmc :=
  { dmc with currentAddress := dmc.sampleAddress, bytesRemaining := dmc.sampleLength }

def active (dmc : Dmc) : Bool := 0 < dmc.bytesRemaining

/-- Switching off drops the bytes that remain; switching on starts a sample that has ended. -/
def setEnabled (dmc : Dmc) (enabled : Bool) : Dmc :=
  let dmc := { dmc with irqPending := false }
  if !enabled then { dmc with bytesRemaining := 0 }
  else if dmc.bytesRemaining == 0 then dmc.restart
  else dmc

/-- The reader takes a byte in this cycle. -/
def wantsByte (dmc : Dmc) : Bool := dmc.sampleBuffer.isNone && dmc.active

/-- The address after `address`, which stays in the upper half of memory. -/
def nextAddress (address : UInt16) : UInt16 :=
  if address == 0xFFFF then 0x8000 else address + 1

/-- Takes `byte` into the buffer; the last byte starts the sample again or raises the interrupt. -/
def accept (dmc : Dmc) (byte : UInt8) : Dmc :=
  let dmc :=
    { dmc with
      sampleBuffer := some byte
      currentAddress := nextAddress dmc.currentAddress
      bytesRemaining := dmc.bytesRemaining - 1 }
  if dmc.bytesRemaining != 0 then dmc
  else if dmc.looping then dmc.restart
  else if dmc.irqEnabled then { dmc with irqPending := true }
  else dmc

/-- The level after the bit at the front of the shift register; it stays within seven bits. -/
def nextLevel (dmc : Dmc) : UInt8 :=
  if dmc.silence then dmc.outputLevel
  else if dmc.shiftRegister &&& 1 != 0 then
    if dmc.outputLevel ≤ 125 then dmc.outputLevel + 2 else dmc.outputLevel
  else if 2 ≤ dmc.outputLevel then dmc.outputLevel - 2
  else dmc.outputLevel

/-- Empties the sample buffer into the shift register, or falls silent. -/
def refill (dmc : Dmc) : Dmc :=
  match dmc.sampleBuffer with
  | some byte =>
    { dmc with
      bitsRemaining := 8
      sampleBuffer := none
      shiftRegister := byte
      silence := false }
  | none => { dmc with bitsRemaining := 8, silence := true }

/-- Plays one bit. -/
def shiftOut (dmc : Dmc) : Dmc :=
  let dmc :=
    { dmc with
      outputLevel := dmc.nextLevel
      shiftRegister := dmc.shiftRegister >>> 1
      bitsRemaining := dmc.bitsRemaining - 1 }
  if dmc.bitsRemaining == 0 then dmc.refill else dmc

/-- One processor cycle of the output unit. -/
def clockOutput (dmc : Dmc) : Dmc :=
  if 0 < dmc.timer then { dmc with timer := dmc.timer - 1 }
  else shiftOut { dmc with timer := dmc.rate - 1 }

/-- One processor cycle: the reader fills an empty buffer from `memory`, then the output unit runs.
Answers the address that was read, if any. -/
def step (memory : UInt16 → UInt8) (dmc : Dmc) : Option UInt16 × Dmc :=
  if dmc.wantsByte then
    (some dmc.currentAddress, (dmc.accept (memory dmc.currentAddress)).clockOutput)
  else (none, dmc.clockOutput)

def output (dmc : Dmc) : UInt8 := dmc.outputLevel

/-- Refuses a rate outside the table, a shift register without bits and a level above seven bits. -/
def validate (dmc : Dmc) : Except Snapshot.Fault Unit := do
  Snapshot.require (rateTable.contains dmc.rate) (.outOfRange .dmcRate)
  Snapshot.require (1 ≤ dmc.bitsRemaining && dmc.bitsRemaining ≤ 8) (.outOfRange .dmcShifter)
  Snapshot.require (dmc.outputLevel ≤ 0x7F) (.outOfRange .dmcLevel)

def codec : Codec Dmc :=
  (Codec.bool.pair <| Codec.bool.pair <| Codec.bool.pair <| Codec.u16.pair <| Codec.u16.pair <|
    Codec.u8.pair <| Codec.u16.pair <| Codec.u16.pair <| Codec.u16.pair <| Codec.u16.pair <|
    (Codec.option Codec.u8).pair <| Codec.u8.pair <| Codec.u8.pair Codec.bool).iso
    (fun (irqEnabled, irqPending, looping, rate, timer, outputLevel, sampleAddress, sampleLength,
        currentAddress, bytesRemaining, sampleBuffer, shiftRegister, bitsRemaining, silence) =>
      { irqEnabled, irqPending, looping, rate, timer, outputLevel, sampleAddress, sampleLength,
        currentAddress, bytesRemaining, sampleBuffer, shiftRegister, bitsRemaining, silence })
    (fun d => (d.irqEnabled, d.irqPending, d.looping, d.rate, d.timer, d.outputLevel,
      d.sampleAddress, d.sampleLength, d.currentAddress, d.bytesRemaining, d.sampleBuffer,
      d.shiftRegister, d.bitsRemaining, d.silence))

end Dmc

end Nes
