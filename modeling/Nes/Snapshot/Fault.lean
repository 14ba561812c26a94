import Nes.Codec.Basic

/-!
Why a snapshot is refused. A part is named where its size or its range is wrong.
-/

namespace Nes.Snapshot

/-- Parts of a snapshot whose length or kind is fixed by the machine. -/
inductive Sized where
  | oam
  | nametables
  | sprites
  | frame
  | ram
  | sram
  | chrRam
  | board
  deriving DecidableEq

def Sized.name : Sized → String
  | .oam => "oam"
  | .nametables => "nametables"
  | .sprites => "sprites"
  | .frame => "frame"
  | .ram => "ram"
  | .sram => "sram"
  | .chrRam => "chr ram"
  | .board => "mapper board"

/-- Parts of a snapshot whose values have bounds. -/
inductive Ranged where
  | ppuPosition
  | fineX
  | vramAddress
  | pulseDuty
  | pulseSequencer
  | pulseSweep
  | pulseTimer
  | triangleSequencer
  | triangleTimer
  | noiseShift
  | noisePeriod
  | dmcRate
  | dmcShifter
  | dmcLevel
  | frameCounter
  | samplePhase
  deriving DecidableEq

def Ranged.name : Ranged → String
  | .ppuPosition => "ppu position"
  | .fineX => "fine x scroll"
  | .vramAddress => "vram address"
  | .pulseDuty => "pulse duty"
  | .pulseSequencer => "pulse sequencer"
  | .pulseSweep => "pulse sweep"
  | .pulseTimer => "pulse timer"
  | .triangleSequencer => "triangle sequencer"
  | .triangleTimer => "triangle timer"
  | .noiseShift => "noise shift register"
  | .noisePeriod => "noise period"
  | .dmcRate => "dmc rate"
  | .dmcShifter => "dmc shifter"
  | .dmcLevel => "dmc output level"
  | .frameCounter => "frame counter"
  | .samplePhase => "sample phase"

/-- Why a snapshot is refused. -/
inductive Fault where
  | badMagic
  | versionMismatch (found expected : UInt16)
  | mapperMismatch (found expected : UInt8)
  | sizeMismatch (part : Sized)
  | outOfRange (part : Ranged)
  | undecodable (reason : DecodeError)
  deriving DecidableEq

def Fault.message : Fault → String
  | .badMagic => "not a save state (bad magic)"
  | .versionMismatch found expected =>
    "save state version " ++ toString found.toNat ++ " does not match " ++ toString expected.toNat
  | .mapperMismatch found expected =>
    "save state is for mapper " ++ toString found.toNat ++ ", cartridge uses mapper " ++
      toString expected.toNat
  | .sizeMismatch part => "save state " ++ part.name ++ " has the wrong size"
  | .outOfRange part => "save state " ++ part.name ++ " is out of range"
  | .undecodable reason => "failed to decode save state: " ++ reason.message

/-- Refuses with `fault` unless the condition holds. -/
def require (condition : Bool) (fault : Fault) : Except Fault Unit :=
  if condition then .ok () else .error fault

/-- The values as a vector of `size`, or a refusal when their number is another. -/
def sized {α : Type} (part : Sized) (size : Nat) (values : List α) :
    Except Fault (Vector α size) :=
  if length : values.length = size then .ok ⟨values.toArray, by simpa using length⟩
  else .error (.sizeMismatch part)

/-- Reads a value from the front of the bytes; what follows it is ignored. -/
def read {α : Type} (codec : Codec α) (bytes : List UInt8) : Except Fault α :=
  match codec.decode bytes with
  | .ok (value, _) => .ok value
  | .error reason => .error (.undecodable reason)

end Nes.Snapshot
