/-!
Clock rates, sizes and the settings a host may choose. Nothing here changes while a machine runs.
-/

namespace Nes

/-- Processor cycles in one second of an NTSC console. -/
def cpuFrequency : Float := 1789773

def frameWidth : Nat := 256

def frameHeight : Nat := 240

/-- Program memory is counted in units of 16 KiB. -/
def prgChunkSize : Nat := 0x4000

/-- Pattern memory is counted in units of 8 KiB. -/
def chrChunkSize : Nat := 0x2000

/-- Work memory of a cartridge, seen at 0x6000. -/
def sramSize : Nat := 0x2000

/-- What a host may choose before power-on. -/
structure Settings where
  /-- Sound samples per second. -/
  sampleRate : UInt32 := 44100
  /-- How many samples the queue holds before new ones are dropped. -/
  audioBufferLen : UInt64 := 8192
  /-- Factor on every sample, kept between zero and one. -/
  volume : Float32 := 1.0
  /-- Report a line for each instruction. -/
  trace : Bool := false

/-- Processor cycles between two sound samples; a rate of zero counts as one. -/
def Settings.cyclesPerSample (settings : Settings) : Float :=
  cpuFrequency / (max settings.sampleRate 1).toFloat

/-- The volume that is applied: below zero is zero, above one is one. -/
def Settings.gain (settings : Settings) : Float32 :=
  if settings.volume < 0 then 0 else if settings.volume > 1 then 1 else settings.volume

end Nes
