import Nes.Audio.Apu
import Nes.Cartridge.Rom
import Nes.Text.Layout

/-!
What the library reports beside its answers: loaded images, resets, snapshots, executed
instructions, and writes that nothing takes. A notice is a value; which of them are shown is the
host's business.
-/

namespace Nes

/-- How much a host wants to hear; a coarser level includes no finer notices. -/
inductive Notice.Level where
  | info
  | debug
  | trace
  deriving DecidableEq

namespace Notice.Level

def rank : Level → Nat
  | info => 1
  | debug => 2
  | trace => 3

def name : Level → String
  | info => "INFO"
  | debug => "DEBUG"
  | trace => "TRACE"

end Notice.Level

/-- An event worth reporting. -/
inductive Notice where
  | romLoaded (header : Header)
  | reset
  | saved (size : Nat)
  | loaded (size : Nat)
  /-- The line of an instruction that is about to run. -/
  | instruction (line : String)
  | unmappedWrite (address : UInt16) (data : UInt8)
  | statusWrite (data : UInt8)
  | unmappedSoundWrite (address : UInt16)

namespace Notice

def level : Notice → Level
  | romLoaded _ => .debug
  | reset => .info
  | saved _ => .info
  | loaded _ => .info
  | instruction _ => .trace
  | unmappedWrite _ _ => .trace
  | statusWrite _ => .trace
  | unmappedSoundWrite _ => .trace

def message : Notice → String
  | romLoaded header =>
    "Loaded iNES header: mapper=" ++ toString header.mapperId.toNat ++
      " mirroring=" ++ header.mirroring.name ++
      " battery=" ++ (if header.battery then "true" else "false") ++
      " prg=" ++ toString header.prgChunks.toNat ++ "x16K" ++
      " chr=" ++ toString header.chrChunks.toNat ++ "x8K"
  | reset => "Console reset"
  | saved size => "Saved state (" ++ toString size ++ " bytes)"
  | loaded size => "Loaded state (" ++ toString size ++ " bytes)"
  | instruction line => line
  | unmappedWrite address data =>
    "write 0x" ++ Text.hexByte data ++ " to unmapped 0x" ++ Text.hexWord address
  | statusWrite data => "write 0x" ++ Text.hexByte data ++ " to read-only PPUSTATUS"
  | unmappedSoundWrite address =>
    "write to unmapped APU register 0x" ++ Text.hexWord address

def line (notice : Notice) : String := notice.level.name ++ " " ++ notice.message

def shownAt (notice : Notice) (limit : Level) : Bool := notice.level.rank ≤ limit.rank

/-- Reading an image reports its header if the image is accepted. -/
def ofImage (data : List UInt8) : List Notice :=
  match Rom.parse data with
  | .ok rom => [romLoaded rom.header]
  | .error _ => []

/-- Writing to the picture unit's registers reports a write to the status register. -/
def ofPictureWrite (address : UInt16) (data : UInt8) : List Notice :=
  if address &&& 7 == 2 then [statusWrite data] else []

/-- Writing to the sound unit reports an address without a register. -/
def ofSoundWrite (address : UInt16) : List Notice :=
  if Apu.State.mapped address then [] else [unmappedSoundWrite address]

/-- Writing on the processor's bus reports what nothing takes: the picture unit's status and the
gap between the sound unit and the cartridge. -/
def ofBusWrite (address : UInt16) (data : UInt8) : List Notice :=
  if address < 0x2000 then []
  else if address < 0x4000 then ofPictureWrite address data
  else if 0x4018 ≤ address && address < 0x6000 then [unmappedWrite address data]
  else []

end Notice

end Nes
