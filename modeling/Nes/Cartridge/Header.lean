import Nes.Cartridge.Mirroring
import Nes.Settings

/-!
The sixteen-byte header of a cartridge image: a magic word, the number of program and pattern
chunks, and two flag bytes with the board's number, its nametable wiring and its battery.
-/

namespace Nes

/-- Why bytes are not a cartridge image. -/
inductive RomError where
  | tooShort (size : Nat)
  | badMagic
  | nes2Unsupported
  | noPrg
  | truncatedPrg (expected actual : Nat)
  | truncatedChr (expected actual : Nat)
  deriving DecidableEq

def RomError.message : RomError → String
  | .tooShort size => "ROM is too short to hold an iNES header (" ++ toString size ++ " bytes)"
  | .badMagic => "missing iNES magic (expected \"NES\\x1A\")"
  | .nes2Unsupported => "NES 2.0 headers are not supported"
  | .noPrg => "ROM declares no PRG ROM"
  | .truncatedPrg expected actual =>
    "truncated PRG ROM: expected " ++ toString expected ++ " bytes, found " ++ toString actual
  | .truncatedChr expected actual =>
    "truncated CHR ROM: expected " ++ toString expected ++ " bytes, found " ++ toString actual

structure Header where
  prgChunks : UInt8
  chrChunks : UInt8
  /-- Nametable wiring, battery, trainer, and the low half of the board number. -/
  flags6 : UInt8
  /-- The format's revision and the high half of the board number. -/
  flags7 : UInt8
  deriving DecidableEq

namespace Header

def size : Nat := 16

def magic : List UInt8 := [0x4E, 0x45, 0x53, 0x1A]

/-- The flag bits for a nametable wiring; single-screen wiring has none. -/
def mirroringBits : Mirroring → UInt8
  | .vertical => 0x01
  | .fourScreen => 0x08
  | _ => 0

def forBoard (prgChunks chrChunks mapperId : UInt8) (mirroring : Mirroring) (battery : Bool) :
    Header where
  prgChunks
  chrChunks
  flags6 :=
    ((mapperId &&& 0x0F) <<< 4) ||| mirroringBits mirroring ||| (if battery then 0x02 else 0 : UInt8)
  flags7 := mapperId &&& 0xF0

/-- Revision 2.0 of the format marks itself in two bits. -/
def isNes2 (header : Header) : Bool := header.flags7 &&& 0x0C == 0x08

/-- Reads a header from the front of an image. -/
def parse (data : List UInt8) : Except RomError Header :=
  match data with
  | m0 :: m1 :: m2 :: m3 :: prgChunks :: chrChunks :: flags6 :: flags7 ::
      _ :: _ :: _ :: _ :: _ :: _ :: _ :: _ :: _ =>
    let header : Header := { prgChunks, chrChunks, flags6, flags7 }
    if [m0, m1, m2, m3] != magic then .error .badMagic
    else if header.isNes2 then .error .nes2Unsupported
    else .ok header
  | _ => .error (.tooShort data.length)

def toBytes (header : Header) : List UInt8 :=
  magic ++ [header.prgChunks, header.chrChunks, header.flags6, header.flags7] ++
    List.replicate 8 0

def mapperId (header : Header) : UInt8 := (header.flags6 >>> 4) ||| (header.flags7 &&& 0xF0)

/-- Four-screen wiring overrides the other bit. -/
def mirroring (header : Header) : Mirroring :=
  if header.flags6 &&& 0x08 != 0 then .fourScreen
  else if header.flags6 &&& 0x01 != 0 then .vertical
  else .horizontal

def battery (header : Header) : Bool := header.flags6 &&& 0x02 != 0

/-- A block of 512 bytes stands in front of the program. -/
def hasTrainer (header : Header) : Bool := header.flags6 &&& 0x04 != 0

def withoutTrainer (header : Header) : Header := { header with flags6 := header.flags6 &&& 0xFB }

def prgLength (header : Header) : Nat := header.prgChunks.toNat * prgChunkSize

def chrLength (header : Header) : Nat := header.chrChunks.toNat * chrChunkSize

end Header

end Nes
