import Nes.Cartridge.Rom
import Nes.Snapshot.Fault

/-!
The memories of a cartridge: program, patterns and work memory. Places wrap at the end of a memory,
and a bank number counts modulo the number of banks, so that a negative one counts from the end.
-/

namespace Nes

/-- What a cartridge stores. -/
structure CartridgeMemory where
  prg : Array UInt8
  chr : Array UInt8
  /-- The patterns are writable. -/
  chrWritable : Bool
  sram : Array UInt8
  deriving DecidableEq

namespace CartridgeMemory

/-- The memories for an image; an image without patterns gets 8 KiB of writable ones. -/
def ofRom (rom : Rom) : CartridgeMemory where
  prg := rom.prg.toArray
  chr := if rom.chr.isEmpty then Array.replicate chrChunkSize 0 else rom.chr.toArray
  chrWritable := rom.chr.isEmpty
  sram := Array.replicate sramSize 0

/-- Where bank `index` of `bankSize` bytes begins in a memory of `length` bytes. -/
def bankOffset (length : Nat) (index : Int) (bankSize : Nat) : Nat :=
  (index % (max (length / bankSize) 1 : Nat)).toNat * bankSize

/-- The byte at a place counted modulo the size; an empty memory reads as zero. -/
def readWrapped (bytes : Array UInt8) (place : Nat) : UInt8 :=
  if nonempty : 0 < bytes.size then
    have : place % bytes.size < bytes.size := Nat.mod_lt _ nonempty
    bytes[place % bytes.size]
  else 0

/-- Replaces the byte at a place counted modulo the size. -/
def writeWrapped (bytes : Array UInt8) (place : Nat) (data : UInt8) : Array UInt8 :=
  bytes.setIfInBounds (place % bytes.size) data

def prgBankOffset (memory : CartridgeMemory) (index : Int) (bankSize : Nat) : Nat :=
  bankOffset memory.prg.size index bankSize

def chrBankOffset (memory : CartridgeMemory) (index : Int) (bankSize : Nat) : Nat :=
  bankOffset memory.chr.size index bankSize

def readPrg (memory : CartridgeMemory) (place : Nat) : UInt8 := readWrapped memory.prg place

def readChr (memory : CartridgeMemory) (place : Nat) : UInt8 := readWrapped memory.chr place

/-- Writes a pattern byte; patterns that are not writable ignore it. -/
def writeChr (memory : CartridgeMemory) (place : Nat) (data : UInt8) : CartridgeMemory :=
  if memory.chrWritable then { memory with chr := writeWrapped memory.chr place data } else memory

def readSram (memory : CartridgeMemory) (address : UInt16) : UInt8 :=
  readWrapped memory.sram (address.toNat % sramSize)

def writeSram (memory : CartridgeMemory) (address : UInt16) (data : UInt8) : CartridgeMemory :=
  { memory with sram := writeWrapped memory.sram (address.toNat % sramSize) data }

/-- Overwrites work memory from its start with as many bytes as fit. -/
def loadSram (memory : CartridgeMemory) (data : List UInt8) : CartridgeMemory :=
  let size := memory.sram.size
  { memory with sram := (data.take size).toArray ++ memory.sram.extract data.length size }

def chrRam (memory : CartridgeMemory) : Option (List UInt8) :=
  if memory.chrWritable then some memory.chr.toList else none

/-- Recorded patterns fit the cartridge: none are always accepted. -/
def acceptsChrRam (memory : CartridgeMemory) (chrRam : Option (List UInt8)) : Bool :=
  match chrRam with
  | none => true
  | some bytes => memory.chrWritable && bytes.length == memory.chr.size

/-- Replaces the writable memories once their sizes have been checked; patterns that are not
recorded stay as they are. -/
def restore (memory : CartridgeMemory) (sram : List UInt8) (chrRam : Option (List UInt8)) :
    Except Snapshot.Fault CartridgeMemory := do
  Snapshot.require (sram.length == memory.sram.size) (.sizeMismatch .sram)
  Snapshot.require (memory.acceptsChrRam chrRam) (.sizeMismatch .chrRam)
  return { memory with
    sram := sram.toArray
    chr := match chrRam with
      | some bytes => bytes.toArray
      | none => memory.chr }

end CartridgeMemory

end Nes
