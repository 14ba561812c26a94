import Nes.Cartridge.Memory

/-!
A bank switcher that is programmed through a serial port: five writes shift in one bit each, least
significant first, and the address of the fifth selects the register. A write with bit 7 set
empties the port. Of two writes in consecutive cycles the second is ignored.
-/

namespace Nes

/-- The chip's registers, which a snapshot records. -/
structure Mmc1.Registers where
  /-- Bits received so far behind a marker bit. -/
  shift : UInt8 := 0x10
  /-- Nametable wiring, program mode and pattern mode. -/
  control : UInt8 := 0x0C
  chrBank0 : UInt8 := 0
  chrBank1 : UInt8 := 0
  prgBank : UInt8 := 0
  deriving DecidableEq

namespace Mmc1.Registers

def emptyShift : UInt8 := 0x10

/-- How the program windows use the bank register. -/
def prgMode (registers : Registers) : Nat := (registers.control.toNat / 4) % 4

/-- Two separate pattern banks instead of one pair. -/
def splitChr (registers : Registers) : Bool := registers.control &&& 0x10 != 0

/-- The banks of the two 16 KiB program windows; -1 is the last. -/
def prgBanks (registers : Registers) : Vector Int 2 :=
  let bank := registers.prgBank.toNat
  match registers.prgMode with
  | 0 | 1 => #v[(bank / 2 * 2 : Nat), (bank / 2 * 2 + 1 : Nat)]
  | 2 => #v[0, bank]
  | _ => #v[bank, -1]

def chrBanks (registers : Registers) : Vector Int 2 :=
  let bank := registers.chrBank0.toNat
  if registers.splitChr then #v[bank, registers.chrBank1.toNat]
  else #v[(bank / 2 * 2 : Nat), (bank / 2 * 2 + 1 : Nat)]

def mirroring (registers : Registers) : Mirroring :=
  match registers.control.toNat % 4 with
  | 0 => .singleLower
  | 1 => .singleUpper
  | 2 => .vertical
  | _ => .horizontal

/-- Stores a complete value in the register that the address selects. -/
def store (registers : Registers) (address : UInt16) (value : UInt8) : Registers :=
  if address < 0xA000 then { registers with control := value }
  else if address < 0xC000 then { registers with chrBank0 := value }
  else if address < 0xE000 then { registers with chrBank1 := value }
  else { registers with prgBank := value &&& 0x0F }

/-- One write to the serial port. -/
def write (registers : Registers) (address : UInt16) (data : UInt8) : Registers :=
  if data &&& 0x80 != 0 then
    { registers with shift := emptyShift, control := registers.control ||| 0x0C }
  else
    let shifted := (registers.shift >>> 1) ||| ((data &&& 1) <<< 4)
    if registers.shift &&& 1 == 1 then
      { registers.store address shifted with shift := emptyShift }
    else { registers with shift := shifted }

def codec : Codec Registers :=
  (Codec.u8.pair <| Codec.u8.pair <| Codec.u8.pair <| Codec.u8.pair Codec.u8).iso
    (fun (shift, control, chrBank0, chrBank1, prgBank) =>
      { shift, control, chrBank0, chrBank1, prgBank })
    (fun r => (r.shift, r.control, r.chrBank0, r.chrBank1, r.prgBank))

end Mmc1.Registers

/-- The chip with the places its windows show. -/
structure Mmc1 where
  registers : Mmc1.Registers := {}
  /-- Where the two program windows begin. -/
  prgWindows : Vector Nat 2 := #v[0, 0]
  /-- Where the two pattern windows begin. -/
  chrWindows : Vector Nat 2 := #v[0, 0]
  /-- A cycle has passed since the last write that counted. -/
  writeReady : Bool := true
  deriving DecidableEq

namespace Mmc1

/-- The chip with the windows that `registers` select. -/
def withRegisters (registers : Registers) (writeReady : Bool) (memory : CartridgeMemory) :
    Mmc1 where
  registers
  prgWindows := registers.prgBanks.map (memory.prgBankOffset · 0x4000)
  chrWindows := registers.chrBanks.map (memory.chrBankOffset · 0x1000)
  writeReady

def powerOn (memory : CartridgeMemory) : Mmc1 := withRegisters {} true memory

def prgOffset (chip : Mmc1) (address : UInt16) : Nat :=
  have : address.toNat / 0x4000 % 2 < 2 := Nat.mod_lt _ (by decide)
  chip.prgWindows[address.toNat / 0x4000 % 2] + address.toNat % 0x4000

def chrOffset (chip : Mmc1) (address : UInt16) : Nat :=
  have : address.toNat / 0x1000 % 2 < 2 := Nat.mod_lt _ (by decide)
  chip.chrWindows[address.toNat / 0x1000 % 2] + address.toNat % 0x1000

/-- A processor write from 0x8000; it counts only if a cycle has passed since the last one. -/
def write (chip : Mmc1) (memory : CartridgeMemory) (address : UInt16) (data : UInt8) : Mmc1 :=
  if chip.writeReady then withRegisters (chip.registers.write address data) false memory else chip

def step (chip : Mmc1) : Mmc1 := { chip with writeReady := true }

end Mmc1

end Nes
