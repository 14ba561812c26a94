import Nes.Cartridge.Mmc1
import Nes.Cartridge.Mmc3

/-!
The supported boards. A board says which bytes of the cartridge's memories the processor and the
picture unit see, how the nametables are wired, and what writes to program addresses mean.
-/

namespace Nes

/-- A cartridge whose board is not known. -/
inductive MapperError where
  | unsupported (mapperId : UInt8)
  deriving DecidableEq

def MapperError.message : MapperError → String
  | .unsupported mapperId => "unsupported mapper " ++ toString mapperId.toNat

/-- A board and its state. -/
inductive Board where
  /-- No banks. -/
  | nrom (mirroring : Mirroring)
  | mmc1 (chip : Mmc1)
  /-- A switchable program bank in front of the last one. -/
  | uxRom (mirroring : Mirroring) (prgBank : UInt8)
  /-- A switchable pattern bank. -/
  | cnRom (mirroring : Mirroring) (chrBank : UInt8)
  | mmc3 (chip : Mmc3)
  /-- Large program banks; one bit picks the single nametable. -/
  | axRom (register : UInt8)
  deriving DecidableEq

/-- The registers of a board, as a snapshot records them. -/
inductive BoardState where
  | nrom
  | mmc1 (registers : Mmc1.Registers)
  | uxRom (prgBank : UInt8)
  | cnRom (chrBank : UInt8)
  | mmc3 (registers : Mmc3.Registers)
  | axRom (register : UInt8)
  deriving DecidableEq

namespace BoardState

def codec : Codec BoardState where
  encode
    | nrom => Codec.u32.encode 0
    | mmc1 registers => Codec.u32.encode 1 ++ Mmc1.Registers.codec.encode registers
    | uxRom prgBank => Codec.u32.encode 2 ++ Codec.u8.encode prgBank
    | cnRom chrBank => Codec.u32.encode 3 ++ Codec.u8.encode chrBank
    | mmc3 registers => Codec.u32.encode 4 ++ Mmc3.Registers.codec.encode registers
    | axRom register => Codec.u32.encode 5 ++ Codec.u8.encode register
  decode bytes := do
    let (tag, rest) ← Codec.u32.decode bytes
    match tag.toNat with
    | 0 => return (nrom, rest)
    | 1 =>
      let (registers, rest) ← Mmc1.Registers.codec.decode rest
      return (mmc1 registers, rest)
    | 2 =>
      let (prgBank, rest) ← Codec.u8.decode rest
      return (uxRom prgBank, rest)
    | 3 =>
      let (chrBank, rest) ← Codec.u8.decode rest
      return (cnRom chrBank, rest)
    | 4 =>
      let (registers, rest) ← Mmc3.Registers.codec.decode rest
      return (mmc3 registers, rest)
    | 5 =>
      let (register, rest) ← Codec.u8.decode rest
      return (axRom register, rest)
    | _ => .error (.invalidVariant tag 6)

end BoardState

namespace Board

/-- The board for an image, by the number in its header. -/
def ofRom (rom : Rom) (memory : CartridgeMemory) : Except MapperError Board :=
  let mirroring := rom.header.mirroring
  match rom.header.mapperId.toNat with
  | 0 => .ok (nrom mirroring)
  | 1 => .ok (mmc1 (Mmc1.powerOn memory))
  | 2 => .ok (uxRom mirroring 0)
  | 3 => .ok (cnRom mirroring 0)
  | 4 => .ok (mmc3 (Mmc3.powerOn (if rom.submapper == 3 then .mcAcc else .sharp) mirroring memory))
  | 7 => .ok (axRom 0)
  | _ => .error (.unsupported rom.header.mapperId)

def mapperId : Board → UInt8
  | nrom _ => 0
  | mmc1 _ => 1
  | uxRom _ _ => 2
  | cnRom _ _ => 3
  | mmc3 _ => 4
  | axRom _ => 7

def mirroring : Board → Mirroring
  | nrom mirroring => mirroring
  | mmc1 chip => chip.registers.mirroring
  | uxRom mirroring _ => mirroring
  | cnRom mirroring _ => mirroring
  | mmc3 chip => chip.registers.mirroring
  | axRom register => if register &&& 0x10 != 0 then .singleUpper else .singleLower

/-- The place in program memory that an address from 0x8000 shows. -/
def prgOffset (board : Board) (memory : CartridgeMemory) (address : UInt16) : Nat :=
  match board with
  | nrom _ => address.toNat % 0x8000
  | mmc1 chip => chip.prgOffset address
  | uxRom _ prgBank =>
    let bank : Int := if address < 0xC000 then (prgBank.toNat : Int) else -1
    memory.prgBankOffset bank 0x4000 + address.toNat % 0x4000
  | cnRom _ _ => address.toNat % 0x8000
  | mmc3 chip => chip.prgOffset address
  | axRom register =>
    memory.prgBankOffset (register.toNat % 8 : Nat) 0x8000 + address.toNat % 0x8000

/-- The place in pattern memory that an address below 0x2000 shows. -/
def chrOffset (board : Board) (memory : CartridgeMemory) (address : UInt16) : Nat :=
  match board with
  | nrom _ => address.toNat
  | mmc1 chip => chip.chrOffset address
  | uxRom _ _ => address.toNat
  | cnRom _ chrBank => memory.chrBankOffset (chrBank.toNat : Int) 0x2000 + address.toNat
  | mmc3 chip => chip.chrOffset address
  | axRom _ => address.toNat

def write (board : Board) (memory : CartridgeMemory) (address : UInt16) (data : UInt8) : Board :=
  match board with
  | nrom mirroring => nrom mirroring
  | mmc1 chip => mmc1 (chip.write memory address data)
  | uxRom mirroring _ => uxRom mirroring data
  | cnRom mirroring _ => cnRom mirroring data
  | mmc3 chip => mmc3 (chip.write memory address data)
  | axRom _ => axRom data

def step : Board → Board
  | mmc1 chip => mmc1 chip.step
  | mmc3 chip => mmc3 chip.step
  | board => board

/-- The picture unit puts an address on its bus. -/
def observe (board : Board) (address : UInt16) : Board :=
  match board with
  | mmc3 chip => mmc3 (chip.observe address)
  | board => board

def irq : Board → Bool
  | mmc3 chip => chip.registers.irqPending
  | _ => false

def state : Board → BoardState
  | nrom _ => .nrom
  | mmc1 chip => .mmc1 chip.registers
  | uxRom _ prgBank => .uxRom prgBank
  | cnRom _ chrBank => .cnRom chrBank
  | mmc3 chip => .mmc3 chip.registers
  | axRom register => .axRom register

/-- The board with recorded registers, if they are of the same kind; the windows follow them. -/
def restore? (board : Board) (memory : CartridgeMemory) (state : BoardState) : Option Board :=
  match board, state with
  | nrom mirroring, .nrom => some (nrom mirroring)
  | mmc1 _, .mmc1 registers => some (mmc1 (Mmc1.withRegisters registers true memory))
  | uxRom mirroring _, .uxRom prgBank => some (uxRom mirroring prgBank)
  | cnRom mirroring _, .cnRom chrBank => some (cnRom mirroring chrBank)
  | mmc3 chip, .mmc3 registers => some (mmc3 (chip.withRegisters registers memory))
  | axRom _, .axRom register => some (axRom register)
  | _, _ => none

end Board

end Nes
