import Nes.Cartridge.Board

/-!
A cartridge: memories behind a board. The processor sees work memory from 0x6000 and program memory
from 0x8000, the picture unit sees patterns below 0x2000.
-/

namespace Nes

/-- Why a byte string is not a cartridge that can be played. -/
inductive LoadError where
  | rom (error : RomError)
  | mapper (error : MapperError)
  deriving DecidableEq

def LoadError.message : LoadError → String
  | .rom error => error.message
  | .mapper error => error.message

structure Cartridge where
  memory : CartridgeMemory
  board : Board
  mapperId : UInt8
  battery : Bool
  deriving DecidableEq

namespace Cartridge

def ofRom (rom : Rom) : Except MapperError Cartridge := do
  let memory := CartridgeMemory.ofRom rom
  let board ← Board.ofRom rom memory
  return { memory, board, mapperId := rom.header.mapperId, battery := rom.header.battery }

def ofBytes (data : List UInt8) : Except LoadError Cartridge :=
  match Rom.parse data with
  | .error error => .error (.rom error)
  | .ok rom =>
    match ofRom rom with
    | .error error => .error (.mapper error)
    | .ok cartridge => .ok cartridge

/-- The byte at an address; addresses that nothing answers read as zero. -/
def read (cartridge : Cartridge) (address : UInt16) : UInt8 :=
  let { memory, board, .. } := cartridge
  if 0x8000 ≤ address then memory.readPrg (board.prgOffset memory address)
  else if 0x6000 ≤ address then memory.readSram address
  else if address < 0x2000 then memory.readChr (board.chrOffset memory address)
  else 0

/-- Writes patterns, work memory or the board's registers. -/
def write (cartridge : Cartridge) (address : UInt16) (data : UInt8) : Cartridge :=
  if 0x8000 ≤ address then
    { cartridge with board := cartridge.board.write cartridge.memory address data }
  else if 0x6000 ≤ address then
    { cartridge with memory := cartridge.memory.writeSram address data }
  else if address < 0x2000 then
    let place := cartridge.board.chrOffset cartridge.memory address
    { cartridge with memory := cartridge.memory.writeChr place data }
  else cartridge

def mirroring (cartridge : Cartridge) : Mirroring := cartridge.board.mirroring

def step (cartridge : Cartridge) : Cartridge := { cartridge with board := cartridge.board.step }

/-- The picture unit puts an address on its bus. -/
def observe (cartridge : Cartridge) (address : UInt16) : Cartridge :=
  { cartridge with board := cartridge.board.observe address }

def irq (cartridge : Cartridge) : Bool := cartridge.board.irq

def sram (cartridge : Cartridge) : List UInt8 := cartridge.memory.sram.toList

/-- Overwrites work memory from its start with as many bytes as fit. -/
def loadSram (cartridge : Cartridge) (data : List UInt8) : Cartridge :=
  { cartridge with memory := cartridge.memory.loadSram data }

end Cartridge

end Nes
