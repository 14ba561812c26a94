import Nes.Cartridge.Basic

/-!
What a snapshot records of a cartridge, and how a cartridge takes it back. The writable memories
are replaced first; a snapshot whose registers belong to another board is refused after that, so a
caller that wants all or nothing has to put a copy back.
-/

namespace Nes

/-- The writable part of a cartridge. -/
structure CartridgeState where
  mapperId : UInt8
  sram : List UInt8
  chrRam : Option (List UInt8)
  board : BoardState
  deriving DecidableEq

namespace CartridgeState

def codec : Codec CartridgeState :=
  (Codec.u8.pair <| Codec.bytes.pair <| (Codec.option Codec.bytes).pair BoardState.codec).iso
    (fun (mapperId, sram, chrRam, board) => { mapperId, sram, chrRam, board })
    (fun s => (s.mapperId, s.sram, s.chrRam, s.board))

end CartridgeState

namespace Cartridge

def save (cartridge : Cartridge) : CartridgeState where
  mapperId := cartridge.board.mapperId
  sram := cartridge.memory.sram.toList
  chrRam := cartridge.memory.chrRam
  board := cartridge.board.state

/-- Takes back what was recorded. A refusal comes with the cartridge as it is left. -/
def load (cartridge : Cartridge) (state : CartridgeState) :
    Except Snapshot.Fault Unit × Cartridge :=
  if state.mapperId != cartridge.mapperId then
    (.error (.mapperMismatch state.mapperId cartridge.mapperId), cartridge)
  else
    match cartridge.memory.restore state.sram state.chrRam with
    | .error fault => (.error fault, cartridge)
    | .ok memory =>
      match cartridge.board.restore? memory state.board with
      | some board => (.ok (), { cartridge with memory, board })
      | none => (.error (.sizeMismatch .board), { cartridge with memory })

end Cartridge

end Nes
