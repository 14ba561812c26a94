import Nes.Cartridge.Header

/-!
A whole cartridge image: header, optional trainer, program and patterns. Trailing bytes are ignored
and an image is written without a trainer.
-/

namespace Nes

/-- A cartridge image taken apart. No pattern bytes means that the board has writable patterns. -/
structure Rom where
  header : Header
  prg : List UInt8
  chr : List UInt8
  /-- The board's revision, which a header cannot express. -/
  submapper : UInt8 := 0
  deriving DecidableEq

namespace Rom

def trainerSize : Nat := 512

/-- The bytes behind the header and the trainer. -/
def bodyOf (header : Header) (data : List UInt8) : List UInt8 :=
  data.drop (Header.size + if header.hasTrainer then trainerSize else 0)

def parse (data : List UInt8) : Except RomError Rom := do
  let header ← Header.parse data
  if header.prgChunks == 0 then .error .noPrg
  else
    let body := bodyOf header data
    let prg := body.take header.prgLength
    if prg.length != header.prgLength then
      .error (.truncatedPrg header.prgLength prg.length)
    else
      let rest := body.drop header.prgLength
      let chr := rest.take header.chrLength
      if chr.length != header.chrLength then
        .error (.truncatedChr header.chrLength chr.length)
      else .ok { header, prg, chr }

def toBytes (rom : Rom) : List UInt8 := rom.header.withoutTrainer.toBytes ++ rom.prg ++ rom.chr

end Rom

end Nes
