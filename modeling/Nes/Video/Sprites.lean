import Nes.Codec.Basic
import Nes.Video.PatternRow

/-!
Sprites: 64 of them stand in object memory, four bytes each (row, tile, attributes, column). At the
end of a line the first eight that cover it are selected for the next one.
-/

namespace Nes

abbrev Oam := Vector UInt8 256

/-- A sprite selected for the next line. -/
structure SpriteSlot where
  /-- Its eight pixels. -/
  pattern : UInt32 := 0
  x : UInt8 := 0
  /-- Drawn behind opaque background. -/
  behind : Bool := false
  /-- Its number in object memory. -/
  oamIndex : UInt8 := 0
  tile : UInt8 := 0
  attributes : UInt8 := 0
  /-- The line within the sprite. -/
  row : UInt8 := 0
  deriving DecidableEq

namespace SpriteSlot

/-- A slot that no sprite uses fetches the last tile. -/
def unused : SpriteSlot := { tile := 0xFF }

def flippedHorizontally (slot : SpriteSlot) : Bool := slot.attributes &&& 0x40 != 0

def flippedVertically (slot : SpriteSlot) : Bool := slot.attributes &&& 0x80 != 0

/-- The line of the pattern that is shown, in a sprite of `height` lines. -/
def patternRow (slot : SpriteSlot) (height : UInt8) : UInt8 :=
  let row := min slot.row (height - 1)
  if slot.flippedVertically then height - 1 - row else row

/-- Where the pattern row begins. Small sprites use `table`; tall ones take the table from the
lowest bit of the tile and put two tiles on top of each other. -/
def patternAddress (slot : SpriteSlot) (tall : Bool) (table : UInt16) : UInt16 :=
  if tall then
    let row := slot.patternRow 16
    let base : UInt16 := (slot.tile &&& 1).toUInt16 * 0x1000 + (slot.tile &&& 0xFE).toUInt16 * 16
    if 7 < row then base + 16 + (row - 8).toUInt16 else base + row.toUInt16
  else table + slot.tile.toUInt16 * 16 + (slot.patternRow 8).toUInt16

/-- Keeps the low byte of the pattern row until the high byte arrives. -/
def latchLow (slot : SpriteSlot) (byte : UInt8) : SpriteSlot :=
  { slot with pattern := byte.toUInt32 }

/-- Packs the pixels once the high byte has arrived. -/
def latchHigh (slot : SpriteSlot) (byte : UInt8) : SpriteSlot :=
  let palette := (slot.attributes &&& 3) <<< 2
  let low := slot.pattern.toUInt8
  { slot with
    pattern :=
      if slot.flippedHorizontally then PatternRow.reversed palette low byte
      else PatternRow.forward palette low byte }

/-- The sprite's pixel in a column, if it is opaque there. -/
def opaquePixel? (slot : SpriteSlot) (column : UInt8) : Option UInt8 :=
  if slot.x ≤ column && column - slot.x < 8 then
    let pixel := PatternRow.pixel slot.pattern (column - slot.x)
    if PatternRow.isOpaque pixel then some pixel else none
  else none

def codec : Codec SpriteSlot :=
  (Codec.u32.pair <| Codec.u8.pair <| Codec.bool.pair <| Codec.u8.pair <| Codec.u8.pair <|
    Codec.u8.pair Codec.u8).iso
    (fun (pattern, x, behind, oamIndex, tile, attributes, row) =>
      { pattern, x, behind, oamIndex, tile, attributes, row })
    (fun s => (s.pattern, s.x, s.behind, s.oamIndex, s.tile, s.attributes, s.row))

end SpriteSlot

/-- The sprites of one line. -/
structure Sprites where
  slots : Vector SpriteSlot 8 := Vector.replicate 8 {}
  /-- How many slots are in use. -/
  count : UInt8 := 0
  deriving DecidableEq

namespace Sprites

def entry (oam : Oam) (index : Fin 64) (byte : Fin 4) : UInt8 := oam[index.val * 4 + byte.val]

def covers (oam : Oam) (scanline height : UInt16) (index : Fin 64) : Bool :=
  let top := (entry oam index 0).toUInt16
  top ≤ scanline && scanline - top < height

/-- The sprites that cover the line, in the order of object memory. -/
def covering (oam : Oam) (scanline height : UInt16) : List (Fin 64) :=
  (List.finRange 64).filter (covers oam scanline height)

/-- The slot of a sprite that covers the line; its pixels are still to be fetched. -/
def slotFor (oam : Oam) (scanline : UInt16) (index : Fin 64) : SpriteSlot where
  x := entry oam index 3
  behind := entry oam index 2 &&& 0x20 != 0
  oamIndex := UInt8.ofNat index.val
  tile := entry oam index 1
  attributes := entry oam index 2
  row := (scanline - (entry oam index 0).toUInt16).toUInt8

/-- Fills slots from the first on; the ones behind keep what they held. -/
def fill (slots : Vector SpriteSlot 8) (first : Nat) : List SpriteSlot → Vector SpriteSlot 8
  | [] => slots
  | slot :: rest => fill (slots.setIfInBounds first slot) (first + 1) rest

def select (sprites : Sprites) (oam : Oam) (scanline height : UInt16) : Sprites :=
  let chosen := (covering oam scanline height).take 8
  { slots := fill sprites.slots 0 (chosen.map (slotFor oam scanline))
    count := UInt8.ofNat chosen.length }

def overflows (oam : Oam) (scanline height : UInt16) : Bool :=
  8 < (covering oam scanline height).length

def active (sprites : Sprites) : List SpriteSlot := sprites.slots.toList.take sprites.count.toNat

/-- The first slot with an opaque pixel in a column, and that pixel. -/
def firstOpaque? (sprites : Sprites) (column : UInt8) : Option (UInt8 × SpriteSlot) :=
  sprites.active.findSome? fun slot => (slot.opaquePixel? column).map (·, slot)

/-- The slot at an index, or an unused one past the slots in use. -/
def slotAt (sprites : Sprites) (index : Fin 8) : SpriteSlot :=
  if index.val < sprites.count.toNat then sprites.slots[index] else .unused

/-- Changes the slot at an index if it is in use. -/
def update (sprites : Sprites) (index : Fin 8) (change : SpriteSlot → SpriteSlot) : Sprites :=
  if index.val < sprites.count.toNat then
    { sprites with slots := sprites.slots.set index.val (change sprites.slots[index]) }
  else sprites

end Sprites

end Nes
