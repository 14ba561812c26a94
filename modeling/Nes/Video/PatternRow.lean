/-!
Eight pixels in a row. A pattern row is stored as two bytes, one for each bit of a pixel; drawn
rows are packed as eight groups of four bits, leftmost in the highest group.
-/

namespace Nes.PatternRow

def bits (low high : UInt8) (column : Fin 8) : UInt8 :=
  let place := 7 - UInt8.ofNat column.val
  (((high >>> place) &&& 1) <<< 1) ||| ((low >>> place) &&& 1)

/-- Packs eight pixels, leftmost first. -/
def pack (pixel : Fin 8 → UInt8) : UInt32 :=
  Fin.foldl 8 (fun packed column => (packed <<< 4) ||| (pixel column).toUInt32) 0

/-- The pixels of a row whose upper bits are `palette`. -/
def forward (palette low high : UInt8) : UInt32 :=
  pack fun column => palette ||| bits low high column

def reversed (palette low high : UInt8) : UInt32 :=
  pack fun column => palette ||| bits low high column.rev

/-- The four bits of the pixel at a place counted from the left. -/
def pixel (row : UInt32) (place : UInt8) : UInt8 :=
  ((row >>> ((7 - place.toUInt32) * 4)) &&& 0x0F).toUInt8

/-- A pixel is transparent if its pattern bits are zero. -/
def isOpaque (pixel : UInt8) : Bool := pixel &&& 3 != 0

end Nes.PatternRow
