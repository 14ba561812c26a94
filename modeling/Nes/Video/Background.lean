import Nes.Video.PatternRow

/-!
The background pipeline: latches for the tile being fetched, and two rows of pixels that move to
the left by one at each dot. The upper row is the one being drawn.
-/

namespace Nes

structure Background where
  /-- The number of the tile. -/
  ntByte : UInt8 := 0
  /-- The tile's palette in bits 2 and 3. -/
  atBits : UInt8 := 0
  patternLo : UInt8 := 0
  patternHi : UInt8 := 0
  /-- Sixteen pixels, leftmost highest. -/
  tileData : UInt64 := 0
  deriving DecidableEq

namespace Background

def shift (background : Background) : Background :=
  { background with tileData := background.tileData <<< 4 }

/-- The palette bits of an attribute byte, at the place of the tile's quadrant. -/
def latchAttribute (background : Background) (byte : UInt8) (place : UInt16) : Background :=
  { background with atBits := ((byte >>> place.toUInt8) &&& 3) <<< 2 }

def row (background : Background) : UInt32 :=
  PatternRow.forward background.atBits background.patternLo background.patternHi

/-- Puts the latched tile's row behind the one being drawn. -/
def storeTile (background : Background) : Background :=
  { background with tileData := background.tileData ||| background.row.toUInt64 }

def pixel (background : Background) (fineX : UInt8) : UInt8 :=
  PatternRow.pixel (background.tileData >>> 32).toUInt32 fineX

/-- Where the tile's row begins in a pattern table. -/
def patternAddress (background : Background) (table fineY : UInt16) : UInt16 :=
  table + background.ntByte.toUInt16 * 16 + fineY

end Background

end Nes
