/-!
Where the picture unit stands: a frame has 262 scanlines of 341 dots. The position is the next dot
to be processed. Lines 0 to 239 are visible, line 241 begins the vertical blank, and line 261
prepares the next picture.
-/

namespace Nes

/-- A place in the stream of frames. -/
structure Raster where
  scanline : UInt16 := 0
  dot : UInt16 := 0
  oddFrame : Bool := false
  /-- Vertical blanks so far. -/
  frameCount : UInt64 := 0
  deriving DecidableEq

namespace Raster

def dotsPerScanline : UInt16 := 341
def scanlinesPerFrame : UInt16 := 262
def vblankScanline : UInt16 := 241
def preRenderScanline : UInt16 := 261

def dotsPerFrame : Nat := 341 * 262

def visibleLine (raster : Raster) : Bool := raster.scanline < 240

/-- A dot that shows a pixel on a visible line. -/
def visibleDot (raster : Raster) : Bool := 1 ≤ raster.dot && raster.dot ≤ 256

def preRenderLine (raster : Raster) : Bool := raster.scanline == preRenderScanline

/-- A line on which tiles and sprites are fetched. -/
def renderLine (raster : Raster) : Bool := raster.visibleLine || raster.preRenderLine

def dotIn (raster : Raster) (first last : UInt16) : Bool := first ≤ raster.dot && raster.dot ≤ last

/-- The column of the pixel that a visible dot shows. -/
def column (raster : Raster) : UInt8 := (raster.dot - 1).toUInt8

def startsVblank (raster : Raster) : Bool := raster.scanline == vblankScanline && raster.dot == 1

def endsVblank (raster : Raster) : Bool := raster.preRenderLine && raster.dot == 1

/-- The last dot of the preparing line is left out of odd frames while the picture is drawn. -/
def skipsDot (raster : Raster) (rendering : Bool) : Bool :=
  raster.preRenderLine && raster.dot == 339 && raster.oddFrame && rendering

def advance (raster : Raster) (rendering : Bool) : Raster :=
  if raster.skipsDot rendering then { raster with dot := 0, scanline := 0, oddFrame := false }
  else if raster.dot + 1 != dotsPerScanline then { raster with dot := raster.dot + 1 }
  else if raster.scanline + 1 != scanlinesPerFrame then
    { raster with dot := 0, scanline := raster.scanline + 1 }
  else { raster with dot := 0, scanline := 0, oddFrame := !raster.oddFrame }

/-- A place that occurs within a frame. -/
def valid (raster : Raster) : Bool :=
  raster.scanline < scanlinesPerFrame && raster.dot < dotsPerScanline

end Raster

end Nes
