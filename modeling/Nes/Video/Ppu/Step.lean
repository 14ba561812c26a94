import Nes.Video.Ppu.Basic

/-!
One dot of the picture unit: show a pixel, run the fetches of that dot, mark the vertical blank,
and go on to the next place.
-/

namespace Nes.Ppu

/-! ### Pixels -/

def putPixel (ppu : Ppu) (column : UInt8) (entry : UInt8) : Ppu :=
  let place := ppu.raster.scanline.toNat * frameWidth + column.toNat
  { ppu with frame := ppu.frame.setIfInBounds place entry }

def backgroundPixel (ppu : Ppu) (column : UInt8) : UInt8 :=
  if ppu.showsBackground column then ppu.background.pixel ppu.scroll.fineX else 0

/-- The first opaque sprite in a column, and its pixel. -/
def spritePixel? (ppu : Ppu) (column : UInt8) : Option (UInt8 × SpriteSlot) :=
  if ppu.showsSprites column then ppu.sprites.firstOpaque? column else none

/-- The palette index that a column shows, of a background pixel and the first opaque sprite. -/
def compose (background : UInt8) (sprite : Option (UInt8 × SpriteSlot)) : UInt8 :=
  match sprite with
  | none => if PatternRow.isOpaque background then background else 0
  | some (pixel, slot) =>
    if PatternRow.isOpaque background && slot.behind then background else pixel ||| 0x10

/-- Sprite zero meets opaque background; the last column does not count. -/
def hitsSpriteZero (background : UInt8) (sprite : Option (UInt8 × SpriteSlot)) (column : UInt8) :
    Bool :=
  match sprite with
  | none => false
  | some (_, slot) => PatternRow.isOpaque background && slot.oamIndex == 0 && column < 255

def shownEntry (ppu : Ppu) (index : UInt8) : UInt8 :=
  ppu.palette.read (index.toUInt16 ||| 0x3F00) &&& ppu.greyscaleMask

def renderPixel (ppu : Ppu) : Ppu :=
  let column := ppu.raster.column
  let background := ppu.backgroundPixel column
  let sprite := ppu.spritePixel? column
  let entry := ppu.shownEntry (compose background sprite)
  let status :=
    if hitsSpriteZero background sprite column then ppu.status ||| spriteZeroFlag else ppu.status
  putPixel { ppu with status } column entry

/-- A dot while nothing is drawn: the picture shows the backdrop. -/
def blankDot (ppu : Ppu) : Ppu :=
  if ppu.raster.visibleLine && ppu.raster.visibleDot then
    ppu.putPixel ppu.raster.column (ppu.shownEntry 0)
  else ppu

/-! ### Fetches -/

def backgroundAddress (ppu : Ppu) : UInt16 :=
  ppu.background.patternAddress ppu.backgroundTable ppu.scroll.fineY

/-- The eight-dot cycle of a tile: number, palette, low and high pattern byte, and at its end the
tile joins the row and the address moves on. -/
def fetchTile (ppu : Ppu) (cart : Cartridge) : Ppu × Cartridge :=
  let ppu := { ppu with background := ppu.background.shift }
  match (ppu.raster.dot % 8).toNat with
  | 1 =>
    let (byte, cart) := ppu.readVram cart ppu.scroll.tileAddress
    ({ ppu with background := { ppu.background with ntByte := byte } }, cart)
  | 3 =>
    let (byte, cart) := ppu.readVram cart ppu.scroll.attributeAddress
    let place := ppu.scroll.attributeShift
    ({ ppu with background := ppu.background.latchAttribute byte place }, cart)
  | 5 =>
    let (byte, cart) := ppu.readVram cart ppu.backgroundAddress
    ({ ppu with background := { ppu.background with patternLo := byte } }, cart)
  | 7 =>
    let (byte, cart) := ppu.readVram cart (ppu.backgroundAddress + 8)
    ({ ppu with background := { ppu.background with patternHi := byte } }, cart)
  | 0 =>
    ({ ppu with
        background := ppu.background.storeTile
        scroll := ppu.scroll.incrementX },
      cart)
  | _ => (ppu, cart)

/-- Selects the sprites of the next line; the line before the picture selects none. -/
def evaluateSprites (ppu : Ppu) : Ppu :=
  if ppu.raster.visibleLine then
    let scanline := ppu.raster.scanline
    let height := ppu.spriteHeight
    let overflow := Sprites.overflows ppu.oam scanline height
    { ppu with
      sprites := ppu.sprites.select ppu.oam scanline height
      status := if overflow then ppu.status ||| overflowFlag else ppu.status }
  else { ppu with sprites := { ppu.sprites with count := 0 } }

/-- The slot whose eight dots the present dot, from 257 on, belongs to. -/
def fetchSlot (ppu : Ppu) : Fin 8 := Fin.ofNat 8 ((ppu.raster.dot - 257) / 8).toNat

/-- Fetches the pattern of a slot, low byte on its fifth dot and high byte on its seventh. Unused
slots fetch too, so that the cartridge always sees the same traffic. -/
def fetchSprite (ppu : Ppu) (cart : Cartridge) : Ppu × Cartridge :=
  let slot := ppu.fetchSlot
  let address := (ppu.sprites.slotAt slot).patternAddress ppu.tallSprites ppu.spriteTable
  match ((ppu.raster.dot - 257) % 8).toNat with
  | 4 =>
    let (byte, cart) := ppu.readVram cart address
    ({ ppu with sprites := ppu.sprites.update slot (·.latchLow byte) }, cart)
  | 6 =>
    let (byte, cart) := ppu.readVram cart (address + 8)
    ({ ppu with sprites := ppu.sprites.update slot (·.latchHigh byte) }, cart)
  | _ => (ppu, cart)

/-- The sprite fetches of dots 257 to 320, which hold the object address at zero. -/
def spriteDot (ppu : Ppu) (cart : Cartridge) : Ppu × Cartridge :=
  if ppu.raster.dotIn 257 320 then fetchSprite { ppu with oamAddr := 0 } cart else (ppu, cart)

/-- The tile fetches of the visible dots and of the first two tiles of the next line. -/
def tileDot (ppu : Ppu) (cart : Cartridge) : Ppu × Cartridge :=
  if ppu.raster.visibleDot || ppu.raster.dotIn 321 336 then ppu.fetchTile cart else (ppu, cart)

/-- At the end of the picture's line the address moves down, then back to the left, and the next
line's sprites are selected. -/
def lineEnd (ppu : Ppu) : Ppu :=
  if ppu.raster.dot == 256 then { ppu with scroll := ppu.scroll.incrementY }
  else if ppu.raster.dot == 257 then evaluateSprites { ppu with scroll := ppu.scroll.copyX }
  else ppu

/-- Before the picture the address is moved to its top. -/
def frameStart (ppu : Ppu) : Ppu :=
  if ppu.raster.preRenderLine && ppu.raster.dotIn 280 304 then
    { ppu with scroll := ppu.scroll.copyY }
  else ppu

/-- The fetches of one dot of a line that takes part in drawing. -/
def fetchDot (ppu : Ppu) (cart : Cartridge) : Ppu × Cartridge :=
  let (ppu, cart) := ppu.tileDot cart
  let (ppu, cart) := ppu.lineEnd.spriteDot cart
  (ppu.frameStart, cart)

/-- A dot while the picture is drawn. -/
def renderDot (ppu : Ppu) (cart : Cartridge) : Ppu × Cartridge :=
  let ppu := if ppu.raster.visibleLine && ppu.raster.visibleDot then ppu.renderPixel else ppu
  if ppu.raster.renderLine then ppu.fetchDot cart else (ppu, cart)

/-! ### Time -/

def startVblank (ppu : Ppu) : Ppu :=
  let ppu :=
    if ppu.suppressVblank then ppu
    else
      { ppu with
        status := ppu.status ||| vblankFlag
        nmiPending := ppu.nmiPending || ppu.nmiEnabled }
  { ppu with
    suppressVblank := false
    frameComplete := true
    raster := { ppu.raster with frameCount := ppu.raster.frameCount + 1 } }

/-- Begins and ends the vertical blank at their dots. -/
def markVblank (ppu : Ppu) : Ppu :=
  if ppu.raster.startsVblank then ppu.startVblank
  else if ppu.raster.endsVblank then { ppu with status := ppu.status &&& 0x1F }
  else ppu

/-- The lingering value fades and the place moves on. -/
def advance (ppu : Ppu) : Ppu :=
  { ppu with
    openBus := ppu.openBus.tick
    raster := ppu.raster.advance ppu.rendering }

/-- Processes the present dot. -/
def step (ppu : Ppu) (cart : Cartridge) : Ppu × Cartridge :=
  let (ppu, cart) := if ppu.rendering then ppu.renderDot cart else (ppu.blankDot, cart)
  (ppu.markVblank.advance, cart)

end Nes.Ppu
