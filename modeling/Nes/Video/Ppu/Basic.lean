import Nes.Cartridge.Basic
import Nes.Settings
import Nes.Video.Background
import Nes.Video.OpenBus
import Nes.Video.Palette
import Nes.Video.Raster
import Nes.Video.Scroll
import Nes.Video.Sprites

/-!
The picture unit's state, the meaning of its register bits, and its address space: patterns in the
cartridge, nametables wired by the cartridge, and the palette.
-/

namespace Nes

structure Ppu where
  raster : Raster := {}
  /-- A picture is complete and the host has not taken it. -/
  frameComplete : Bool := false
  ctrl : UInt8 := 0
  mask : UInt8 := 0
  /-- Vertical blank, sprite zero and overflow in the upper three bits. -/
  status : UInt8 := 0
  scroll : Scroll := {}
  /-- The byte that the next data read reports. -/
  readBuffer : UInt8 := 0
  openBus : OpenBus := {}
  oam : Oam := Vector.replicate 256 0
  oamAddr : UInt8 := 0
  /-- The console's 2 KiB, and room for four-screen cartridges. -/
  nametables : Vector UInt8 0x1000 := Vector.replicate 0x1000 0
  palette : Palette := {}
  background : Background := {}
  sprites : Sprites := {}
  /-- An interrupt edge that waits for the processor. -/
  nmiPending : Bool := false
  /-- A status read just before the vertical blank cancels its flag and its interrupt. -/
  suppressVblank : Bool := false
  /-- The picture as palette entries, row by row. -/
  frame : Vector UInt8 (frameWidth * frameHeight) := Vector.replicate _ 0

namespace Ppu

/-! ### Register bits -/

def vblankFlag : UInt8 := 0x80
def spriteZeroFlag : UInt8 := 0x40
def overflowFlag : UInt8 := 0x20

def nmiEnabled (ppu : Ppu) : Bool := ppu.ctrl &&& 0x80 != 0

def tallSprites (ppu : Ppu) : Bool := ppu.ctrl &&& 0x20 != 0

def spriteHeight (ppu : Ppu) : UInt16 := if ppu.tallSprites then 16 else 8

def backgroundTable (ppu : Ppu) : UInt16 := if ppu.ctrl &&& 0x10 != 0 then 0x1000 else 0

def spriteTable (ppu : Ppu) : UInt16 := if ppu.ctrl &&& 0x08 != 0 then 0x1000 else 0

/-- How far a data access moves the address outside of drawing. -/
def addressStep (ppu : Ppu) : UInt16 := if ppu.ctrl &&& 0x04 != 0 then 32 else 1

/-- The picture is drawn. -/
def rendering (ppu : Ppu) : Bool := ppu.mask &&& 0x18 != 0

/-- The picture is drawn and this line takes part. -/
def drawing (ppu : Ppu) : Bool := ppu.rendering && ppu.raster.renderLine

def showsBackground (ppu : Ppu) (column : UInt8) : Bool :=
  ppu.mask &&& 0x08 != 0 && (8 ≤ column || ppu.mask &&& 0x02 != 0)

def showsSprites (ppu : Ppu) (column : UInt8) : Bool :=
  ppu.mask &&& 0x10 != 0 && (8 ≤ column || ppu.mask &&& 0x04 != 0)

/-- The bits of a palette entry that are shown. -/
def greyscaleMask (ppu : Ppu) : UInt8 := if ppu.mask &&& 0x01 != 0 then 0x30 else 0x3F

/-! ### Address space -/

/-- Reads the picture unit's address space; the cartridge sees pattern addresses. -/
def readVram (ppu : Ppu) (cart : Cartridge) (address : UInt16) : UInt8 × Cartridge :=
  let address := address &&& 0x3FFF
  if address < 0x2000 then
    let cart := cart.observe address
    (cart.read address, cart)
  else if address < 0x3F00 then
    have := cart.mirroring.nametableOffset_lt address
    (ppu.nametables[cart.mirroring.nametableOffset address], cart)
  else (ppu.palette.read address, cart)

def writeVram (ppu : Ppu) (cart : Cartridge) (address : UInt16) (data : UInt8) :
    Ppu × Cartridge :=
  let address := address &&& 0x3FFF
  if address < 0x2000 then (ppu, (cart.observe address).write address data)
  else if address < 0x3F00 then
    let place := cart.mirroring.nametableOffset address
    ({ ppu with
        nametables := ppu.nametables.set place data (cart.mirroring.nametableOffset_lt address) },
      cart)
  else ({ ppu with palette := ppu.palette.write address data }, cart)

/-! ### Lines to the processor -/

/-- The reset line: control, mask, temporary scroll and read buffer are cleared, the position is
not. -/
def reset (ppu : Ppu) : Ppu :=
  { ppu with
    ctrl := 0
    mask := 0
    scroll := { ppu.scroll with t := 0, fineX := 0, w := false }
    readBuffer := 0
    nmiPending := false }

/-- The first dots of the vertical blank, in which a status read can still cancel the interrupt and
the processor does not see it yet. -/
def nmiHidden (ppu : Ppu) : Bool :=
  ppu.raster.scanline == Raster.vblankScanline && ppu.raster.dot ≤ 3

/-- Takes the pending interrupt edge, if the processor can see one. -/
def pollNmi (ppu : Ppu) : Bool × Ppu :=
  if ppu.nmiHidden then (false, ppu) else (ppu.nmiPending, { ppu with nmiPending := false })

/-- The picture as 0xRRGGBB, row by row. -/
def frameRgb (ppu : Ppu) : List UInt32 := ppu.frame.toList.map Palette.rgb

end Ppu

end Nes
