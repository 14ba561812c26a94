import Nes.Video.Ppu.Basic

/-!
The eight registers through which the processor reaches the picture unit. Only the low three bits
of an address matter.
-/

namespace Nes.Ppu

def drive (ppu : Ppu) (value : UInt8) : Ppu := { ppu with openBus := ppu.openBus.drive value }

/-- The address after a data access. While the picture is drawn it moves one tile to the right and
one line down; otherwise the cartridge sees the new address. -/
def incrementAddress (ppu : Ppu) (cart : Cartridge) : Ppu × Cartridge :=
  if ppu.drawing then ({ ppu with scroll := ppu.scroll.incrementX.incrementY }, cart)
  else
    let scroll := ppu.scroll.advance ppu.addressStep
    ({ ppu with scroll }, cart.observe (scroll.v &&& 0x3FFF))

/-- The status bits over the lingering value. -/
def statusByte (ppu : Ppu) : UInt8 := ppu.status ||| (ppu.openBus.value &&& 0x1F)

/-- What a status read does to the vertical blank that is about to begin or has just begun. -/
def raceStatus (ppu : Ppu) : Ppu :=
  if ppu.raster.scanline != Raster.vblankScanline then ppu
  else if ppu.raster.dot == 1 then { ppu with suppressVblank := true }
  else if ppu.raster.dot == 2 || ppu.raster.dot == 3 then { ppu with nmiPending := false }
  else ppu

/-- Reads the status, which clears the vertical blank and the write toggle. The value lingers but
keeps the lifetime it had. -/
def readStatus (ppu : Ppu) : UInt8 × Ppu :=
  let ppu := ppu.raceStatus
  let value := ppu.statusByte
  (value, { ppu with
    status := ppu.status &&& ~~~vblankFlag
    scroll := { ppu.scroll with w := false }
    openBus := { ppu.openBus with value } })

def oamByte (ppu : Ppu) : UInt8 :=
  have := ppu.oamAddr.toNat_lt
  ppu.oam[ppu.oamAddr.toNat]

/-- Reads object memory; three bits of the attribute bytes do not exist. -/
def readOam (ppu : Ppu) : UInt8 × Ppu :=
  let value := if ppu.oamAddr &&& 3 == 2 then ppu.oamByte &&& 0xE3 else ppu.oamByte
  (value, ppu.drive value)

/-- Reads data. Below the palette the answer is one read late; the palette answers at once and
leaves the nametable byte underneath in the buffer. -/
def readData (ppu : Ppu) (cart : Cartridge) : UInt8 × Ppu × Cartridge :=
  let address := ppu.scroll.v &&& 0x3FFF
  if 0x3F00 ≤ address then
    let (under, cart) := ppu.readVram cart (address - 0x1000)
    let (entry, cart) := ppu.readVram cart address
    let value := (entry &&& 0x3F) ||| (ppu.openBus.value &&& 0xC0)
    let (ppu, cart) := incrementAddress { ppu with readBuffer := under } cart
    (value, ppu.drive value, cart)
  else
    let value := ppu.readBuffer
    let (next, cart) := ppu.readVram cart address
    let (ppu, cart) := incrementAddress { ppu with readBuffer := next } cart
    (value, ppu.drive value, cart)

/-- Reads a register; the ones that cannot be read show the lingering value. -/
def readRegister (ppu : Ppu) (cart : Cartridge) (address : UInt16) : UInt8 × Ppu × Cartridge :=
  match (address &&& 7).toNat with
  | 2 =>
    let (value, ppu) := ppu.readStatus
    (value, ppu, cart)
  | 4 =>
    let (value, ppu) := ppu.readOam
    (value, ppu, cart)
  | 7 => ppu.readData cart
  | _ => (ppu.openBus.value, ppu, cart)

/-- A view of a register that changes nothing. -/
def peekRegister (ppu : Ppu) (address : UInt16) : UInt8 :=
  match (address &&& 7).toNat with
  | 2 => ppu.statusByte
  | 4 => ppu.oamByte
  | 7 => ppu.readBuffer
  | _ => ppu.openBus.value

/-- Writes object memory and goes on to the next byte. -/
def writeOam (ppu : Ppu) (data : UInt8) : Ppu :=
  { ppu with
    oam := ppu.oam.set ppu.oamAddr.toNat data ppu.oamAddr.toNat_lt
    oamAddr := ppu.oamAddr + 1 }

/-- Writes the control register. Switching the interrupt on during the vertical blank raises it,
switching it off takes back an edge that has not been seen. -/
def writeCtrl (ppu : Ppu) (data : UInt8) : Ppu :=
  let enabled := data &&& 0x80 != 0
  let raised := !ppu.nmiEnabled && ppu.status &&& vblankFlag != 0
  { ppu with
    ctrl := data
    scroll := ppu.scroll.writeCtrl data
    nmiPending := enabled && (ppu.nmiPending || raised) }

/-- Writes the address register; the cartridge sees a new address. -/
def writeAddress (ppu : Ppu) (cart : Cartridge) (data : UInt8) : Ppu × Cartridge :=
  let (changed, scroll) := ppu.scroll.writeAddress data
  ({ ppu with scroll }, if changed then cart.observe (scroll.v &&& 0x3FFF) else cart)

def writeData (ppu : Ppu) (cart : Cartridge) (data : UInt8) : Ppu × Cartridge :=
  let (ppu, cart) := ppu.writeVram cart ppu.scroll.v data
  ppu.incrementAddress cart

/-- Writes a register; every write lingers. -/
def writeRegister (ppu : Ppu) (cart : Cartridge) (address : UInt16) (data : UInt8) :
    Ppu × Cartridge :=
  let ppu := ppu.drive data
  match (address &&& 7).toNat with
  | 0 => (ppu.writeCtrl data, cart)
  | 1 => ({ ppu with mask := data }, cart)
  | 2 => (ppu, cart)
  | 3 => ({ ppu with oamAddr := data }, cart)
  | 4 => (ppu.writeOam data, cart)
  | 5 => ({ ppu with scroll := ppu.scroll.writeScroll data }, cart)
  | 6 => ppu.writeAddress cart data
  | _ => ppu.writeData cart data

end Nes.Ppu
