import Nes.Snapshot.Fault
import Nes.Video.Ppu.Basic

/-!
What a snapshot records of the picture unit. Its lists may have any length in a byte string; they
are accepted only with the sizes of the memories they stand for, and a place or an address outside
its range is refused.
-/

namespace Nes

structure PpuState where
  raster : Raster
  ctrl : UInt8
  mask : UInt8
  status : UInt8
  scroll : Scroll
  readBuffer : UInt8
  openBus : OpenBus
  oam : List UInt8
  oamAddr : UInt8
  nametables : List UInt8
  palette : Palette
  background : Background
  sprites : List SpriteSlot
  spriteCount : UInt8
  nmiPending : Bool
  suppressVblank : Bool
  frame : List UInt8
  deriving DecidableEq

namespace PpuState

/-- A place is recorded as scanline, dot, parity and count. -/
def rasterCodec : Codec Raster :=
  (Codec.u16.pair <| Codec.u16.pair <| Codec.bool.pair Codec.u64).iso
    (fun (scanline, dot, oddFrame, frameCount) => { scanline, dot, oddFrame, frameCount })
    (fun r => (r.scanline, r.dot, r.oddFrame, r.frameCount))

def openBusCodec : Codec OpenBus :=
  (Codec.u8.pair Codec.u32).iso (fun (value, decay) => { value, decay })
    (fun bus => (bus.value, bus.decay))

def backgroundCodec : Codec Background :=
  (Codec.u8.pair <| Codec.u8.pair <| Codec.u8.pair <| Codec.u8.pair Codec.u64).iso
    (fun (ntByte, atBits, patternLo, patternHi, tileData) =>
      { ntByte, atBits, patternLo, patternHi, tileData })
    (fun b => (b.ntByte, b.atBits, b.patternLo, b.patternHi, b.tileData))

def paletteCodec : Codec Palette := (Codec.vector Codec.u8 32).iso Palette.mk Palette.entries

def codec : Codec PpuState :=
  (rasterCodec.pair <| Codec.u8.pair <| Codec.u8.pair <| Codec.u8.pair <| Scroll.codec.pair <|
    Codec.u8.pair <| openBusCodec.pair <| Codec.bytes.pair <| Codec.u8.pair <| Codec.bytes.pair <|
    paletteCodec.pair <| backgroundCodec.pair <| (Codec.list SpriteSlot.codec).pair <|
    Codec.u8.pair <| Codec.bool.pair <| Codec.bool.pair Codec.bytes).iso
    (fun (raster, ctrl, mask, status, scroll, readBuffer, openBus, oam, oamAddr, nametables,
        palette, background, sprites, spriteCount, nmiPending, suppressVblank, frame) =>
      { raster, ctrl, mask, status, scroll, readBuffer, openBus, oam, oamAddr, nametables,
        palette, background, sprites, spriteCount, nmiPending, suppressVblank, frame })
    (fun s => (s.raster, s.ctrl, s.mask, s.status, s.scroll, s.readBuffer, s.openBus, s.oam,
      s.oamAddr, s.nametables, s.palette, s.background, s.sprites, s.spriteCount, s.nmiPending,
      s.suppressVblank, s.frame))

/-- The picture unit that was recorded, with no picture waiting for the host. -/
def restore (state : PpuState) : Except Snapshot.Fault Ppu := do
  let oam ← Snapshot.sized .oam 256 state.oam
  let nametables ← Snapshot.sized .nametables 0x1000 state.nametables
  let slots ← Snapshot.sized .sprites 8 state.sprites
  Snapshot.require (state.spriteCount ≤ 8) (.sizeMismatch .sprites)
  let frame ← Snapshot.sized .frame (frameWidth * frameHeight) state.frame
  Snapshot.require state.raster.valid (.outOfRange .ppuPosition)
  Snapshot.require (state.scroll.fineX ≤ 7) (.outOfRange .fineX)
  Snapshot.require (state.scroll.v ≤ 0x7FFF && state.scroll.t ≤ 0x7FFF) (.outOfRange .vramAddress)
  return {
    raster := state.raster
    frameComplete := false
    ctrl := state.ctrl
    mask := state.mask
    status := state.status
    scroll := state.scroll
    readBuffer := state.readBuffer
    openBus := state.openBus
    oam
    oamAddr := state.oamAddr
    nametables
    palette := state.palette
    background := state.background
    sprites := { slots, count := state.spriteCount }
    nmiPending := state.nmiPending
    suppressVblank := state.suppressVblank
    frame }

end PpuState

def Ppu.save (ppu : Ppu) : PpuState where
  raster := ppu.raster
  ctrl := ppu.ctrl
  mask := ppu.mask
  status := ppu.status
  scroll := ppu.scroll
  readBuffer := ppu.readBuffer
  openBus := ppu.openBus
  oam := ppu.oam.toList
  oamAddr := ppu.oamAddr
  nametables := ppu.nametables.toList
  palette := ppu.palette
  background := ppu.background
  sprites := ppu.sprites.slots.toList
  spriteCount := ppu.sprites.count
  nmiPending := ppu.nmiPending
  suppressVblank := ppu.suppressVblank
  frame := ppu.frame.toList

end Nes
