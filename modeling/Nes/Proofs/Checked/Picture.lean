import Nes.Proofs.Checked.Cartridge
import Nes.Proofs.Checked.Pixels

/-!
The picture unit with every operation asked for: its address space, its registers and its dots. A
unit within the bounds of a snapshot, in front of a cartridge with all its work memory, never stops
the machine.
-/

namespace Nes.Ppu

open Checked

variable {ppu : Ppu} {cart : Cartridge}

/-! ### Address space -/

def readVramChecked (ppu : Ppu) (cart : Cartridge) (address : UInt16) :
    Checked (UInt8 × Cartridge) := do
  let address := address &&& 0x3FFF
  if address < 0x2000 then
    let cart ← cart.observeChecked address
    return (← cart.readChecked address, cart)
  else if address < 0x3F00 then
    return (← entry ppu.nametables (cart.mirroring.nametableOffset address), cart)
  else return (← ppu.palette.readChecked address, cart)

def writeVramChecked (ppu : Ppu) (cart : Cartridge) (address : UInt16) (data : UInt8) :
    Checked (Ppu × Cartridge) := do
  let address := address &&& 0x3FFF
  if address < 0x2000 then
    let cart ← cart.observeChecked address
    return (ppu, ← cart.writeChecked address data)
  else if address < 0x3F00 then
    let place := cart.mirroring.nametableOffset address
    return ({ ppu with nametables := ← replace ppu.nametables place data }, cart)
  else return ({ ppu with palette := ← ppu.palette.writeChecked address data }, cart)

theorem readVramChecked_eq (full : cart.Full) (address : UInt16) :
    ppu.readVramChecked cart address = .ok (ppu.readVram cart address) := by
  simp only [readVramChecked, readVram]
  split
  · rw [cart.observeChecked_eq, ok_bind,
      Cartridge.readChecked_eq (Cartridge.Full.preserved.observe full _)]
    rfl
  · split
    · rw [entry_ok (cart.mirroring.nametableOffset_lt _)]
      rfl
    · rw [ppu.palette.readChecked_eq]
      rfl

theorem writeVramChecked_eq (full : cart.Full) (address : UInt16) (data : UInt8) :
    ppu.writeVramChecked cart address data = .ok (ppu.writeVram cart address data) := by
  simp only [writeVramChecked, writeVram]
  split
  · rw [cart.observeChecked_eq, ok_bind,
      Cartridge.writeChecked_eq (Cartridge.Full.preserved.observe full _)]
    rfl
  · split
    · rw [replace_ok (cart.mirroring.nametableOffset_lt _)]
      rfl
    · rw [ppu.palette.writeChecked_eq]
      rfl

/-! ### Registers -/

def incrementAddressChecked (ppu : Ppu) (cart : Cartridge) : Checked (Ppu × Cartridge) :=
  if ppu.drawing then do
    let scroll ← ppu.scroll.incrementXChecked
    return ({ ppu with scroll := ← scroll.incrementYChecked }, cart)
  else do
    let scroll := ppu.scroll.advance ppu.addressStep
    return ({ ppu with scroll }, ← cart.observeChecked (scroll.v &&& 0x3FFF))

/-- The nametable byte under the palette is found 4 KiB below. -/
def readDataChecked (ppu : Ppu) (cart : Cartridge) : Checked (UInt8 × Ppu × Cartridge) := do
  let address := ppu.scroll.v &&& 0x3FFF
  if 0x3F00 ≤ address then
    let (under, cart) ← ppu.readVramChecked cart (← sub address 0x1000)
    let (entry, cart) ← ppu.readVramChecked cart address
    let value := (entry &&& 0x3F) ||| (ppu.openBus.value &&& 0xC0)
    let (ppu, cart) ← incrementAddressChecked { ppu with readBuffer := under } cart
    return (value, ppu.drive value, cart)
  else
    let value := ppu.readBuffer
    let (next, cart) ← ppu.readVramChecked cart address
    let (ppu, cart) ← incrementAddressChecked { ppu with readBuffer := next } cart
    return (value, ppu.drive value, cart)

def oamByteChecked (ppu : Ppu) : Checked UInt8 := entry ppu.oam ppu.oamAddr.toNat

def readOamChecked (ppu : Ppu) : Checked (UInt8 × Ppu) := do
  let byte ← ppu.oamByteChecked
  let value := if ppu.oamAddr &&& 3 == 2 then byte &&& 0xE3 else byte
  return (value, ppu.drive value)

def readRegisterChecked (ppu : Ppu) (cart : Cartridge) (address : UInt16) :
    Checked (UInt8 × Ppu × Cartridge) :=
  match (address &&& 7).toNat with
  | 4 => do
    let (value, ppu) ← ppu.readOamChecked
    return (value, ppu, cart)
  | 7 => ppu.readDataChecked cart
  | _ => return ppu.readRegister cart address

def peekRegisterChecked (ppu : Ppu) (address : UInt16) : Checked UInt8 :=
  match (address &&& 7).toNat with
  | 4 => ppu.oamByteChecked
  | _ => return ppu.peekRegister address

def writeOamChecked (ppu : Ppu) (data : UInt8) : Checked Ppu :=
  return { ppu with
    oam := ← replace ppu.oam ppu.oamAddr.toNat data
    oamAddr := ppu.oamAddr + 1 }

def writeAddressChecked (ppu : Ppu) (cart : Cartridge) (data : UInt8) :
    Checked (Ppu × Cartridge) := do
  let (changed, scroll) := ppu.scroll.writeAddress data
  let cart ← if changed then cart.observeChecked (scroll.v &&& 0x3FFF) else pure cart
  return ({ ppu with scroll }, cart)

def writeDataChecked (ppu : Ppu) (cart : Cartridge) (data : UInt8) :
    Checked (Ppu × Cartridge) := do
  let (ppu, cart) ← ppu.writeVramChecked cart ppu.scroll.v data
  ppu.incrementAddressChecked cart

def writeRegisterChecked (ppu : Ppu) (cart : Cartridge) (address : UInt16) (data : UInt8) :
    Checked (Ppu × Cartridge) :=
  match (address &&& 7).toNat with
  | 4 => return (← (ppu.drive data).writeOamChecked data, cart)
  | 6 => (ppu.drive data).writeAddressChecked cart data
  | 7 => (ppu.drive data).writeDataChecked cart data
  | _ => return ppu.writeRegister cart address data

theorem Sound.incrementAddressChecked_eq (sound : Sound Cartridge.Full (ppu, cart)) :
    ppu.incrementAddressChecked cart = .ok (ppu.incrementAddress cart) := by
  unfold incrementAddressChecked Ppu.incrementAddress
  split
  · rw [sound.ppu.scroll.incrementXChecked_eq, ok_bind,
      sound.ppu.scroll.incrementX.incrementYChecked_eq]
    rfl
  · simp only [cart.observeChecked_eq]
    rfl

theorem Sound.readDataChecked_eq (sound : Sound Cartridge.Full (ppu, cart)) :
    ppu.readDataChecked cart = .ok (ppu.readData cart) := by
  obtain ⟨⟨raster, scroll, sprites⟩, full⟩ := sound
  have next (buffer : UInt8) {cart : Cartridge} (full : cart.Full) :=
    @incrementAddressChecked_eq { ppu with readBuffer := buffer } cart
      ⟨⟨raster, scroll, sprites⟩, full⟩
  simp only [readDataChecked, Ppu.readData]
  split
  · rename_i palette
    have place : 0x3F00 ≤ (ppu.scroll.v &&& 0x3FFF).toNat := UInt16.le_iff_toNat_le.mp palette
    have above : 0x1000 ≤ (ppu.scroll.v &&& 0x3FFF).toNat := by omega
    have under := @readVram_holds _ ppu _ Cartridge.Full.preserved full
      ((ppu.scroll.v &&& 0x3FFF) - 0x1000)
    have entry := @readVram_holds _ ppu _ Cartridge.Full.preserved under
      (ppu.scroll.v &&& 0x3FFF)
    rw [sub_ok (ppu.scroll.v &&& 0x3FFF) 0x1000 above, ok_bind, readVramChecked_eq full, ok_bind,
      readVramChecked_eq under, ok_bind, next _ entry]
    rfl
  · have read := @readVram_holds _ ppu _ Cartridge.Full.preserved full
      (ppu.scroll.v &&& 0x3FFF)
    rw [readVramChecked_eq full, ok_bind, next _ read]
    rfl

theorem oamByteChecked_eq (ppu : Ppu) : ppu.oamByteChecked = .ok ppu.oamByte :=
  entry_ok ppu.oamAddr.toNat_lt

theorem readOamChecked_eq (ppu : Ppu) : ppu.readOamChecked = .ok ppu.readOam := by
  rw [readOamChecked, ppu.oamByteChecked_eq]
  rfl

theorem writeOamChecked_eq (ppu : Ppu) (data : UInt8) :
    ppu.writeOamChecked data = .ok (ppu.writeOam data) := by
  rw [writeOamChecked, replace_ok ppu.oamAddr.toNat_lt]
  rfl

theorem peekRegisterChecked_eq (ppu : Ppu) (address : UInt16) :
    ppu.peekRegisterChecked address = .ok (ppu.peekRegister address) := by
  unfold peekRegisterChecked
  split
  · rename_i register
    simp only [oamByteChecked_eq, peekRegister, register]
  · rfl

theorem Sound.readRegisterChecked_eq (sound : Sound Cartridge.Full (ppu, cart))
    (address : UInt16) :
    ppu.readRegisterChecked cart address = .ok (ppu.readRegister cart address) := by
  unfold readRegisterChecked
  split
  · rename_i register
    simp only [readOamChecked_eq, Ppu.readRegister, register]
    rfl
  · rename_i data
    simp only [sound.readDataChecked_eq, Ppu.readRegister, data]
  · rfl

theorem writeAddressChecked_eq (data : UInt8) :
    ppu.writeAddressChecked cart data = .ok (ppu.writeAddress cart data) := by
  simp only [writeAddressChecked, Ppu.writeAddress]
  split
  · rw [cart.observeChecked_eq]
    rfl
  · rfl

theorem Sound.writeDataChecked_eq (sound : Sound Cartridge.Full (ppu, cart)) (data : UInt8) :
    ppu.writeDataChecked cart data = .ok (ppu.writeData cart data) := by
  have written := sound.writeVram Cartridge.Full.preserved ppu.scroll.v data
  rw [writeDataChecked, writeVramChecked_eq sound.cart, ok_bind]
  exact written.incrementAddressChecked_eq

theorem Sound.writeRegisterChecked_eq (sound : Sound Cartridge.Full (ppu, cart))
    (address : UInt16) (data : UInt8) :
    ppu.writeRegisterChecked cart address data = .ok (ppu.writeRegister cart address data) := by
  unfold writeRegisterChecked
  split
  · rename_i register
    simp only [writeOamChecked_eq, Ppu.writeRegister, register]
    rfl
  · rename_i register
    simp only [writeAddressChecked_eq, Ppu.writeRegister, register]
  · rename_i register
    have driven : Sound Cartridge.Full (ppu.drive data, cart) := sound.drive data
    simp only [driven.writeDataChecked_eq, Ppu.writeRegister, register]
  · rfl

/-! ### Pixels -/

def backgroundPixelChecked (ppu : Ppu) (column : UInt8) : Checked UInt8 :=
  if ppu.showsBackground column then ppu.background.pixelChecked ppu.scroll.fineX else return 0

def spritePixelChecked (ppu : Ppu) (column : UInt8) : Checked (Option (UInt8 × SpriteSlot)) :=
  if ppu.showsSprites column then ppu.sprites.firstOpaqueChecked column else return none

def shownEntryChecked (ppu : Ppu) (index : UInt8) : Checked UInt8 :=
  return (← ppu.palette.readChecked (index.toUInt16 ||| 0x3F00)) &&& ppu.greyscaleMask

def renderPixelChecked (ppu : Ppu) : Checked Ppu := do
  let column ← ppu.raster.columnChecked
  let background ← ppu.backgroundPixelChecked column
  let sprite ← ppu.spritePixelChecked column
  let entry ← ppu.shownEntryChecked (compose background sprite)
  let status :=
    if hitsSpriteZero background sprite column then ppu.status ||| spriteZeroFlag else ppu.status
  return putPixel { ppu with status } column entry

def blankDotChecked (ppu : Ppu) : Checked Ppu :=
  if ppu.raster.visibleLine && ppu.raster.visibleDot then
    return ppu.putPixel (← ppu.raster.columnChecked) (← ppu.shownEntryChecked 0)
  else return ppu

theorem Bounded.backgroundPixelChecked_eq (bounded : ppu.Bounded) (column : UInt8) :
    ppu.backgroundPixelChecked column = .ok (ppu.backgroundPixel column) := by
  unfold backgroundPixelChecked backgroundPixel
  split
  · exact ppu.background.pixelChecked_eq bounded.scroll.fineX
  · rfl

theorem Bounded.spritePixelChecked_eq (bounded : ppu.Bounded) (column : UInt8) :
    ppu.spritePixelChecked column = .ok (ppu.spritePixel? column) := by
  unfold spritePixelChecked spritePixel?
  split
  · exact Sprites.firstOpaqueChecked_eq bounded.sprites column
  · rfl

theorem shownEntryChecked_eq (ppu : Ppu) (index : UInt8) :
    ppu.shownEntryChecked index = .ok (ppu.shownEntry index) := by
  rw [shownEntryChecked, ppu.palette.readChecked_eq]
  rfl

theorem Bounded.renderPixelChecked_eq (bounded : ppu.Bounded)
    (visible : ppu.raster.visibleDot = true) :
    ppu.renderPixelChecked = .ok ppu.renderPixel := by
  rw [renderPixelChecked, Raster.columnChecked_eq visible, ok_bind,
    bounded.backgroundPixelChecked_eq, ok_bind, bounded.spritePixelChecked_eq, ok_bind,
    ppu.shownEntryChecked_eq]
  rfl

theorem blankDotChecked_eq (ppu : Ppu) : ppu.blankDotChecked = .ok ppu.blankDot := by
  unfold blankDotChecked blankDot
  split
  · rename_i visible
    rw [Raster.columnChecked_eq (Bool.and_eq_true_iff.mp visible).2, ppu.shownEntryChecked_eq]
    rfl
  · rfl

/-! ### Fetches -/

def backgroundAddressChecked (ppu : Ppu) : Checked UInt16 :=
  ppu.background.patternAddressChecked ppu.backgroundTable ppu.scroll.fineY

def fetchTileChecked (ppu : Ppu) (cart : Cartridge) : Checked (Ppu × Cartridge) := do
  let ppu := { ppu with background := ppu.background.shift }
  match (ppu.raster.dot % 8).toNat with
  | 1 =>
    let (byte, cart) ← ppu.readVramChecked cart ppu.scroll.tileAddress
    return ({ ppu with background := { ppu.background with ntByte := byte } }, cart)
  | 3 =>
    let (byte, cart) ← ppu.readVramChecked cart ppu.scroll.attributeAddress
    let place := ppu.scroll.attributeShift
    return ({ ppu with background := ← ppu.background.latchAttributeChecked byte place }, cart)
  | 5 =>
    let (byte, cart) ← ppu.readVramChecked cart (← ppu.backgroundAddressChecked)
    return ({ ppu with background := { ppu.background with patternLo := byte } }, cart)
  | 7 =>
    let (byte, cart) ← ppu.readVramChecked cart (← add (← ppu.backgroundAddressChecked) 8)
    return ({ ppu with background := { ppu.background with patternHi := byte } }, cart)
  | 0 =>
    return ({ ppu with
        background := ppu.background.storeTile
        scroll := ← ppu.scroll.incrementXChecked },
      cart)
  | _ => return (ppu, cart)

def evaluateSpritesChecked (ppu : Ppu) : Checked Ppu :=
  if ppu.raster.visibleLine then do
    let (sprites, overflow) ←
      Sprites.selectChecked ppu.oam ppu.raster.scanline ppu.spriteHeight ppu.sprites
    return { ppu with
      sprites
      status := if overflow then ppu.status ||| overflowFlag else ppu.status }
  else return { ppu with sprites := { ppu.sprites with count := 0 } }

/-- Places are counted from the first dot of the sprite fetches. -/
def fetchSpriteChecked (ppu : Ppu) (cart : Cartridge) : Checked (Ppu × Cartridge) := do
  let distance ← sub ppu.raster.dot 257
  let place := (distance / 8).toNat
  match (distance % 8).toNat with
  | 4 =>
    let slot ← ppu.sprites.slotAtChecked place
    let address ← slot.patternAddressChecked ppu.tallSprites ppu.spriteTable
    let (byte, cart) ← ppu.readVramChecked cart address
    return ({ ppu with sprites := ← ppu.sprites.updateChecked place (·.latchLow byte) }, cart)
  | 6 =>
    let slot ← ppu.sprites.slotAtChecked place
    let address ← slot.patternAddressChecked ppu.tallSprites ppu.spriteTable
    let (byte, cart) ← ppu.readVramChecked cart (← add address 8)
    return ({ ppu with sprites := ← ppu.sprites.updateChecked place (·.latchHigh byte) }, cart)
  | _ => return (ppu, cart)

def spriteDotChecked (ppu : Ppu) (cart : Cartridge) : Checked (Ppu × Cartridge) :=
  if ppu.raster.dotIn 257 320 then fetchSpriteChecked { ppu with oamAddr := 0 } cart
  else return (ppu, cart)

def tileDotChecked (ppu : Ppu) (cart : Cartridge) : Checked (Ppu × Cartridge) :=
  if ppu.raster.visibleDot || ppu.raster.dotIn 321 336 then ppu.fetchTileChecked cart
  else return (ppu, cart)

def lineEndChecked (ppu : Ppu) : Checked Ppu :=
  if ppu.raster.dot == 256 then return { ppu with scroll := ← ppu.scroll.incrementYChecked }
  else if ppu.raster.dot == 257 then
    evaluateSpritesChecked { ppu with scroll := ppu.scroll.copyX }
  else return ppu

def fetchDotChecked (ppu : Ppu) (cart : Cartridge) : Checked (Ppu × Cartridge) := do
  let (ppu, cart) ← ppu.tileDotChecked cart
  let ppu ← ppu.lineEndChecked
  let (ppu, cart) ← ppu.spriteDotChecked cart
  return (ppu.frameStart, cart)

def renderDotChecked (ppu : Ppu) (cart : Cartridge) : Checked (Ppu × Cartridge) := do
  let ppu ←
    if ppu.raster.visibleLine && ppu.raster.visibleDot then ppu.renderPixelChecked else pure ppu
  if ppu.raster.renderLine then ppu.fetchDotChecked cart else return (ppu, cart)

theorem backgroundTable_le (ppu : Ppu) : ppu.backgroundTable.toNat ≤ 0x1000 := by
  unfold backgroundTable
  split <;> decide

theorem spriteTable_le (ppu : Ppu) : ppu.spriteTable.toNat ≤ 0x1000 := by
  unfold spriteTable
  split <;> decide

/-- The second plane of a pattern lies eight bytes behind the first. -/
theorem secondPlane_ok {address : UInt16} (low : address.toNat ≤ 0x1FF7) :
    add address 8 = .ok (address + 8) := by
  have fits : address.toNat + 8 < 65536 := by omega
  exact add_ok _ _ fits

theorem backgroundAddressChecked_eq (ppu : Ppu) :
    ppu.backgroundAddressChecked = .ok ppu.backgroundAddress ∧
      ppu.backgroundAddress.toNat ≤ 0x1FF7 :=
  ppu.background.patternAddressChecked_eq ppu.backgroundTable_le ppu.scroll.fineY_le

theorem Sound.fetchTileChecked_eq (sound : Sound Cartridge.Full (ppu, cart)) :
    ppu.fetchTileChecked cart = .ok (ppu.fetchTile cart) := by
  have full := sound.cart
  obtain ⟨address, low⟩ :=
    backgroundAddressChecked_eq { ppu with background := ppu.background.shift }
  simp only [fetchTileChecked, Ppu.fetchTile]
  generalize (ppu.raster.dot % 8).toNat = phase
  split
  · rw [readVramChecked_eq full]
    rfl
  · rw [readVramChecked_eq full, ok_bind]
    simp only [Background.latchAttributeChecked_eq _ _ ppu.scroll.attributeShift_lt]
    rfl
  · rw [address, ok_bind, readVramChecked_eq full]
    rfl
  · rw [address, ok_bind, secondPlane_ok low, ok_bind, readVramChecked_eq full]
    rfl
  · rw [sound.ppu.scroll.incrementXChecked_eq]
    rfl
  · simp only [pure_eq]

theorem evaluateSpritesChecked_eq (ppu : Ppu) :
    ppu.evaluateSpritesChecked = .ok ppu.evaluateSprites := by
  unfold evaluateSpritesChecked evaluateSprites
  split
  · rw [Sprites.selectChecked_eq]
    rfl
  · rfl

/-- From dot 257 to dot 320 there are eight slots of eight dots. -/
theorem fetchSlot_val (inside : ppu.raster.dotIn 257 320 = true) :
    sub ppu.raster.dot 257 = .ok (ppu.raster.dot - 257) ∧
      ((ppu.raster.dot - 257) / 8).toNat = ppu.fetchSlot.val := by
  obtain ⟨first, last⟩ := Bool.and_eq_true_iff.mp inside
  have low : 257 ≤ ppu.raster.dot := of_decide_eq_true first
  have start : 257 ≤ ppu.raster.dot.toNat := UInt16.le_iff_toNat_le.mp low
  have stop : ppu.raster.dot.toNat ≤ 320 := UInt16.le_iff_toNat_le.mp (of_decide_eq_true last)
  have distance : (ppu.raster.dot - 257).toNat = ppu.raster.dot.toNat - 257 :=
    UInt16.toNat_sub_of_le _ _ low
  have place : ((ppu.raster.dot - 257) / 8).toNat < 8 := by
    rw [UInt16.toNat_div, distance]
    change (ppu.raster.dot.toNat - 257) / 8 < 8
    omega
  exact ⟨sub_ok _ _ start, (Nat.mod_eq_of_lt place).symm⟩

theorem fetchSpriteChecked_eq (full : cart.Full) (inside : ppu.raster.dotIn 257 320 = true) :
    ppu.fetchSpriteChecked cart = .ok (ppu.fetchSprite cart) := by
  obtain ⟨distance, place⟩ := fetchSlot_val inside
  obtain ⟨address, low⟩ := (ppu.sprites.slotAt ppu.fetchSlot).patternAddressChecked_eq
    ppu.tallSprites ppu.spriteTable_le
  simp only [fetchSpriteChecked, Ppu.fetchSprite, distance, ok_bind, place]
  generalize ((ppu.raster.dot - 257) % 8).toNat = phase
  split
  · rw [Sprites.slotAtChecked_eq, ok_bind, address, ok_bind, readVramChecked_eq full, ok_bind]
    simp only [Sprites.updateChecked_eq]
    rfl
  · rw [Sprites.slotAtChecked_eq, ok_bind, address, ok_bind, secondPlane_ok low, ok_bind,
      readVramChecked_eq full, ok_bind]
    simp only [Sprites.updateChecked_eq]
    rfl
  · simp only [pure_eq]

theorem spriteDotChecked_eq (full : cart.Full) :
    ppu.spriteDotChecked cart = .ok (ppu.spriteDot cart) := by
  unfold spriteDotChecked spriteDot
  split
  · rename_i inside
    exact @fetchSpriteChecked_eq { ppu with oamAddr := 0 } cart full inside
  · rfl

theorem Sound.tileDotChecked_eq (sound : Sound Cartridge.Full (ppu, cart)) :
    ppu.tileDotChecked cart = .ok (ppu.tileDot cart) := by
  unfold tileDotChecked Ppu.tileDot
  split
  · exact sound.fetchTileChecked_eq
  · rfl

theorem Bounded.lineEndChecked_eq (bounded : ppu.Bounded) :
    ppu.lineEndChecked = .ok ppu.lineEnd := by
  unfold lineEndChecked Ppu.lineEnd
  split
  · rw [bounded.scroll.incrementYChecked_eq]
    rfl
  · split
    · exact evaluateSpritesChecked_eq _
    · rfl

theorem Sound.fetchDotChecked_eq (sound : Sound Cartridge.Full (ppu, cart)) :
    ppu.fetchDotChecked cart = .ok (ppu.fetchDot cart) := by
  have tile := sound.tileDot Cartridge.Full.preserved
  rw [fetchDotChecked, sound.tileDotChecked_eq, ok_bind]
  simp only [tile.ppu.lineEndChecked_eq, ok_bind, spriteDotChecked_eq tile.cart]
  rfl

theorem Sound.renderDotChecked_eq (sound : Sound Cartridge.Full (ppu, cart)) :
    ppu.renderDotChecked cart = .ok (ppu.renderDot cart) := by
  simp only [renderDotChecked, Ppu.renderDot]
  by_cases visible : (ppu.raster.visibleLine && ppu.raster.visibleDot) = true
  · have drawn : Sound Cartridge.Full (ppu.renderPixel, cart) :=
      ⟨sound.ppu.renderPixel, sound.cart⟩
    rw [if_pos visible, if_pos visible,
      sound.ppu.renderPixelChecked_eq (Bool.and_eq_true_iff.mp visible).2, ok_bind]
    split
    · exact drawn.fetchDotChecked_eq
    · rfl
  · rw [if_neg visible, if_neg visible, pure_eq, ok_bind]
    split
    · exact sound.fetchDotChecked_eq
    · rfl

/-! ### Time -/

def advanceChecked (ppu : Ppu) : Checked Ppu :=
  return { ppu with
    openBus := ← ppu.openBus.tickChecked
    raster := ← ppu.raster.advanceChecked ppu.rendering }

def stepChecked (ppu : Ppu) (cart : Cartridge) : Checked (Ppu × Cartridge) := do
  let (ppu, cart) ←
    if ppu.rendering then ppu.renderDotChecked cart else pure (← ppu.blankDotChecked, cart)
  return (← ppu.markVblank.advanceChecked, cart)

theorem Bounded.advanceChecked_eq (bounded : ppu.Bounded) :
    ppu.advanceChecked = .ok ppu.advance := by
  rw [advanceChecked, ppu.openBus.tickChecked_eq, ok_bind,
    Raster.advanceChecked_eq bounded.raster]
  rfl

/-- No dot stops the machine. -/
theorem Sound.stepChecked_eq (sound : Sound Cartridge.Full (ppu, cart)) :
    ppu.stepChecked cart = .ok (ppu.step cart) := by
  unfold stepChecked Ppu.step
  by_cases rendering : ppu.rendering = true
  · have drawn := sound.renderDot Cartridge.Full.preserved
    rw [if_pos rendering, if_pos rendering, sound.renderDotChecked_eq, ok_bind]
    simp only [drawn.ppu.markVblank.advanceChecked_eq]
    rfl
  · rw [if_neg rendering, if_neg rendering, ppu.blankDotChecked_eq, ok_bind]
    simp only [pure_eq, ok_bind, sound.ppu.blankDot.markVblank.advanceChecked_eq]

end Nes.Ppu
