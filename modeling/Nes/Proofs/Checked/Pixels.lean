import Nes.Proofs.Checked.Basic
import Nes.Proofs.Video.Bounds

/-!
The parts of the picture unit with every operation asked for: the place in the frame, the scroll
addresses, the rows of pixels and the selection of sprites. What a snapshot leaves unbounded, such
as the row of a selected sprite, the lingering value's lifetime and the latches of a tile, cannot
stop the machine.
-/

namespace Nes

open Checked

/-! ### Lingering value and place -/

namespace OpenBus

/-- The lifetime is counted down, and at zero the value is gone. -/
def tickChecked (bus : OpenBus) : Checked OpenBus :=
  if 0 < bus.decay then do
    let decay ← sub bus.decay 1
    if decay == 0 then return { value := 0, decay } else return { bus with decay }
  else return bus

theorem tickChecked_eq (bus : OpenBus) : bus.tickChecked = .ok bus.tick := by
  obtain ⟨value, decay⟩ := bus
  simp only [tickChecked, tick]
  by_cases running : 0 < decay
  · have some : decay ≠ 0 := UInt32.pos_iff_ne_zero.mp running
    rw [if_pos running, sub_ok decay 1 (UInt32.lt_iff_toNat_lt.mp running)]
    by_cases last : decay = 1
    · simp [last]
    · have left : decay - 1 ≠ 0 := fun none => last (by grind)
      simp [some, last, left]
  · have none : decay = 0 := by grind
    simp [none]

end OpenBus

namespace Raster

variable {raster : Raster}

def columnChecked (raster : Raster) : Checked UInt8 :=
  return (← sub raster.dot 1).toUInt8

def advanceChecked (raster : Raster) (rendering : Bool) : Checked Raster :=
  if raster.skipsDot rendering then
    return { raster with dot := 0, scanline := 0, oddFrame := false }
  else do
    let dot ← add raster.dot 1
    if dot != dotsPerScanline then return { raster with dot }
    else
      let scanline ← add raster.scanline 1
      if scanline != scanlinesPerFrame then return { raster with dot := 0, scanline }
      else return { raster with dot := 0, scanline := 0, oddFrame := !raster.oddFrame }

theorem columnChecked_eq (visible : raster.visibleDot = true) :
    raster.columnChecked = .ok raster.column := by
  have first : 1 ≤ raster.dot := of_decide_eq_true (Bool.and_eq_true_iff.mp visible).1
  rw [columnChecked, sub_ok _ _ (UInt16.le_iff_toNat_le.mp first)]
  rfl

theorem advanceChecked_eq (valid : raster.valid = true) (rendering : Bool) :
    raster.advanceChecked rendering = .ok (raster.advance rendering) := by
  obtain ⟨scanline, dot⟩ := valid_iff.mp valid
  have line : raster.scanline.toNat < 262 := UInt16.lt_iff_toNat_lt.mp scanline
  have place : raster.dot.toNat < 341 := UInt16.lt_iff_toNat_lt.mp dot
  have nextLine : raster.scanline.toNat + 1 < 65536 := by omega
  have nextPlace : raster.dot.toNat + 1 < 65536 := by omega
  unfold advanceChecked advance
  split
  · rfl
  · rw [add_ok raster.dot 1 nextPlace, ok_bind]
    split
    · rfl
    · rw [add_ok raster.scanline 1 nextLine, ok_bind]
      split <;> rfl

end Raster

/-! ### Scroll -/

namespace Scroll

variable {scroll : Scroll}

def incrementXChecked (scroll : Scroll) : Checked Scroll :=
  if scroll.v &&& coarseXMask == 31 then
    return { scroll with v := (scroll.v &&& ~~~coarseXMask) ^^^ nametableXMask }
  else return { scroll with v := ← add scroll.v 1 }

def incrementYChecked (scroll : Scroll) : Checked Scroll :=
  if scroll.v &&& fineYMask != fineYMask then return { scroll with v := ← add scroll.v 0x1000 }
  else do
    let top := scroll.v &&& ~~~fineYMask
    let row := (top &&& coarseYMask) >>> 5
    if row == 29 then return { scroll with v := (top &&& ~~~coarseYMask) ^^^ nametableYMask }
    else if row == 31 then return { scroll with v := top &&& ~~~coarseYMask }
    else return { scroll with v := ((← add row 1) <<< 5) ||| (top &&& ~~~coarseYMask) }

theorem Bounded.incrementXChecked_eq (bounded : scroll.Bounded) :
    scroll.incrementXChecked = .ok scroll.incrementX := by
  have v : scroll.v.toNat ≤ 0x7FFF := UInt16.le_iff_toNat_le.mp bounded.v
  have fits : scroll.v.toNat + 1 < 65536 := by omega
  unfold incrementXChecked Scroll.incrementX
  rw [add_ok scroll.v 1 fits]
  split <;> rfl

theorem Bounded.incrementYChecked_eq (bounded : scroll.Bounded) :
    scroll.incrementYChecked = .ok scroll.incrementY := by
  have v : scroll.v.toNat ≤ 0x7FFF := UInt16.le_iff_toNat_le.mp bounded.v
  have fits : scroll.v.toNat + 0x1000 < 65536 := by omega
  have row (address : UInt16) : add ((address &&& coarseYMask) >>> 5) 1 =
      .ok ((address &&& coarseYMask) >>> 5 + 1) := by
    have masked : (address &&& coarseYMask).toNat ≤ 0x3E0 := by
      rw [UInt16.toNat_and]
      exact Nat.and_le_right
    have moved : ((address &&& coarseYMask) >>> 5).toNat ≤ 0x3E0 := by
      rw [UInt16.toNat_shiftRight]
      exact Nat.le_trans (Nat.shiftRight_le _ _) masked
    have inside : ((address &&& coarseYMask) >>> 5).toNat + 1 < 65536 := by omega
    exact add_ok _ _ inside
  unfold incrementYChecked Scroll.incrementY
  rw [add_ok scroll.v 0x1000 fits]
  split
  · rfl
  · simp only [row]
    split
    · rfl
    · split <;> rfl

theorem attributeShift_lt (scroll : Scroll) : scroll.attributeShift.toNat < 8 := by
  have lower : ((scroll.v >>> 4) &&& 0x04).toNat < 2 ^ 3 := by
    rw [UInt16.toNat_and]
    exact Nat.lt_of_le_of_lt Nat.and_le_right (by decide)
  have right : (scroll.v &&& 0x02).toNat < 2 ^ 3 := by
    rw [UInt16.toNat_and]
    exact Nat.lt_of_le_of_lt Nat.and_le_right (by decide)
  rw [attributeShift, UInt16.toNat_or]
  exact Nat.or_lt_two_pow lower right

theorem fineY_le (scroll : Scroll) : scroll.fineY.toNat ≤ 7 := by
  rw [fineY, UInt16.toNat_and]
  exact Nat.and_le_right

end Scroll

/-! ### Palette -/

namespace Palette

/-- The sprites' backdrop entries are found sixteen places below. -/
def indexChecked (address : UInt16) : Checked Nat :=
  let i := address.toNat % 32
  if 16 ≤ i ∧ i % 4 = 0 then subPlace i 16 else return i

def readChecked (palette : Palette) (address : UInt16) : Checked UInt8 := do
  entry palette.entries (← indexChecked address)

def writeChecked (palette : Palette) (address : UInt16) (data : UInt8) : Checked Palette := do
  return { entries := ← replace palette.entries (← indexChecked address) (data &&& 0x3F) }

theorem indexChecked_eq (address : UInt16) : indexChecked address = .ok (index address) := by
  simp only [indexChecked, index]
  split
  · rename_i mirrored
    exact subPlace_ok mirrored.1
  · rfl

theorem readChecked_eq (palette : Palette) (address : UInt16) :
    palette.readChecked address = .ok (palette.read address) := by
  rw [readChecked, indexChecked_eq, ok_bind, entry_ok (index_lt address)]
  rfl

theorem writeChecked_eq (palette : Palette) (address : UInt16) (data : UInt8) :
    palette.writeChecked address data = .ok (palette.write address data) := by
  rw [writeChecked, indexChecked_eq, ok_bind, replace_ok (index_lt address)]
  rfl

end Palette

/-! ### Rows of pixels -/

def PatternRow.pixelChecked (row : UInt32) (place : UInt8) : Checked UInt8 := do
  let distance ← mul (← sub 7 place.toUInt32) 4
  shift distance.toNat 32
  return ((row >>> distance) &&& 0x0F).toUInt8

theorem PatternRow.pixelChecked_eq (row : UInt32) {place : UInt8} (within : place ≤ 7) :
    pixelChecked row place = .ok (pixel row place) := by
  have bound : place.toNat ≤ 7 := UInt8.le_iff_toNat_le.mp within
  have back : (7 - place.toUInt32).toNat = 7 - place.toNat :=
    UInt32.toNat_sub_of_le _ _ (UInt32.le_iff_toNat_le.mpr bound)
  have fits : (7 - place.toUInt32).toNat * 4 < 2 ^ 32 := by omega
  have distance : ((7 - place.toUInt32) * 4).toNat = (7 - place.toNat) * 4 := by
    rw [UInt32.toNat_mul, back]
    change (7 - place.toNat) * 4 % 2 ^ 32 = (7 - place.toNat) * 4
    omega
  have short : ((7 - place.toUInt32) * 4).toNat < 32 := by omega
  rw [pixelChecked, sub_ok 7 place.toUInt32 bound, ok_bind,
    mul_ok (7 - place.toUInt32) 4 fits, ok_bind, shift_ok short]
  rfl

/-- The address of a row of a tile, whose patterns take sixteen bytes. -/
def Checked.tileRow (table tile row : UInt16) : Checked UInt16 := do
  add (← add table (← mul tile 16)) row

theorem Checked.tileRow_ok (table tile row : UInt16)
    (fits : table.toNat + tile.toNat * 16 + row.toNat < 65536) :
    tileRow table tile row = .ok (table + tile * 16 + row) ∧
      (table + tile * 16 + row).toNat = table.toNat + tile.toNat * 16 + row.toNat := by
  have bytes : tile.toNat * 16 < 65536 := by omega
  have place : (tile * 16).toNat = tile.toNat * 16 := by
    rw [UInt16.toNat_mul]
    exact Nat.mod_eq_of_lt bytes
  have inTable : table.toNat + (tile * 16).toNat < 65536 := by omega
  have start : (table + tile * 16).toNat = table.toNat + tile.toNat * 16 := by
    rw [UInt16.toNat_add, place]
    exact Nat.mod_eq_of_lt (by omega)
  have inTile : (table + tile * 16).toNat + row.toNat < 65536 := by omega
  refine ⟨?_, ?_⟩
  · rw [tileRow, mul_ok tile 16 bytes, ok_bind, add_ok _ _ inTable, ok_bind,
      add_ok _ _ inTile]
  · rw [UInt16.toNat_add, start]
    exact Nat.mod_eq_of_lt fits

namespace Background

variable (background : Background)

def latchAttributeChecked (byte : UInt8) (place : UInt16) : Checked Background := do
  Checked.shift place.toNat 8
  return background.latchAttribute byte place

def pixelChecked (fineX : UInt8) : Checked UInt8 :=
  PatternRow.pixelChecked (background.tileData >>> 32).toUInt32 fineX

def patternAddressChecked (table fineY : UInt16) : Checked UInt16 :=
  tileRow table background.ntByte.toUInt16 fineY

theorem latchAttributeChecked_eq (byte : UInt8) {place : UInt16} (short : place.toNat < 8) :
    background.latchAttributeChecked byte place = .ok (background.latchAttribute byte place) := by
  rw [latchAttributeChecked, shift_ok short]
  rfl

theorem pixelChecked_eq {fineX : UInt8} (fine : fineX ≤ 7) :
    background.pixelChecked fineX = .ok (background.pixel fineX) :=
  PatternRow.pixelChecked_eq _ fine

/-- The pattern tables end at 8 KiB. -/
theorem patternAddressChecked_eq {table fineY : UInt16} (start : table.toNat ≤ 0x1000)
    (fine : fineY.toNat ≤ 7) :
    background.patternAddressChecked table fineY = .ok (background.patternAddress table fineY) ∧
      (background.patternAddress table fineY).toNat ≤ 0x1FF7 := by
  have byte : background.ntByte.toUInt16.toNat < 256 := background.ntByte.toNat_lt
  obtain ⟨found, place⟩ := tileRow_ok table background.ntByte.toUInt16 fineY (by omega)
  exact ⟨found, Nat.le_trans (Nat.le_of_eq place) (by omega)⟩

end Background

/-! ### Sprites -/

namespace SpriteSlot

variable (slot : SpriteSlot)

def patternRowChecked (height : UInt8) : Checked UInt8 := do
  let last ← sub height 1
  let row := min slot.row last
  if slot.flippedVertically then sub last row else return row

/-- A row of a tall sprite; its second tile is the next one. -/
def tallRow (table tile : UInt16) (row : UInt8) : Checked UInt16 :=
  if 7 < row then do
    let tile ← add tile 1
    tileRow table tile (← sub row 8).toUInt16
  else tileRow table tile row.toUInt16

def patternAddressChecked (tall : Bool) (table : UInt16) : Checked UInt16 := do
  if tall then
    let row ← slot.patternRowChecked 16
    let table ← mul (slot.tile &&& 1).toUInt16 0x1000
    tallRow table (slot.tile &&& 0xFE).toUInt16 row
  else
    let row ← slot.patternRowChecked 8
    tileRow table slot.tile.toUInt16 row.toUInt16

def opaquePixelChecked (column : UInt8) : Checked (Option UInt8) :=
  if slot.x ≤ column && column - slot.x < 8 then do
    let pixel ← PatternRow.pixelChecked slot.pattern (column - slot.x)
    if PatternRow.isOpaque pixel then return some pixel else return none
  else return none

/-- Any row that a snapshot records is brought within the sprite. -/
theorem patternRowChecked_eq (height : UInt8) (positive : 1 ≤ height) :
    slot.patternRowChecked height = .ok (slot.patternRow height) ∧
      slot.patternRow height ≤ height - 1 := by
  have last : sub height 1 = .ok (height - 1) := sub_ok _ _ (UInt8.le_iff_toNat_le.mp positive)
  have within : min slot.row (height - 1) ≤ height - 1 := Std.min_le_right
  unfold patternRowChecked patternRow
  rw [last, ok_bind]
  split
  · exact ⟨sub_ok _ _ (UInt8.le_iff_toNat_le.mp within), by grind⟩
  · exact ⟨rfl, within⟩

/-- Tall sprites choose one of the two tables by a bit. -/
theorem halfTable_ok :
    mul (slot.tile &&& 1).toUInt16 0x1000 = .ok ((slot.tile &&& 1).toUInt16 * 0x1000) ∧
      ((slot.tile &&& 1).toUInt16 * 0x1000).toNat ≤ 0x1000 := by
  have bit : (slot.tile &&& 1).toUInt16.toNat ≤ 1 := by
    change (slot.tile &&& 1).toNat ≤ 1
    rw [UInt8.toNat_and]
    exact Nat.and_le_right
  have fits : (slot.tile &&& 1).toUInt16.toNat * 0x1000 < 65536 := by omega
  refine ⟨mul_ok _ _ fits, ?_⟩
  rw [UInt16.toNat_mul]
  exact Nat.le_trans (Nat.mod_le _ _) (Nat.mul_le_mul_right 0x1000 bit)

/-- Both tiles of a tall sprite lie in the pattern tables. -/
theorem tallRow_ok {table tile : UInt16} {row : UInt8} (half : table.toNat ≤ 0x1000)
    (even : tile.toNat ≤ 0xFE) (line : row.toNat ≤ 15) :
    let address :=
      if 7 < row then table + tile * 16 + 16 + (row - 8).toUInt16
      else table + tile * 16 + row.toUInt16
    tallRow table tile row = .ok address ∧ address.toNat ≤ 0x1FF7 := by
  unfold tallRow
  by_cases second : 7 < row
  · have below : 7 < row.toNat := UInt8.lt_iff_toNat_lt.mp second
    have next : tile.toNat + 1 < 65536 := by omega
    have follows : (tile + 1).toNat = tile.toNat + 1 := by
      rw [UInt16.toNat_add]
      exact Nat.mod_eq_of_lt next
    have inTile : (row - 8).toUInt16.toNat = row.toNat - 8 :=
      UInt8.toNat_sub_of_le _ _ (UInt8.le_iff_toNat_le.mpr below)
    obtain ⟨address, place⟩ := tileRow_ok table (tile + 1) (row - 8).toUInt16 (by omega)
    have same : table + tile * 16 + 16 + (row - 8).toUInt16 =
        table + (tile + 1) * 16 + (row - 8).toUInt16 := by grind
    rw [if_pos second, if_pos second, add_ok tile 1 next, ok_bind, sub_ok row 8 below, ok_bind,
      address, same]
    exact ⟨rfl, by omega⟩
  · have above : row.toUInt16.toNat ≤ 7 := UInt8.le_iff_toNat_le.mp (UInt8.not_lt.mp second)
    obtain ⟨address, place⟩ := tileRow_ok table tile row.toUInt16 (by omega)
    rw [if_neg second, if_neg second]
    exact ⟨address, by omega⟩

theorem patternAddressChecked_eq (tall : Bool) {table : UInt16} (start : table.toNat ≤ 0x1000) :
    slot.patternAddressChecked tall table = .ok (slot.patternAddress tall table) ∧
      (slot.patternAddress tall table).toNat ≤ 0x1FF7 := by
  cases tall with
  | false =>
    obtain ⟨found, low⟩ := slot.patternRowChecked_eq 8 (by decide)
    have byte : slot.tile.toUInt16.toNat < 256 := slot.tile.toNat_lt
    have line : (slot.patternRow 8).toUInt16.toNat ≤ 7 := UInt8.le_iff_toNat_le.mp low
    obtain ⟨row, place⟩ := tileRow_ok table slot.tile.toUInt16
      (slot.patternRow 8).toUInt16 (by omega)
    refine ⟨?_, Nat.le_trans (Nat.le_of_eq place) (by omega)⟩
    simp only [patternAddressChecked, Bool.false_eq_true, if_false, found, ok_bind, row]
    rfl
  | true =>
    obtain ⟨found, low⟩ := slot.patternRowChecked_eq 16 (by decide)
    have line : (slot.patternRow 16).toNat ≤ 15 := UInt8.le_iff_toNat_le.mp low
    obtain ⟨tables, half⟩ := slot.halfTable_ok
    have even : (slot.tile &&& 0xFE).toUInt16.toNat ≤ 0xFE := by
      change (slot.tile &&& 0xFE).toNat ≤ 0xFE
      rw [UInt8.toNat_and]
      exact Nat.and_le_right
    simp only [patternAddressChecked, patternAddress, if_true, found, ok_bind, tables]
    exact tallRow_ok half even line

theorem opaquePixelChecked_eq (column : UInt8) :
    slot.opaquePixelChecked column = .ok (slot.opaquePixel? column) := by
  unfold opaquePixelChecked opaquePixel?
  split
  · rename_i covered
    have near : column - slot.x < 8 := of_decide_eq_true (Bool.and_eq_true_iff.mp covered).2
    have within : column - slot.x ≤ 7 := UInt8.le_iff_toNat_le.mpr
      (Nat.le_of_lt_succ (UInt8.lt_iff_toNat_lt.mp near))
    rw [PatternRow.pixelChecked_eq _ within]
    simp only [ok_bind]
    split <;> rfl
  · rfl

end SpriteSlot

namespace Sprites

/-- The first slot of a list with an opaque pixel in a column. -/
def firstChecked (column : UInt8) : List SpriteSlot → Checked (Option (UInt8 × SpriteSlot))
  | [] => return none
  | slot :: rest => do
    match ← slot.opaquePixelChecked column with
    | some pixel => return some (pixel, slot)
    | none => firstChecked column rest

/-- The slots in use are a slice of the eight. -/
def firstOpaqueChecked (sprites : Sprites) (column : UInt8) :
    Checked (Option (UInt8 × SpriteSlot)) := do
  upTo sprites.count.toNat 8
  firstChecked column sprites.active

theorem firstChecked_eq (column : UInt8) (slots : List SpriteSlot) :
    firstChecked column slots =
      .ok (slots.findSome? fun slot => (slot.opaquePixel? column).map (·, slot)) := by
  induction slots with
  | nil => rfl
  | cons slot rest ih =>
    rw [firstChecked, slot.opaquePixelChecked_eq, ok_bind, List.findSome?_cons]
    cases slot.opaquePixel? column with
    | some pixel => rfl
    | none => exact ih

theorem firstOpaqueChecked_eq {sprites : Sprites} (few : sprites.count ≤ 8) (column : UInt8) :
    sprites.firstOpaqueChecked column = .ok (sprites.firstOpaque? column) := by
  have slice : sprites.count.toNat ≤ 8 := UInt8.le_iff_toNat_le.mp few
  rw [firstOpaqueChecked, upTo_ok slice, ok_bind]
  exact firstChecked_eq column sprites.active

/-- The slot at a place, which is asked for only while it is in use. -/
def slotAtChecked (sprites : Sprites) (place : Nat) : Checked SpriteSlot :=
  if place < sprites.count.toNat then Checked.entry sprites.slots place else return .unused

def updateChecked (sprites : Sprites) (place : Nat) (change : SpriteSlot → SpriteSlot) :
    Checked Sprites :=
  if place < sprites.count.toNat then do
    let slot ← Checked.entry sprites.slots place
    return { sprites with slots := ← replace sprites.slots place (change slot) }
  else return sprites

theorem slotAtChecked_eq (sprites : Sprites) (index : Fin 8) :
    sprites.slotAtChecked index.val = .ok (sprites.slotAt index) := by
  unfold slotAtChecked slotAt
  split
  · exact entry_ok index.isLt
  · rfl

theorem updateChecked_eq (sprites : Sprites) (index : Fin 8) (change : SpriteSlot → SpriteSlot) :
    sprites.updateChecked index.val change = .ok (sprites.update index change) := by
  unfold updateChecked update
  split
  · rw [entry_ok index.isLt, ok_bind, replace_ok index.isLt]
    rfl
  · rfl

/-! ### Selection -/

variable (oam : Oam) (scanline height : UInt16)

/-- The line above a sprite is the first byte of four in object memory. -/
def topChecked (index : Fin 64) : Checked UInt8 := do
  upTo (index.val * 4 + 4) 256
  Checked.entry oam (index.val * 4)

/-- The scan of object memory. Each sprite that covers the line goes into the next slot, and one
after the eighth ends the scan; the answer is the slots, how many of them are filled, and whether
there was a ninth. -/
def scanChecked : List (Fin 64) → Vector SpriteSlot 8 → Nat →
    Checked (Vector SpriteSlot 8 × Nat × Bool)
  | [], slots, filled => return (slots, filled, false)
  | index :: rest, slots, filled => do
    let row ← signed ((scanline.toNat : Int) - (← topChecked oam index).toNat)
    if ¬(0 ≤ row ∧ row < height.toNat) then scanChecked rest slots filled
    else if filled = 8 then return (slots, filled, true)
    else
      let slots ← replace slots filled (slotFor oam scanline index)
      scanChecked rest slots (filled + 1)

def selectChecked (sprites : Sprites) : Checked (Sprites × Bool) := do
  let (slots, filled, overflow) ← scanChecked oam scanline height (List.finRange 64) sprites.slots 0
  return ({ slots, count := UInt8.ofNat filled }, overflow)

variable {oam scanline height}

theorem topChecked_eq (index : Fin 64) : topChecked oam index = .ok (entry oam index 0) := by
  have slice : index.val * 4 + 4 ≤ 256 := by omega
  have within : index.val * 4 < 256 := by omega
  rw [topChecked, upTo_ok slice, ok_bind, entry_ok within]
  rfl

/-- The row that the scan computes is within the sprite exactly when it covers the line. -/
theorem row_iff {index : Fin 64} :
    (0 ≤ (scanline.toNat : Int) - (entry oam index 0).toNat ∧
      (scanline.toNat : Int) - (entry oam index 0).toNat < height.toNat) ↔
      covers oam scanline height index = true := by
  have wide : (entry oam index 0).toUInt16.toNat = (entry oam index 0).toNat := rfl
  rw [covers, Bool.and_eq_true, decide_eq_true_iff, decide_eq_true_iff]
  constructor
  · rintro ⟨low, high⟩
    have top : (entry oam index 0).toUInt16 ≤ scanline := UInt16.le_iff_toNat_le.mpr (by omega)
    refine ⟨top, UInt16.lt_iff_toNat_lt.mpr ?_⟩
    rw [UInt16.toNat_sub_of_le _ _ top]
    omega
  · rintro ⟨top, near⟩
    have low : (entry oam index 0).toUInt16.toNat ≤ scanline.toNat :=
      UInt16.le_iff_toNat_le.mp top
    have high := UInt16.lt_iff_toNat_lt.mp near
    rw [UInt16.toNat_sub_of_le _ _ top] at high
    omega

/-- By induction on the sprites that are left: the free slots take the first that cover the line. -/
theorem scanChecked_eq (sprites : List (Fin 64)) {slots : Vector SpriteSlot 8} {filled : Nat}
    (room : filled ≤ 8) :
    scanChecked oam scanline height sprites slots filled =
      let found := sprites.filter (covers oam scanline height)
      let chosen := found.take (8 - filled)
      .ok (fill slots filled (chosen.map (slotFor oam scanline)), filled + chosen.length,
        8 - filled < found.length) := by
  induction sprites generalizing slots filled with
  | nil => simp [scanChecked, fill]
  | cons index rest ih =>
    have line := scanline.toNat_lt
    have top := (entry oam index 0).toNat_lt
    rw [scanChecked, topChecked_eq, ok_bind, signed_ok (by omega) (by omega), ok_bind]
    simp only [row_iff]
    cases covered : covers oam scanline height index with
    | false => simp only [Bool.false_eq_true, not_false_eq_true, if_true, ih room, covered,
        List.filter_cons, if_false]
    | true =>
      simp only [not_true_eq_false, if_false, List.filter_cons, covered, if_true]
      by_cases full : filled = 8
      · simp [full, fill]
      · have free : filled < 8 := Nat.lt_of_le_of_ne room full
        obtain ⟨left, more⟩ : ∃ left, 8 - filled = left + 1 := ⟨7 - filled, by omega⟩
        have less : 8 - (filled + 1) = left := by omega
        have placed : slots.setIfInBounds filled (slotFor oam scanline index) =
            slots.set filled (slotFor oam scanline index) := by
          simp [Vector.setIfInBounds, Vector.set, Array.setIfInBounds, free]
        rw [if_neg full, replace_ok free, ok_bind, ih free, more, less]
        simp only [List.take_succ_cons, List.map_cons, fill, List.length_cons, placed,
          Nat.succ_eq_add_one, Nat.add_lt_add_iff_right, Nat.add_assoc, Nat.add_comm 1]

theorem selectChecked_eq (sprites : Sprites) :
    selectChecked oam scanline height sprites =
      .ok (sprites.select oam scanline height, overflows oam scanline height) := by
  rw [selectChecked, scanChecked_eq _ (Nat.zero_le 8), ok_bind]
  simp only [Nat.zero_add, Nat.sub_zero]
  rfl

end Sprites

end Nes
