import Nes.Proofs.Video.Tile

/-!
What the memories hold for the sprites of a line: which of them cover it, and the pixels that each
shows there, turned over and taken from one tile or two as its attributes and the control register
say. The slots that the unit fills lead to the same pixels.
-/

namespace Nes

open Bits

namespace Ppu.Setup

variable (setup : Setup) (view : (UInt16 → UInt8) × Mirroring) (line : Nat) (index : Fin 64)

/-! ### Sprites of a line -/

/-- Sprites are two tiles high. -/
def tall : Bool := setup.ctrl.toNat.testBit 5

def height : Nat := if setup.tall then 16 else 8

/-- A byte of a sprite, which has four in object memory: top line, tile, attributes and column. -/
def objectByte (place : Nat) : UInt8 :=
  if inside : place < 4 then Sprites.entry setup.oam index ⟨place, inside⟩ else 0

/-- The top line of a sprite. -/
def top : Nat := (setup.objectByte index 0).toNat

/-- The sprites that have a row on the line, in the order of object memory. -/
def covering : List (Fin 64) :=
  (List.finRange 64).filter fun index =>
    decide (setup.top index ≤ line ∧ line < setup.top index + setup.height)

/-- The sprites that the next line shows: the first eight. -/
def lineSprites : List (Fin 64) := (setup.covering line).take 8

/-- The row of its pattern that a sprite shows, from the bottom if it is turned over. -/
def patternRow : Nat :=
  if (setup.objectByte index 2).toNat.testBit 7 then
    setup.height - 1 - (line - setup.top index)
  else line - setup.top index

/-- Where the sprite's pattern byte for the line is. A tall sprite has an even tile above the odd
one that follows, in the table that its tile's lowest bit names. -/
def spriteAddress : Nat :=
  let tile := (setup.objectByte index 1).toNat
  let row := setup.patternRow line index
  if setup.tall then 0x1000 * (tile % 2) + 16 * (tile - tile % 2 + row / 8) + row % 8
  else (if setup.ctrl.toNat.testBit 3 then 0x1000 else 0) + 16 * tile + row

/-- One of the two pattern bytes of a sprite on the line. -/
def spriteByte (plane : Nat) : UInt8 :=
  view.1 (UInt16.ofNat (setup.spriteAddress line index + 8 * plane))

/-- The value of a sprite's pixel in a column of the picture, or zero beside it. -/
def spritePixel (column : Nat) : Nat :=
  let left := (setup.objectByte index 3).toNat
  let attributes := (setup.objectByte index 2).toNat
  if left ≤ column ∧ column < left + 8 then
    PatternRow.value (attributes % 4) (setup.spriteByte view line index 0)
      (setup.spriteByte view line index 1)
      (if attributes.testBit 6 then 7 - (column - left) else column - left)
  else 0

end Ppu.Setup

/-! ### Selection -/

namespace Ppu

variable (ppu : Ppu)

theorem tallSprites_eq : ppu.tallSprites = ppu.setup.tall := and_single 5 ppu.ctrl rfl

theorem spriteHeight_toNat : ppu.spriteHeight.toNat = ppu.setup.height := by
  rw [spriteHeight, tallSprites_eq, Setup.height]
  split <;> rfl

theorem spriteTable_toNat :
    ppu.spriteTable.toNat = if ppu.setup.ctrl.toNat.testBit 3 then 0x1000 else 0 := by
  rw [spriteTable, and_single 3 ppu.ctrl rfl]
  change _ = if ppu.ctrl.toNat.testBit 3 then 0x1000 else 0
  split <;> rfl

/-- The unit selects the sprites that have a row on the line. -/
theorem covering_eq {line : Nat} (scanline : ppu.raster.scanline.toNat = line) :
    Sprites.covering ppu.oam ppu.raster.scanline ppu.spriteHeight = ppu.setup.covering line := by
  unfold Sprites.covering Setup.covering
  congr 1
  funext index
  have height := ppu.spriteHeight_toNat
  have top : (Sprites.entry ppu.oam index 0).toUInt16.toNat = ppu.setup.top index := rfl
  rw [Sprites.covers, Bool.eq_iff_iff, Bool.and_eq_true, decide_eq_true_iff, decide_eq_true_iff,
    decide_eq_true_iff, UInt16.le_iff_toNat_le, UInt16.lt_iff_toNat_lt, height, top, scanline]
  refine and_congr_right fun below => ?_
  rw [UInt16.toNat_sub_of_le _ _ (by rw [UInt16.le_iff_toNat_le, top, scanline]; exact below),
    top, scanline]
  omega

/-! ### Pattern addresses -/

variable {ppu} {line : Nat} {index : Fin 64}

theorem Setup.mem_covering {setup : Setup} :
    index ∈ setup.covering line ↔
      setup.top index ≤ line ∧ line < setup.top index + setup.height := by
  rw [covering, List.mem_filter, decide_eq_true_iff]
  exact and_iff_right (List.mem_finRange index)

theorem Setup.patternRow_lt {setup : Setup} (covers : index ∈ setup.covering line) :
    setup.patternRow line index < setup.height := by
  obtain ⟨below, above⟩ := mem_covering.mp covers
  unfold patternRow
  split <;> omega

/-- The row of the pattern that the slot of a sprite names. -/
theorem slotFor_patternRow (scanline : ppu.raster.scanline.toNat = line)
    (covers : index ∈ ppu.setup.covering line) {height : UInt8}
    (same : height.toNat = ppu.setup.height) :
    ((Sprites.slotFor ppu.oam ppu.raster.scanline index).patternRow height).toNat =
      ppu.setup.patternRow line index := by
  obtain ⟨below, above⟩ := Setup.mem_covering.mp covers
  have few : 0 < ppu.setup.height ∧ ppu.setup.height ≤ 16 := by
    unfold Setup.height
    split <;> decide
  have row : (Sprites.slotFor ppu.oam ppu.raster.scanline index).row.toNat =
      line - ppu.setup.top index := by
    have top : (Sprites.entry ppu.oam index 0).toUInt16.toNat = ppu.setup.top index := rfl
    have inside : (Sprites.entry ppu.oam index 0).toUInt16 ≤ ppu.raster.scanline := by
      rw [UInt16.le_iff_toNat_le, top, scanline]
      exact below
    rw [Sprites.slotFor, UInt16.toNat_toUInt8, UInt16.toNat_sub_of_le _ _ inside, top, scanline]
    omega
  have last : (height - 1).toNat = ppu.setup.height - 1 := by
    have first : (1 : UInt8) ≤ height := by
      rw [UInt8.le_iff_toNat_le, same]
      exact few.1
    rw [UInt8.toNat_sub_of_le _ _ first, same]
    rfl
  have within : (Sprites.slotFor ppu.oam ppu.raster.scanline index).row ≤ height - 1 := by
    rw [UInt8.le_iff_toNat_le, row, last]
    omega
  have clamped : min (Sprites.slotFor ppu.oam ppu.raster.scanline index).row (height - 1) =
      (Sprites.slotFor ppu.oam ppu.raster.scanline index).row := if_pos within
  have turned : (Sprites.slotFor ppu.oam ppu.raster.scanline index).flippedVertically =
      (ppu.setup.objectByte index 2).toNat.testBit 7 := and_single 7 _ rfl
  simp only [SpriteSlot.patternRow, clamped, turned, Setup.patternRow]
  change _ = if (ppu.setup.objectByte index 2).toNat.testBit 7 then _ else _
  split
  · rw [UInt8.toNat_sub_of_le _ _ within, last, row]
  · exact row

/-- The slot of a sprite leads to its pattern. -/
theorem slotFor_patternAddress (scanline : ppu.raster.scanline.toNat = line)
    (covers : index ∈ ppu.setup.covering line) :
    ((Sprites.slotFor ppu.oam ppu.raster.scanline index).patternAddress ppu.tallSprites
      ppu.spriteTable).toNat = ppu.setup.spriteAddress line index := by
  have row := Setup.patternRow_lt covers
  have tile := (ppu.setup.objectByte index 1).toNat_lt
  have named : (Sprites.slotFor ppu.oam ppu.raster.scanline index).tile =
      ppu.setup.objectByte index 1 := rfl
  have table := ppu.spriteTable_toNat
  rw [SpriteSlot.patternAddress, tallSprites_eq, named, Setup.spriteAddress]
  generalize ppu.setup.objectByte index 1 = number at *
  cases tall : ppu.setup.tall with
  | true =>
    have height : ppu.setup.height = 16 := by rw [Setup.height, tall, if_pos rfl]
    have sixteen : (16 : UInt8).toNat = ppu.setup.height := height.symm
    have shown := slotFor_patternRow scanline covers sixteen
    generalize SpriteSlot.patternRow _ 16 = part at *
    have odd : (number &&& 1).toUInt16.toNat = number.toNat % 2 := by
      change (number &&& 1).toNat = _
      rw [UInt8.toNat_and]
      exact Nat.and_one_is_mod _
    have even : (number &&& 0xFE).toUInt16.toNat = number.toNat - number.toNat % 2 := by
      change (number &&& 0xFE).toNat = _
      rw [UInt8.toNat_and]
      refine (and_mask 1 7 number.toNat).trans ?_
      unfold field
      omega
    have base : ((number &&& 1).toUInt16 * 0x1000 + (number &&& 0xFE).toUInt16 * 16).toNat =
        0x1000 * (number.toNat % 2) + 16 * (number.toNat - number.toNat % 2) := by
      rw [UInt16.toNat_add, UInt16.toNat_mul, UInt16.toNat_mul, odd, even]
      change (number.toNat % 2 * 0x1000 % 2 ^ 16 +
        (number.toNat - number.toNat % 2) * 16 % 2 ^ 16) % 2 ^ 16 = _
      omega
    simp only [if_true]
    split
    · rename_i lower
      have eight : (part - 8).toUInt16.toNat = part.toNat - 8 :=
        UInt8.toNat_sub_of_le _ _ (UInt8.le_iff_toNat_le.mpr (UInt8.lt_iff_toNat_lt.mp lower))
      have below : 7 < part.toNat := UInt8.lt_iff_toNat_lt.mp lower
      rw [UInt16.toNat_add, UInt16.toNat_add, base, eight]
      change ((_ + 16) % 2 ^ 16 + (part.toNat - 8)) % 2 ^ 16 = _
      omega
    · rename_i upper
      have above : ¬ 7 < part.toNat := fun below => upper (UInt8.lt_iff_toNat_lt.mpr below)
      rw [UInt16.toNat_add, base]
      change (_ + part.toNat) % 2 ^ 16 = _
      omega
  | false =>
    have height : ppu.setup.height = 8 := by rw [Setup.height, tall, if_neg Bool.false_ne_true]
    have eight : (8 : UInt8).toNat = ppu.setup.height := height.symm
    have shown := slotFor_patternRow scanline covers eight
    generalize SpriteSlot.patternRow _ 8 = part at *
    have few : ppu.spriteTable.toNat ≤ 0x1000 := by
      rw [table]
      split <;> decide
    simp only [Bool.false_eq_true, if_false]
    rw [UInt16.toNat_add, UInt16.toNat_add, UInt16.toNat_mul, ← table]
    change ((_ + number.toNat * 16 % 2 ^ 16) % 2 ^ 16 + part.toNat) % 2 ^ 16 = _
    omega

/-- The two addresses of a sprite's pattern lead to its bytes. -/
theorem byteAt_spriteAddress (view : (UInt16 → UInt8) × Mirroring)
    (scanline : ppu.raster.scanline.toNat = line) (covers : index ∈ ppu.setup.covering line) :
    ppu.setup.byteAt view ((Sprites.slotFor ppu.oam ppu.raster.scanline index).patternAddress
        ppu.tallSprites ppu.spriteTable) = ppu.setup.spriteByte view line index 0 ∧
      ppu.setup.byteAt view ((Sprites.slotFor ppu.oam ppu.raster.scanline index).patternAddress
        ppu.tallSprites ppu.spriteTable + 8) = ppu.setup.spriteByte view line index 1 := by
  have address := slotFor_patternAddress scanline covers
  have room : ppu.setup.spriteAddress line index + 8 < 0x2000 := by
    have row := Setup.patternRow_lt covers
    have tile := (ppu.setup.objectByte index 1).toNat_lt
    unfold Setup.spriteAddress
    unfold Setup.height at row
    dsimp only
    split
    · rename_i tall
      rw [if_pos tall] at row
      omega
    · rename_i small
      rw [if_neg small] at row
      split <;> omega
  have second : ((Sprites.slotFor ppu.oam ppu.raster.scanline index).patternAddress
      ppu.tallSprites ppu.spriteTable + 8).toNat = ppu.setup.spriteAddress line index + 8 := by
    rw [UInt16.toNat_add, address]
    change (_ + 8) % 2 ^ 16 = _
    omega
  rw [Setup.byteAt_low (by omega), Setup.byteAt_low (by omega), address, second]
  exact ⟨rfl, rfl⟩

/-! ### Pixels -/

/-- The slot of a sprite once both bytes of its pattern have come. -/
def Setup.drawnSlot (setup : Setup) (view : (UInt16 → UInt8) × Mirroring) (scanline : UInt16)
    (index : Fin 64) : SpriteSlot :=
  ((Sprites.slotFor setup.oam scanline index).latchLow
    (setup.spriteByte view scanline.toNat index 0)).latchHigh
    (setup.spriteByte view scanline.toNat index 1)

/-- The packed row of a finished slot holds the sprite's pixels, from the right if it is turned
over. -/
private theorem Setup.drawnSlot_pixel (setup : Setup) (view : (UInt16 → UInt8) × Mirroring)
    (scanline : UInt16) (index : Fin 64) {offset : UInt8} (inside : offset ≤ 7) :
    (PatternRow.pixel (setup.drawnSlot view scanline index).pattern offset).toNat =
      PatternRow.value ((setup.objectByte index 2).toNat % 4)
        (setup.spriteByte view scanline.toNat index 0)
        (setup.spriteByte view scanline.toNat index 1)
        (if (setup.objectByte index 2).toNat.testBit 6 then 7 - offset.toNat
        else offset.toNat) := by
  have few : offset.toNat < 8 := Nat.lt_succ_of_le (UInt8.le_iff_toNat_le.mp inside)
  have palette : (setup.objectByte index 2 &&& 3).toNat =
      (setup.objectByte index 2).toNat % 4 := by
    rw [UInt8.toNat_and]
    exact Nat.and_two_pow_sub_one_eq_mod _ 2
  have small : setup.objectByte index 2 &&& 3 < 4 := by
    rw [UInt8.lt_iff_toNat_lt, palette]
    exact Nat.mod_lt _ (by decide)
  have mirrored : (setup.drawnSlot view scanline index).flippedHorizontally =
      (setup.objectByte index 2).toNat.testBit 6 := and_single 6 _ rfl
  have packed : (setup.drawnSlot view scanline index).pattern =
      if (setup.drawnSlot view scanline index).flippedHorizontally then
        PatternRow.reversed ((setup.objectByte index 2 &&& 3) <<< 2)
          (setup.spriteByte view scanline.toNat index 0).toUInt32.toUInt8
          (setup.spriteByte view scanline.toNat index 1)
      else
        PatternRow.forward ((setup.objectByte index 2 &&& 3) <<< 2)
          (setup.spriteByte view scanline.toNat index 0).toUInt32.toUInt8
          (setup.spriteByte view scanline.toNat index 1) := rfl
  rw [PatternRow.pixel_toNat _ inside, packed, mirrored, UInt8.toUInt8_toUInt32, ← palette]
  cases (setup.objectByte index 2).toNat.testBit 6 with
  | true => exact PatternRow.field_reversed small _ _ few
  | false => exact PatternRow.field_forward small _ _ few

/-- A finished slot is opaque where the sprite's pixel is not a multiple of four. -/
theorem Setup.drawnSlot_opaquePixel (setup : Setup) (view : (UInt16 → UInt8) × Mirroring)
    (scanline : UInt16) (index : Fin 64) (column : UInt8) :
    (setup.drawnSlot view scanline index).opaquePixel? column =
      if setup.spritePixel view scanline.toNat index column.toNat % 4 ≠ 0 then
        some (UInt8.ofNat (setup.spritePixel view scanline.toNat index column.toNat))
      else none := by
  have left : (setup.drawnSlot view scanline index).x = setup.objectByte index 3 := rfl
  have beside : (setup.objectByte index 3 ≤ column &&
      decide (column - setup.objectByte index 3 < 8)) =
      decide ((setup.objectByte index 3).toNat ≤ column.toNat ∧
        column.toNat < (setup.objectByte index 3).toNat + 8) := by
    rw [Bool.eq_iff_iff, Bool.and_eq_true, decide_eq_true_iff, decide_eq_true_iff,
      decide_eq_true_iff, UInt8.le_iff_toNat_le, UInt8.lt_iff_toNat_lt]
    refine and_congr_right fun after => ?_
    rw [UInt8.toNat_sub_of_le _ _ (UInt8.le_iff_toNat_le.mpr after)]
    change _ < 8 ↔ _
    omega
  rw [SpriteSlot.opaquePixel?, left, beside, spritePixel]
  dsimp only
  by_cases inside : (setup.objectByte index 3).toNat ≤ column.toNat ∧
      column.toNat < (setup.objectByte index 3).toNat + 8
  · have offset : (column - setup.objectByte index 3).toNat =
        column.toNat - (setup.objectByte index 3).toNat :=
      UInt8.toNat_sub_of_le _ _ (UInt8.le_iff_toNat_le.mpr inside.1)
    have near : column - setup.objectByte index 3 ≤ 7 := by
      rw [UInt8.le_iff_toNat_le, offset]
      change _ ≤ 7
      omega
    have shown := setup.drawnSlot_pixel view scanline index near
    rw [offset] at shown
    simp only [inside, decide_true, if_true, ← shown, and_self, UInt8.ofNat_toNat,
      PatternRow.isOpaque_iff]
  · simp only [inside, decide_false, Bool.false_eq_true, if_false]
    rfl

end Ppu

end Nes
