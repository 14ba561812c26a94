import Nes.Proofs.Video.Dot
import Nes.Proofs.Video.PatternRow
import Nes.Proofs.Video.Scroll

/-!
What the memories hold for the tile at a scroll address: its number and palette in the nametable
that the address lies in, and its pixels in the pattern table of the background. The addresses that
the unit computes lead to these bytes.
-/

namespace Nes.Scroll

open Bits

/-- The nametable and the place of the tile, above the pattern tables. -/
theorem tileAddress_toNat (scroll : Scroll) :
    scroll.tileAddress.toNat = 0x2000 + scroll.v.toNat % 2 ^ 12 := by
  have low : scroll.v.toNat % 2 ^ 12 < 2 ^ 13 := by omega
  have bits : scroll.tileAddress.toNat = 2 ^ 13 * 1 + scroll.v.toNat % 2 ^ 12 := by
    rw [tileAddress, UInt16.toNat_or, UInt16.toNat_and, Nat.two_pow_add_eq_or_of_lt low,
      ← Nat.and_two_pow_sub_one_eq_mod, Nat.or_comm]
    rfl
  exact bits

/-- The nametable and the place of the palettes of four rows and columns. -/
theorem attributeAddress_toNat (scroll : Scroll) :
    scroll.attributeAddress.toNat =
      0x23C0 + 0x400 * field 10 2 scroll.v.toNat + 8 * field 3 3 (scroll.v.toNat / 2 ^ 4) +
        field 0 3 (scroll.v.toNat / 2 ^ 2) := by
  have apart : ∀ table < 4, ∀ row < 8, ∀ column < 8,
      0x23C0 ||| table * 2 ^ 10 ||| row * 2 ^ 3 ||| column * 2 ^ 0 =
        0x23C0 + 0x400 * table + 8 * row + column := by
    decide
  have rows : (scroll.v >>> 4).toNat = scroll.v.toNat / 2 ^ 4 := by
    rw [UInt16.toNat_shiftRight]
    exact Nat.shiftRight_eq_div_pow _ _
  have columns : (scroll.v >>> 2).toNat = scroll.v.toNat / 2 ^ 2 := by
    rw [UInt16.toNat_shiftRight]
    exact Nat.shiftRight_eq_div_pow _ _
  simp only [attributeAddress, UInt16.toNat_or]
  rw [toNat_and_mask 10 2 scroll.v rfl, toNat_and_mask 3 3 _ rfl, toNat_and_mask 0 3 _ rfl, rows,
    columns]
  exact apart _ (field_lt 10 2 _) _ (field_lt 3 3 _) _ (field_lt 0 3 _)

end Nes.Scroll

namespace Nes.Ppu.Setup

open Bits Scroll

variable (setup : Setup) (view : (UInt16 → UInt8) × Mirroring) (v : UInt16)

/-! ### Tiles -/

/-- A byte of the nametable in which the address lies. -/
def tableByte (place : Fin 0x400) : UInt8 :=
  have := view.2.table_lt (2 * tableYOf v + tableXOf v)
  setup.nametables[view.2.table (2 * tableYOf v + tableXOf v) * 0x400 + place.val]

/-- The number of the tile: thirty-two columns to a row. -/
def tileNumber : UInt8 :=
  have row : rowOf v < 32 := field_lt 5 5 _
  have column : columnOf v < 32 := field_lt 0 5 _
  setup.tableByte view v ⟨32 * rowOf v + columnOf v, by omega⟩

/-- The palette of the tile. One byte behind the tiles holds those of four rows and columns, two
bits for each quadrant of two by two tiles. -/
def tilePalette : Nat :=
  have row : rowOf v < 32 := field_lt 5 5 _
  have column : columnOf v < 32 := field_lt 0 5 _
  let byte := setup.tableByte view v ⟨0x3C0 + 8 * (rowOf v / 4) + columnOf v / 4, by omega⟩
  field (4 * (rowOf v / 2 % 2) + 2 * (columnOf v / 2 % 2)) 2 byte.toNat

/-- Where the background's patterns are. -/
def patternTable : Nat := if setup.ctrl.toNat.testBit 4 then 0x1000 else 0

/-- One of the two pattern bytes of the tile in the line of the address: sixteen bytes hold a tile,
the low bits of its eight lines before the high bits. -/
def tileByte (plane : Nat) : UInt8 :=
  view.1 (UInt16.ofNat
    (setup.patternTable + 16 * (setup.tileNumber view v).toNat + 8 * plane + lineOf v))

/-- The value of a pixel of the tile. -/
def tilePixel (column : Nat) : Nat :=
  PatternRow.value (setup.tilePalette view v) (setup.tileByte view v 0) (setup.tileByte view v 1)
    column

/-! ### Addresses -/

variable {setup view}

/-- Addresses of the nametables lead to the table and the place that they name. -/
private theorem byteAt_table {address : UInt16} (place : Fin 0x400)
    (names : address.toNat = 0x2000 + 0x400 * (2 * tableYOf v + tableXOf v) + place.val) :
    setup.byteAt view address = setup.tableByte view v place := by
  have upper : tableYOf v < 2 := field_lt 11 1 _
  have left : tableXOf v < 2 := field_lt 10 1 _
  have inside := place.isLt
  have folded : address &&& 0x3FFF = address := and_low_of_lt 14 rfl (by omega)
  have above : ¬ address < 0x2000 := by
    rw [UInt16.lt_iff_toNat_lt]
    change ¬ address.toNat < 0x2000
    omega
  have below : address < 0x3F00 := by
    rw [UInt16.lt_iff_toNat_lt]
    change address.toNat < 0x3F00
    omega
  have repeats (logical : Nat) : view.2.table (8 + logical) = view.2.table logical := by
    cases view.2 <;> simp only [Mirroring.table] <;> omega
  have offset : view.2.nametableOffset address =
      view.2.table (2 * tableYOf v + tableXOf v) * 0x400 + place.val := by
    have table : address.toNat / 0x400 = 8 + (2 * tableYOf v + tableXOf v) := by omega
    rw [Mirroring.nametableOffset, table, repeats]
    omega
  simp only [byteAt, folded, if_neg above, if_pos below, tableByte, offset]

/-- Pattern addresses lead to the cartridge. -/
theorem byteAt_low {address : UInt16} (low : address.toNat < 0x2000) :
    setup.byteAt view address = view.1 (UInt16.ofNat address.toNat) := by
  have folded : address &&& 0x3FFF = address := and_low_of_lt 14 rfl (by omega)
  have below : address < 0x2000 := UInt16.lt_iff_toNat_lt.mpr low
  simp only [byteAt, folded, if_pos below, UInt16.ofNat_toNat]

theorem byteAt_tileAddress (scroll : Scroll) :
    setup.byteAt view scroll.tileAddress = setup.tileNumber view scroll.v := by
  apply byteAt_table
  rw [scroll.tileAddress_toNat]
  simp only [rowOf, columnOf, tableXOf, tableYOf, field]
  omega

theorem byteAt_attributeAddress (scroll : Scroll) :
    ((setup.byteAt view scroll.attributeAddress >>> scroll.attributeShift.toUInt8) &&& 3).toNat =
      setup.tilePalette view scroll.v := by
  have rows : (scroll.v >>> 4).toNat = scroll.v.toNat / 2 ^ 4 := by
    rw [UInt16.toNat_shiftRight]
    exact Nat.shiftRight_eq_div_pow _ _
  have shift : scroll.attributeShift.toNat =
      4 * (rowOf scroll.v / 2 % 2) + 2 * (columnOf scroll.v / 2 % 2) := by
    have apart : ∀ row < 2, ∀ column < 2, row * 2 ^ 2 ||| column * 2 ^ 1 =
        4 * row + 2 * column := by
      decide
    simp only [attributeShift, UInt16.toNat_or]
    rw [toNat_and_mask 2 1 _ rfl, toNat_and_mask 1 1 scroll.v rfl, rows,
      apart _ (field_lt 2 1 _) _ (field_lt 1 1 _)]
    simp only [rowOf, columnOf, field]
    omega
  have byte : setup.byteAt view scroll.attributeAddress = setup.tableByte view scroll.v
      ⟨0x3C0 + 8 * (rowOf scroll.v / 4) + columnOf scroll.v / 4, by
        have row : rowOf scroll.v < 32 := field_lt 5 5 _
        have column : columnOf scroll.v < 32 := field_lt 0 5 _
        omega⟩ := by
    apply byteAt_table
    rw [scroll.attributeAddress_toNat]
    simp only [rowOf, columnOf, tableXOf, tableYOf, field]
    omega
  have place : scroll.attributeShift.toUInt8.toNat = scroll.attributeShift.toNat := by
    rw [UInt16.toNat_toUInt8, shift]
    omega
  rw [byte, tilePalette, UInt8.toNat_and, UInt8.toNat_shiftRight, place, shift,
    Nat.mod_eq_of_lt (by omega), Nat.shiftRight_eq_div_pow]
  exact Nat.and_two_pow_sub_one_eq_mod _ 2

end Nes.Ppu.Setup

namespace Nes.Ppu

open Bits Scroll

/-- The two addresses of a tile's pattern: the table, the tile and the line. -/
theorem backgroundAddress_toNat (ppu : Ppu) :
    ppu.backgroundAddress.toNat = ppu.backgroundTable.toNat +
        16 * ppu.background.ntByte.toNat + lineOf ppu.scroll.v ∧
      (ppu.backgroundAddress + 8).toNat = ppu.backgroundTable.toNat +
        16 * ppu.background.ntByte.toNat + 8 + lineOf ppu.scroll.v := by
  have few : ppu.backgroundTable.toNat ≤ 0x1000 := by
    unfold backgroundTable
    split <;> decide
  have line : ppu.scroll.fineY.toNat = lineOf ppu.scroll.v := by
    rw [fineY, UInt16.toNat_and, UInt16.toNat_shiftRight]
    change ppu.scroll.v.toNat >>> 12 &&& 2 ^ 3 - 1 = _
    rw [Nat.and_two_pow_sub_one_eq_mod, Nat.shiftRight_eq_div_pow]
    rfl
  have short : lineOf ppu.scroll.v < 8 := field_lt 12 3 _
  have tile := ppu.background.ntByte.toNat_lt
  have address : ppu.backgroundAddress.toNat = ppu.backgroundTable.toNat +
      16 * ppu.background.ntByte.toNat + lineOf ppu.scroll.v := by
    rw [backgroundAddress, Background.patternAddress, UInt16.toNat_add, UInt16.toNat_add,
      UInt16.toNat_mul, line]
    change ((_ + ppu.background.ntByte.toNat * 16 % 2 ^ 16) % 2 ^ 16 + _) % 2 ^ 16 = _
    omega
  refine ⟨address, ?_⟩
  rw [UInt16.toNat_add, address]
  change (_ + 8) % 2 ^ 16 = _
  omega

/-- Once a tile's number is known, the two addresses of its pattern lead to its bytes. -/
theorem byteAt_backgroundAddress (ppu : Ppu) (view : (UInt16 → UInt8) × Mirroring)
    (number : ppu.background.ntByte = ppu.setup.tileNumber view ppu.scroll.v) :
    ppu.setup.byteAt view ppu.backgroundAddress = ppu.setup.tileByte view ppu.scroll.v 0 ∧
      ppu.setup.byteAt view (ppu.backgroundAddress + 8) =
        ppu.setup.tileByte view ppu.scroll.v 1 := by
  have table : ppu.backgroundTable.toNat = ppu.setup.patternTable := by
    rw [backgroundTable, and_single 4 ppu.ctrl rfl, Setup.patternTable]
    change _ = if ppu.ctrl.toNat.testBit 4 then 0x1000 else 0
    split <;> rfl
  have few : ppu.setup.patternTable ≤ 0x1000 := by
    unfold Setup.patternTable
    split <;> decide
  have short : lineOf ppu.scroll.v < 8 := field_lt 12 3 _
  have tile := ppu.background.ntByte.toNat_lt
  obtain ⟨address, second⟩ := ppu.backgroundAddress_toNat
  rw [table] at address second
  rw [Setup.byteAt_low (by omega), Setup.byteAt_low (by omega), address, second, number]
  exact ⟨rfl, rfl⟩

end Nes.Ppu
