import Nes.Proofs.Bits
import Nes.Video.Sprites

/-!
Eight pixels in a row, each read back from the group of four bits in which it is packed. A pixel is
the number made of its palette and one bit of each pattern byte.
-/

namespace Nes.PatternRow

open Bits

/-- The value of the pixel at a place counted from the left. -/
def value (palette : Nat) (low high : UInt8) (column : Nat) : Nat :=
  4 * palette + 2 * (high.toNat.testBit (7 - column)).toNat +
    (low.toNat.testBit (7 - column)).toNat

/-! ### Pixels -/

private theorem bit_toNat (byte : UInt8) (column : Fin 8) :
    ((byte >>> (7 - UInt8.ofNat column.val)) &&& 1).toNat =
      (byte.toNat.testBit (7 - column.val)).toNat := by
  have place : (7 - UInt8.ofNat column.val).toNat = 7 - column.val := by
    revert column
    decide
  rw [UInt8.toNat_and, UInt8.toNat_shiftRight, place, Nat.mod_eq_of_lt (by omega)]
  change byte.toNat >>> (7 - column.val) &&& 1 = _
  rw [Nat.and_one_is_mod, Nat.shiftRight_eq_div_pow, Nat.toNat_testBit]

theorem bits_toNat (low high : UInt8) (column : Fin 8) :
    (bits low high column).toNat =
      2 * (high.toNat.testBit (7 - column.val)).toNat +
        (low.toNat.testBit (7 - column.val)).toNat := by
  simp only [bits]
  rw [UInt8.toNat_or, UInt8.toNat_shiftLeft, bit_toNat, bit_toNat]
  cases high.toNat.testBit (7 - column.val) <;> cases low.toNat.testBit (7 - column.val) <;> rfl

theorem palette_or_bits {palette : UInt8} (small : palette < 4) (low high : UInt8)
    (column : Fin 8) :
    (palette <<< 2 ||| bits low high column).toNat = value palette.toNat low high column.val := by
  have placed : ∀ palette < 4, ∀ pattern < 4, palette <<< 2 % 256 ||| pattern =
      4 * palette + pattern := by decide
  have pattern := bits_toNat low high column
  have few : (bits low high column).toNat < 4 := by
    rw [pattern]
    cases high.toNat.testBit (7 - column.val) <;> cases low.toNat.testBit (7 - column.val) <;>
      decide
  rw [UInt8.toNat_or, UInt8.toNat_shiftLeft]
  refine (placed _ (UInt8.lt_iff_toNat_lt.mp small) _ few).trans ?_
  rw [pattern, value, Nat.add_assoc]

theorem value_lt {palette : Nat} (small : palette < 4) (low high : UInt8) (column : Nat) :
    value palette low high column < 16 := by
  have highBit := Bool.toNat_lt (high.toNat.testBit (7 - column))
  have lowBit := Bool.toNat_lt (low.toNat.testBit (7 - column))
  unfold value
  omega

/-! ### Rows -/

/-- A group of bits above a number that fits into the lowest group is empty in it. -/
private theorem field_small {first small : Nat} (fits : small < 16) (above : 4 ≤ first) :
    field first 4 small = 0 := by
  have most : 2 ^ 4 ≤ 2 ^ first := Nat.pow_le_pow_right (by decide) above
  rw [field, Nat.div_eq_of_lt (by omega), Nat.zero_mod]

/-- A packed row, pixel by pixel: each pixel moves the ones before it one group up. -/
private theorem field_packed {size : Nat} (few : size ≤ 8) (pixel : Fin size → UInt8)
    (small : ∀ column, pixel column < 16) (column : Fin size) :
    field (4 * (size - 1 - column.val)) 4
        (Fin.foldl size
          (fun (packed : UInt32) column => (packed <<< 4) ||| (pixel column).toUInt32) 0).toNat =
      (pixel column).toNat := by
  induction size with
  | zero => exact column.elim0
  | succ size ih =>
    have last : (pixel (Fin.last size)).toNat < 16 := UInt8.lt_iff_toNat_lt.mp (small _)
    rw [Fin.foldl_succ_last, UInt32.toNat_or, field_or, UInt32.toNat_shiftLeft, Nat.shiftLeft_eq]
    change field _ 4 (_ * 2 ^ 4 % 2 ^ 32) ||| field _ 4 (pixel (Fin.last size)).toNat = _
    cases column using Fin.lastCases with
    | last =>
      have here : 4 * (size + 1 - 1 - (Fin.last size).val) = 0 := by
        rw [Fin.val_last]
        omega
      rw [here, field_shift_empty _ _ _ (by decide), Nat.zero_or, field, Nat.pow_zero, Nat.div_one]
      exact Nat.mod_eq_of_lt last
    | cast column =>
      have here : 4 * (size + 1 - 1 - column.castSucc.val) = 4 * (size - 1 - column.val) + 4 := by
        rw [Fin.val_castSucc]
        omega
      rw [here, field_shift _ _ _ (by omega), field_small last (by omega), Nat.or_zero]
      exact ih (by omega) (fun column => pixel column.castSucc) (fun column => small _) column

/-- Each pixel of a packed row stands in its group of bits. -/
theorem field_pack (pixel : Fin 8 → UInt8) (small : ∀ column, pixel column < 16)
    (column : Fin 8) :
    field (4 * (7 - column.val)) 4 (pack pixel).toNat = (pixel column).toNat :=
  field_packed (Nat.le_refl 8) pixel small column

private theorem palette_or_bits_lt {palette : UInt8} (small : palette < 4) (low high : UInt8)
    (column : Fin 8) : palette <<< 2 ||| bits low high column < 16 := by
  rw [UInt8.lt_iff_toNat_lt, palette_or_bits small]
  exact value_lt (UInt8.lt_iff_toNat_lt.mp small) low high column.val

theorem field_forward {palette : UInt8} (small : palette < 4) (low high : UInt8) {column : Nat}
    (inside : column < 8) :
    field (4 * (7 - column)) 4 (forward (palette <<< 2) low high).toNat =
      value palette.toNat low high column := by
  rw [forward, ← palette_or_bits small low high ⟨column, inside⟩]
  exact field_pack (fun column => palette <<< 2 ||| bits low high column)
    (fun _ => palette_or_bits_lt small low high _) ⟨column, inside⟩

theorem field_reversed {palette : UInt8} (small : palette < 4) (low high : UInt8) {column : Nat}
    (inside : column < 8) :
    field (4 * (7 - column)) 4 (reversed (palette <<< 2) low high).toNat =
      value palette.toNat low high (7 - column) := by
  have mirrored : (Fin.rev ⟨column, inside⟩ : Fin 8).val = 7 - column := by
    change 8 - (column + 1) = 7 - column
    omega
  have packed := field_pack (fun column => palette <<< 2 ||| bits low high column.rev)
    (fun _ => palette_or_bits_lt small low high _) ⟨column, inside⟩
  rw [palette_or_bits small low high, mirrored] at packed
  exact packed

/-- The pixel at a place is the group of bits there. -/
theorem pixel_toNat (row : UInt32) {place : UInt8} (inside : place ≤ 7) :
    (pixel row place).toNat = field (4 * (7 - place.toNat)) 4 row.toNat := by
  have few : place.toNat ≤ 7 := UInt8.le_iff_toNat_le.mp inside
  have away : ((7 - place.toUInt32) * 4).toNat = 4 * (7 - place.toNat) := by
    have rest : (7 - place.toUInt32).toNat = 7 - place.toNat :=
      UInt32.toNat_sub_of_le _ _ (UInt32.le_iff_toNat_le.mpr few)
    rw [UInt32.toNat_mul, rest]
    change (7 - place.toNat) * 4 % 2 ^ 32 = _
    omega
  have group : (row.toNat >>> (4 * (7 - place.toNat))) % 16 < 2 ^ 8 := by omega
  rw [pixel, UInt32.toNat_toUInt8, UInt32.toNat_and, UInt32.toNat_shiftRight, away,
    Nat.mod_eq_of_lt (by omega : 4 * (7 - place.toNat) < 32)]
  change (row.toNat >>> (4 * (7 - place.toNat)) &&& 15) % 2 ^ 8 = _
  rw [Nat.and_two_pow_sub_one_eq_mod _ 4, Nat.mod_eq_of_lt group, Nat.shiftRight_eq_div_pow]
  rfl

/-- A pixel is opaque if its number is not a multiple of four. -/
theorem isOpaque_iff (pixel : UInt8) : isOpaque pixel = true ↔ pixel.toNat % 4 ≠ 0 := by
  rw [isOpaque, bne_iff_ne, ne_eq, ← UInt8.toNat_inj, UInt8.toNat_and]
  change ¬ pixel.toNat &&& 3 = 0 ↔ _
  rw [Nat.and_two_pow_sub_one_eq_mod _ 2]

end Nes.PatternRow
