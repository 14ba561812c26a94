import Nes.Proofs.Bits
import Nes.Video.Scroll

/-!
The scroll addresses as coordinates. An address names a tile by column and row in one of two by two
nametables, and a line of the tile. The increments move these coordinates around the nametables:
64 columns, and 480 lines if the row is one of the thirty that are shown. Address and location
determine each other, so what an operation does to an address is told by where it leads.
-/

namespace Nes.Scroll

open Bits

/-! ### Coordinates -/

def columnOf (address : UInt16) : Nat := field 0 5 address.toNat

def rowOf (address : UInt16) : Nat := field 5 5 address.toNat

/-- Left or right nametable. -/
def tableXOf (address : UInt16) : Nat := field 10 1 address.toNat

/-- Upper or lower nametable. -/
def tableYOf (address : UInt16) : Nat := field 11 1 address.toNat

/-- The line within the tile. -/
def lineOf (address : UInt16) : Nat := field 12 3 address.toNat

/-- The line within both nametables, the upper above the lower. -/
def heightOf (address : UInt16) : Nat :=
  240 * tableYOf address + 8 * rowOf address + lineOf address

/-- The column within both nametables, the left one before the right. -/
def acrossOf (address : UInt16) : Nat := 32 * tableXOf address + columnOf address

/-- The line within one nametable, shown or not. -/
def depthOf (address : UInt16) : Nat := 8 * rowOf address + lineOf address

/-- Where an address points to: across both nametables, and down one of the upper and the lower. -/
@[ext]
structure Location where
  across : Nat
  table : Nat
  depth : Nat
  /-- The bit above all coordinates. -/
  spare : Nat

def locationOf (address : UInt16) : Location where
  across := acrossOf address
  table := tableYOf address
  depth := depthOf address
  spare := field 15 1 address.toNat

namespace Location

variable {location : Location}

/-- The line within both nametables, the upper above the lower. -/
def height (location : Location) : Nat := 240 * location.table + location.depth

/-- The rows that are shown, and not those that hold attributes. -/
structure Shown (location : Location) : Prop where
  table : location.table < 2
  depth : location.depth < 240

/-- One tile to the right. -/
def right (location : Location) : Location :=
  { location with across := (location.across + 1) % 64 }

/-- One line down: after the last line that is shown the other nametable follows, and after the last
line of all the same one. -/
def down (location : Location) : Location :=
  if location.depth = 239 then { location with table := 1 - location.table, depth := 0 }
  else { location with depth := (location.depth + 1) % 256 }

/-- Shown lines follow each other around both nametables. -/
theorem Shown.next (shown : location.Shown) :
    location.down.Shown ∧ location.down.height = (location.height + 1) % 480 := by
  obtain ⟨table, depth⟩ := shown
  unfold down
  split
  · rename_i last
    refine ⟨⟨?_, (by decide : 0 < 240)⟩, ?_⟩
    · change 1 - location.table < 2
      omega
    · change 240 * (1 - location.table) = (240 * location.table + location.depth + 1) % 480
      omega
  · rename_i inside
    refine ⟨⟨table, ?_⟩, ?_⟩
    · change (location.depth + 1) % 256 < 240
      omega
    · change 240 * location.table + (location.depth + 1) % 256 =
        (240 * location.table + location.depth + 1) % 480
      omega

end Location

theorem columnOf_eq (address : UInt16) : columnOf address = (locationOf address).across % 32 := by
  have column : columnOf address < 32 := field_lt 0 5 _
  change _ = (32 * tableXOf address + columnOf address) % 32
  omega

theorem tableXOf_eq (address : UInt16) : tableXOf address = (locationOf address).across / 32 := by
  have column : columnOf address < 32 := field_lt 0 5 _
  change _ = (32 * tableXOf address + columnOf address) / 32
  omega

theorem heightOf_eq (address : UInt16) : heightOf address = (locationOf address).height :=
  Nat.add_assoc _ _ _

theorem rowOf_eq (address : UInt16) : rowOf address = (locationOf address).depth / 8 := by
  have line : lineOf address < 8 := field_lt 12 3 _
  change _ = (8 * rowOf address + lineOf address) / 8
  omega

theorem lineOf_eq (address : UInt16) : lineOf address = (locationOf address).depth % 8 := by
  have line : lineOf address < 8 := field_lt 12 3 _
  change _ = (8 * rowOf address + lineOf address) % 8
  omega

/-- The coordinates are all there is to an address. -/
theorem locationOf_injective : Function.Injective locationOf := by
  intro left right same
  have column : columnOf left = columnOf right := by rw [columnOf_eq, columnOf_eq, same]
  have tableX : tableXOf left = tableXOf right := by rw [tableXOf_eq, tableXOf_eq, same]
  have row : rowOf left = rowOf right := by rw [rowOf_eq, rowOf_eq, same]
  have line : lineOf left = lineOf right := by rw [lineOf_eq, lineOf_eq, same]
  -- The fields from the highest to the lowest.
  have above : left.toNat / 2 ^ 16 = right.toNat / 2 ^ 16 := by
    rw [Nat.div_eq_of_lt left.toNat_lt, Nat.div_eq_of_lt right.toNat_lt]
  have above := div_congr 15 1 (congrArg Location.spare same) above
  have above := div_congr 12 3 line above
  have above := div_congr 11 1 (congrArg Location.table same) above
  have above := div_congr 10 1 tableX above
  have above := div_congr 5 5 row above
  have whole := div_congr 0 5 column above
  rw [Nat.pow_zero, Nat.div_one, Nat.div_one] at whole
  exact UInt16.toNat_inj.mp whole

theorem shown_iff {address : UInt16} : (locationOf address).Shown ↔ rowOf address ≤ 29 := by
  constructor
  · intro shown
    have depth := shown.depth
    rw [rowOf_eq]
    omega
  · intro row
    rw [rowOf_eq] at row
    exact ⟨field_lt 11 1 _, by omega⟩

/-! ### Masks -/

section Fields

variable {first width : Nat} {mask flipped : UInt16}

theorem field_away (address : UInt16) (away : field first width (~~~mask).toNat = 0) :
    field first width (address &&& ~~~mask).toNat = 0 := by
  rw [UInt16.toNat_and, field_and, away, Nat.and_zero]

theorem field_beside (address : UInt16)
    (beside : field first width (~~~mask).toNat = 2 ^ width - 1) :
    field first width (address &&& ~~~mask).toNat = field first width address.toNat := by
  rw [UInt16.toNat_and, field_and, beside, field_and_ones]

/-- A flip leaves the fields beside it. -/
private theorem field_flip_beside (address : UInt16)
    (away : field first width flipped.toNat = 0) :
    field first width (address ^^^ flipped).toNat = field first width address.toNat := by
  rw [UInt16.toNat_xor, field_xor, away, Nat.xor_zero]

private theorem field_flip (address : UInt16) (under : field first 1 flipped.toNat = 1) :
    field first 1 (address ^^^ flipped).toNat = 1 - field first 1 address.toNat := by
  have single : field first 1 address.toNat < 2 ^ 1 := field_lt first 1 _
  rw [UInt16.toNat_xor, field_xor, under]
  obtain zero | one : field first 1 address.toNat = 0 ∨ field first 1 address.toNat = 1 := by
    omega
  · rw [zero]
    rfl
  · rw [one]
    rfl

end Fields

/-- Without its horizontal bits an address is at the left. -/
theorem locationOf_left (address : UInt16) :
    locationOf (address &&& ~~~horizontalMask) = { locationOf address with across := 0 } := by
  have column : columnOf (address &&& ~~~horizontalMask) = 0 := field_away _ rfl
  have tableX : tableXOf (address &&& ~~~horizontalMask) = 0 := field_away _ rfl
  have row : rowOf (address &&& ~~~horizontalMask) = rowOf address := field_beside _ rfl
  have line : lineOf (address &&& ~~~horizontalMask) = lineOf address := field_beside _ rfl
  apply Location.ext
  case across => exact congrArg₂ (32 * · + ·) tableX column
  case table => exact field_beside _ rfl
  case depth => exact congrArg₂ (8 * · + ·) row line
  case spare => exact field_beside _ rfl

/-- Without its vertical bits an address is at the top of the upper nametable. -/
theorem locationOf_upper (address : UInt16) :
    locationOf (address &&& ~~~verticalMask) =
      { locationOf address with table := 0, depth := 0 } := by
  have column : columnOf (address &&& ~~~verticalMask) = columnOf address := field_beside _ rfl
  have tableX : tableXOf (address &&& ~~~verticalMask) = tableXOf address := field_beside _ rfl
  have row : rowOf (address &&& ~~~verticalMask) = 0 := field_away _ rfl
  have line : lineOf (address &&& ~~~verticalMask) = 0 := field_away _ rfl
  apply Location.ext
  case across => exact congrArg₂ (32 * · + ·) tableX column
  case table => exact field_away _ rfl
  case depth => exact congrArg₂ (8 * · + ·) row line
  case spare => exact field_beside _ rfl

/-! ### Copies -/

private theorem field_merge (first width : Nat) (mask target source : UInt16) :
    field first width (merge mask target source).toNat =
      field first width target.toNat &&& field first width (~~~mask).toNat |||
        field first width source.toNat &&& field first width mask.toNat := by
  simp only [merge, UInt16.toNat_or, UInt16.toNat_and, field_or, field_and]

/-- A field under the mask comes from the source. -/
theorem field_merge_under {first width : Nat} {mask : UInt16} (target source : UInt16)
    (away : field first width (~~~mask).toNat = 0)
    (under : field first width mask.toNat = 2 ^ width - 1) :
    field first width (merge mask target source).toNat = field first width source.toNat := by
  rw [field_merge, away, under, field_and_ones, Nat.and_zero, Nat.zero_or]

/-- A field beside the mask stays. -/
theorem field_merge_beside {first width : Nat} {mask : UInt16} (target source : UInt16)
    (beside : field first width (~~~mask).toNat = 2 ^ width - 1)
    (away : field first width mask.toNat = 0) :
    field first width (merge mask target source).toNat = field first width target.toNat := by
  rw [field_merge, away, beside, field_and_ones, Nat.and_zero, Nat.or_zero]

/-- The horizontal coordinates come from `t`, the vertical ones stay. -/
theorem locationOf_copyX (scroll : Scroll) :
    locationOf scroll.copyX.v = { locationOf scroll.v with across := acrossOf scroll.t } := by
  have column : columnOf scroll.copyX.v = columnOf scroll.t := field_merge_under _ _ rfl rfl
  have tableX : tableXOf scroll.copyX.v = tableXOf scroll.t := field_merge_under _ _ rfl rfl
  have row : rowOf scroll.copyX.v = rowOf scroll.v := field_merge_beside _ _ rfl rfl
  have line : lineOf scroll.copyX.v = lineOf scroll.v := field_merge_beside _ _ rfl rfl
  apply Location.ext
  case across => exact congrArg₂ (32 * · + ·) tableX column
  case table => exact field_merge_beside _ _ rfl rfl
  case depth => exact congrArg₂ (8 * · + ·) row line
  case spare => exact field_merge_beside _ _ rfl rfl

/-- The vertical coordinates come from `t`, the horizontal ones stay. -/
theorem locationOf_copyY (scroll : Scroll) :
    locationOf scroll.copyY.v =
      { locationOf scroll.v with table := tableYOf scroll.t, depth := depthOf scroll.t } := by
  have column : columnOf scroll.copyY.v = columnOf scroll.v := field_merge_beside _ _ rfl rfl
  have tableX : tableXOf scroll.copyY.v = tableXOf scroll.v := field_merge_beside _ _ rfl rfl
  have row : rowOf scroll.copyY.v = rowOf scroll.t := field_merge_under _ _ rfl rfl
  have line : lineOf scroll.copyY.v = lineOf scroll.t := field_merge_under _ _ rfl rfl
  apply Location.ext
  case across => exact congrArg₂ (32 * · + ·) tableX column
  case table => exact field_merge_under _ _ rfl rfl
  case depth => exact congrArg₂ (8 * · + ·) row line
  case spare => exact field_merge_beside _ _ rfl rfl

theorem copyX_coordinates (scroll : Scroll) :
    (columnOf scroll.copyX.v = columnOf scroll.t ∧ tableXOf scroll.copyX.v = tableXOf scroll.t) ∧
      rowOf scroll.copyX.v = rowOf scroll.v ∧ heightOf scroll.copyX.v = heightOf scroll.v := by
  rw [columnOf_eq, columnOf_eq, tableXOf_eq, tableXOf_eq, rowOf_eq, rowOf_eq, heightOf_eq,
    heightOf_eq, locationOf_copyX]
  exact ⟨⟨rfl, rfl⟩, rfl, rfl⟩

theorem copyY_coordinates (scroll : Scroll) :
    (columnOf scroll.copyY.v = columnOf scroll.v ∧ tableXOf scroll.copyY.v = tableXOf scroll.v) ∧
      rowOf scroll.copyY.v = rowOf scroll.t ∧ heightOf scroll.copyY.v = heightOf scroll.t := by
  rw [columnOf_eq, columnOf_eq, tableXOf_eq, tableXOf_eq, rowOf_eq, rowOf_eq, heightOf_eq,
    heightOf_eq, locationOf_copyY]
  exact ⟨⟨rfl, rfl⟩, rfl, rfl⟩

/-! ### Increments -/

/-- Only the current address moves. -/
theorem incrementX_kept (scroll : Scroll) :
    scroll.incrementX.t = scroll.t ∧ scroll.incrementX.fineX = scroll.fineX ∧
      scroll.incrementX.w = scroll.w := by
  unfold incrementX
  split <;> exact ⟨rfl, rfl, rfl⟩

theorem incrementY_kept (scroll : Scroll) :
    scroll.incrementY.t = scroll.t ∧ scroll.incrementY.fineX = scroll.fineX ∧
      scroll.incrementY.w = scroll.w := by
  simp only [incrementY]
  repeat' split
  all_goals exact ⟨rfl, rfl, rfl⟩

/-- A column that is not the last is followed by the next of its nametable. -/
private theorem locationOf_nextColumn {address : UInt16} (inside : columnOf address ≠ 31) :
    locationOf (address + 1) = (locationOf address).right := by
  have column : columnOf address < 32 := field_lt 0 5 _
  have room : field 0 5 address.toNat + 1 < 2 ^ 5 := by
    change columnOf address + 1 < 32
    omega
  have next : (address + 1).toNat = address.toNat + 2 ^ 0 := by
    have bound := address.toNat_lt
    rw [UInt16.toNat_add]
    change (address.toNat + 1) % 2 ^ 16 = address.toNat + 1
    unfold columnOf field at inside
    omega
  have count : columnOf (address + 1) = columnOf address + 1 := by
    rw [columnOf, next, field_count room]
    rfl
  have above {high size : Nat} (above : 5 ≤ high) :
      field high size (address + 1).toNat = field high size address.toNat := by
    rw [next]
    exact field_count_above room above
  have table : tableXOf (address + 1) = tableXOf address := above (by decide)
  have single : tableXOf address < 2 := field_lt 10 1 _
  apply Location.ext
  case across =>
    change 32 * tableXOf (address + 1) + columnOf (address + 1) = (acrossOf address + 1) % 64
    rw [table, count, acrossOf]
    omega
  case table => exact above (by decide : 5 ≤ 11)
  case depth => exact congrArg₂ (8 * · + ·) (above (by decide)) (above (by decide))
  case spare => exact above (by decide : 5 ≤ 15)

/-- The last column is followed by the first of the other nametable. -/
private theorem locationOf_nextTable {address : UInt16} (last : columnOf address = 31) :
    locationOf ((address &&& ~~~coarseXMask) ^^^ nametableXMask) = (locationOf address).right := by
  have column : columnOf ((address &&& ~~~coarseXMask) ^^^ nametableXMask) = 0 :=
    (field_flip_beside _ rfl).trans (field_away _ rfl)
  have table : tableXOf ((address &&& ~~~coarseXMask) ^^^ nametableXMask) =
      1 - tableXOf address :=
    (field_flip _ rfl).trans (congrArg (1 - ·) (field_beside _ rfl))
  have beside (first width : Nat) (away : field first width nametableXMask.toNat = 0)
      (kept : field first width (~~~coarseXMask).toNat = 2 ^ width - 1) :
      field first width ((address &&& ~~~coarseXMask) ^^^ nametableXMask).toNat =
        field first width address.toNat :=
    (field_flip_beside _ away).trans (field_beside _ kept)
  have single : tableXOf address < 2 := field_lt 10 1 _
  apply Location.ext
  case across =>
    change 32 * tableXOf _ + columnOf _ = (acrossOf address + 1) % 64
    rw [table, column, acrossOf, last]
    omega
  case table => exact beside 11 1 rfl rfl
  case depth => exact congrArg₂ (8 * · + ·) (beside 5 5 rfl rfl) (beside 12 3 rfl rfl)
  case spare => exact beside 15 1 rfl rfl

/-- One tile to the right, whether or not the nametable ends with it. -/
theorem locationOf_incrementX (scroll : Scroll) :
    locationOf scroll.incrementX.v = (locationOf scroll.v).right := by
  have last : scroll.v &&& coarseXMask = 31 ↔ columnOf scroll.v = 31 := by
    rw [← UInt16.toNat_inj, toNat_and_mask 0 5 scroll.v rfl]
    change columnOf scroll.v * 1 = 31 ↔ _
    rw [Nat.mul_one]
  unfold incrementX
  split
  · rename_i edge
    rw [beq_iff_eq, last] at edge
    exact locationOf_nextTable edge
  · rename_i inside
    rw [beq_iff_eq, last] at inside
    exact locationOf_nextColumn inside

/-- One tile to the right stays on the same line. -/
theorem incrementX_coordinates (scroll : Scroll) :
    rowOf scroll.incrementX.v = rowOf scroll.v ∧
      heightOf scroll.incrementX.v = heightOf scroll.v := by
  rw [rowOf_eq, rowOf_eq, heightOf_eq, heightOf_eq, locationOf_incrementX]
  exact ⟨rfl, rfl⟩

/-- A line that is not the last of its tile is followed by the next of the tile. -/
private theorem locationOf_nextLine {address : UInt16} (inside : lineOf address ≠ 7) :
    locationOf (address + 0x1000) =
      { locationOf address with depth := depthOf address + 1 } := by
  have line : lineOf address < 8 := field_lt 12 3 _
  have room : field 12 3 address.toNat + 1 < 2 ^ 3 := by
    change lineOf address + 1 < 8
    omega
  have next : (address + 0x1000).toNat = address.toNat + 2 ^ 12 := by
    have bound := address.toNat_lt
    rw [UInt16.toNat_add]
    change (address.toNat + 4096) % 2 ^ 16 = address.toNat + 4096
    unfold lineOf field at inside
    omega
  have count : lineOf (address + 0x1000) = lineOf address + 1 := by
    rw [lineOf, next, field_count room]
    rfl
  have below (low size : Nat) (below : low + size ≤ 12) :
      field low size (address + 0x1000).toNat = field low size address.toNat := by
    rw [next]
    exact field_count_below below
  apply Location.ext
  case across =>
    exact congrArg₂ (32 * · + ·) (below 10 1 (by decide)) (below 0 5 (by decide))
  case table => exact below 11 1 (by decide)
  case depth =>
    change 8 * rowOf (address + 0x1000) + lineOf (address + 0x1000) = depthOf address + 1
    rw [count, rowOf, below 5 5 (by decide)]
    rfl
  case spare =>
    change field 15 1 (address + 0x1000).toNat = field 15 1 address.toNat
    rw [next]
    exact field_count_above room (by decide)

/-- With row and line cleared, an address is at the top of its nametable. -/
private theorem locationOf_top (address : UInt16) :
    locationOf ((address &&& ~~~fineYMask) &&& ~~~coarseYMask) =
      { locationOf address with depth := 0 } := by
  have beside (first width : Nat) (line : field first width (~~~fineYMask).toNat = 2 ^ width - 1)
      (row : field first width (~~~coarseYMask).toNat = 2 ^ width - 1) :
      field first width ((address &&& ~~~fineYMask) &&& ~~~coarseYMask).toNat =
        field first width address.toNat :=
    (field_beside _ row).trans (field_beside _ line)
  have row : rowOf ((address &&& ~~~fineYMask) &&& ~~~coarseYMask) = 0 := field_away _ rfl
  have line : lineOf ((address &&& ~~~fineYMask) &&& ~~~coarseYMask) = 0 :=
    (field_beside _ rfl).trans (field_away _ rfl)
  apply Location.ext
  case across => exact congrArg₂ (32 * · + ·) (beside 10 1 rfl rfl) (beside 0 5 rfl rfl)
  case table => exact beside 11 1 rfl rfl
  case depth => exact congrArg₂ (8 * · + ·) row line
  case spare => exact beside 15 1 rfl rfl

private theorem locationOf_otherTable (address : UInt16) :
    locationOf (address ^^^ nametableYMask) =
      { locationOf address with table := 1 - tableYOf address } := by
  have beside (first width : Nat) (away : field first width nametableYMask.toNat = 0) :
      field first width (address ^^^ nametableYMask).toNat = field first width address.toNat :=
    field_flip_beside address away
  apply Location.ext
  case across => exact congrArg₂ (32 * · + ·) (beside 10 1 rfl) (beside 0 5 rfl)
  case table => exact field_flip address rfl
  case depth => exact congrArg₂ (8 * · + ·) (beside 5 5 rfl) (beside 12 3 rfl)
  case spare => exact beside 15 1 rfl

/-- A row that is put into an address at the top of its nametable. -/
private theorem locationOf_row {address row : UInt16} (top : depthOf address = 0)
    (fits : row.toNat < 32) :
    locationOf ((row <<< 5) ||| address) = { locationOf address with depth := 8 * row.toNat } := by
  have placed : (row <<< 5).toNat = row.toNat * 2 ^ 5 := by
    rw [UInt16.toNat_shiftLeft]
    change row.toNat <<< 5 % 2 ^ 16 = _
    rw [Nat.shiftLeft_eq]
    omega
  have empty : rowOf address = 0 ∧ lineOf address = 0 := by
    unfold depthOf at top
    omega
  have apart : (field 0 5 (row.toNat * 2 ^ 5) = 0 ∧ field 10 1 (row.toNat * 2 ^ 5) = 0 ∧
      field 11 1 (row.toNat * 2 ^ 5) = 0 ∧ field 12 3 (row.toNat * 2 ^ 5) = 0 ∧
      field 15 1 (row.toNat * 2 ^ 5) = 0) ∧ field 5 5 (row.toNat * 2 ^ 5) = row.toNat := by
    unfold field
    omega
  obtain ⟨⟨column, tableX, tableY, line, spare⟩, rows⟩ := apart
  have beside (first width : Nat) (away : field first width (row.toNat * 2 ^ 5) = 0) :
      field first width ((row <<< 5) ||| address).toNat = field first width address.toNat := by
    rw [UInt16.toNat_or, placed, field_or, away, Nat.zero_or]
  have inRow : rowOf ((row <<< 5) ||| address) = row.toNat := by
    rw [rowOf, UInt16.toNat_or, placed, field_or, rows, ← rowOf, empty.1, Nat.or_zero]
  apply Location.ext
  case across => exact congrArg₂ (32 * · + ·) (beside 10 1 tableX) (beside 0 5 column)
  case table => exact beside 11 1 tableY
  case depth => exact congrArg₂ (8 * · + ·) inRow ((beside 12 3 line).trans empty.2)
  case spare => exact beside 15 1 spare

/-- One line down, wherever in its nametable the line is. -/
theorem locationOf_incrementY (scroll : Scroll) :
    locationOf scroll.incrementY.v = (locationOf scroll.v).down := by
  have line : lineOf scroll.v < 8 := field_lt 12 3 _
  have small : rowOf scroll.v < 32 := field_lt 5 5 _
  have full : scroll.v &&& fineYMask = fineYMask ↔ lineOf scroll.v = 7 := by
    rw [← UInt16.toNat_inj, toNat_and_mask 12 3 scroll.v rfl]
    change lineOf scroll.v * 4096 = 0x7000 ↔ _
    omega
  have row : (((scroll.v &&& ~~~fineYMask) &&& coarseYMask) >>> 5).toNat = rowOf scroll.v := by
    rw [UInt16.toNat_shiftRight, toNat_and_mask 5 5 _ rfl, field_beside _ rfl]
    change (rowOf scroll.v * 2 ^ 5) >>> 5 = _
    rw [Nat.shiftRight_eq_div_pow, Nat.mul_div_cancel _ (by decide)]
  have top := locationOf_top scroll.v
  have depth : (locationOf scroll.v).depth = 8 * rowOf scroll.v + lineOf scroll.v := rfl
  simp only [incrementY, Location.down, depth]
  split
  · -- Within a tile.
    rename_i inside
    rw [bne_iff_ne, ne_eq, full] at inside
    rw [locationOf_nextLine inside, if_neg (by omega), Nat.mod_eq_of_lt (by omega)]
    rfl
  · rename_i last
    rw [Bool.not_eq_true, bne_eq_false_iff_eq, full] at last
    split
    · -- From the last row into the other nametable.
      rename_i bottom
      rw [beq_iff_eq, ← UInt16.toNat_inj, row] at bottom
      change _ = 29 at bottom
      rw [locationOf_otherTable, top, if_pos (by omega)]
      exact congrArg (Location.mk _ · _ _) (congrArg (1 - ·) (congrArg Location.table top))
    · rename_i inside
      rw [beq_iff_eq, ← UInt16.toNat_inj, row] at inside
      change ¬ _ = 29 at inside
      have early : ¬ 8 * rowOf scroll.v + lineOf scroll.v = 239 := by omega
      rw [if_neg early]
      split
      · -- The last row of all is followed by the first of the same nametable.
        rename_i below
        rw [beq_iff_eq, ← UInt16.toNat_inj, row] at below
        change _ = 31 at below
        rw [top, last, below]
      · rename_i above
        rw [beq_iff_eq, ← UInt16.toNat_inj, row] at above
        change ¬ _ = 31 at above
        have next : (((scroll.v &&& ~~~fineYMask) &&& coarseYMask) >>> 5 + 1).toNat =
            rowOf scroll.v + 1 := by
          rw [UInt16.toNat_add, row]
          change (rowOf scroll.v + 1) % 2 ^ 16 = _
          omega
        rw [locationOf_row (congrArg Location.depth top) (by omega), top, next, last,
          Nat.mod_eq_of_lt (by omega)]
        rfl

/-- One line down, among the lines that are shown. -/
theorem incrementY_coordinates (scroll : Scroll) (shown : rowOf scroll.v ≤ 29) :
    rowOf scroll.incrementY.v ≤ 29 ∧
      heightOf scroll.incrementY.v = (heightOf scroll.v + 1) % 480 := by
  rw [← shown_iff, heightOf_eq, heightOf_eq, locationOf_incrementY]
  exact (shown_iff.mpr shown).next

end Nes.Scroll
