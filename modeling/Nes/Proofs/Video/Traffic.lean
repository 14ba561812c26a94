import Nes.Proofs.Cartridge.EdgeFilter
import Nes.Proofs.Video.Tile

/-!
What the cartridge sees of a dot: the address that the dot's fetch puts on the bus, and nothing
else. Whatever stands in the memories, numbers and palettes of tiles lie above the pattern tables,
and the patterns of the background and of the sprites lie in their tables, each at its own dots.
-/

namespace Nes

namespace Cartridge

/-- Only boards that follow the bus take notice of an address, and only of pattern addresses. -/
theorem observe_above (cart : Cartridge) {address : UInt16} (above : 0x2000 ≤ address.toNat) :
    cart.observe address = cart := by
  obtain ⟨memory, board, mapperId, battery⟩ := cart
  cases board with
  | mmc3 chip =>
    have unheard := (chip.registers.observe_above above chip.variant).2
    simp only [observe, Board.observe, Mmc3.observe, unheard]
  | nrom | mmc1 | uxRom | cnRom | axRom => rfl

/-- The cartridge hears of an address on the picture unit's bus, if there is one. -/
def hear (cart : Cartridge) : Option UInt16 → Cartridge
  | some address => cart.observe (address &&& 0x3FFF)
  | none => cart

/-- What is on the bus clocks the cartridge's scanline counter, if it has one. -/
def clockedBy (cart : Cartridge) : Option UInt16 → Bool
  | some address =>
    match cart.board with
    | .mmc3 chip => chip.registers.clockedBy chip.variant (address &&& 0x3FFF)
    | _ => false
  | none => false

/-- The cartridge with other registers in its bank switcher. -/
def withRegisters (cart : Cartridge) (chip : Mmc3) (registers : Mmc3.Registers) : Cartridge :=
  { cart with board := .mmc3 { chip with registers } }

theorem withRegisters_self {cart : Cartridge} {chip : Mmc3} (board : cart.board = .mmc3 chip) :
    cart.withRegisters chip chip.registers = cart := by
  obtain ⟨memory, board', mapperId, battery⟩ := cart
  obtain rfl : board' = .mmc3 chip := board
  rfl

/-- The counter is clocked or left alone; beside it the chip only remembers the address line. -/
theorem hear_counts (cart : Cartridge) {chip : Mmc3} (board : cart.board = .mmc3 chip)
    (address : Option UInt16) :
    ∃ a12 filter, cart.hear address = cart.withRegisters chip
      ((if cart.clockedBy address then chip.registers.clockCounter
        else chip.registers).withLine a12 filter) := by
  obtain ⟨memory, board', mapperId, battery⟩ := cart
  obtain rfl : board' = .mmc3 chip := board
  cases address with
  | none => exact ⟨chip.registers.lastA12, chip.registers.a12Filter, rfl⟩
  | some address =>
    obtain ⟨a12, filter, seen⟩ :=
      chip.registers.observe_counts chip.variant (address &&& 0x3FFF)
    exact ⟨a12, filter, congrArg (withRegisters _ chip) seen⟩

end Cartridge

namespace Ppu

variable (ppu : Ppu) (cart : Cartridge)

theorem readVram_cart (address : UInt16) :
    (ppu.readVram cart address).2 = cart.observe (address &&& 0x3FFF) := by
  simp only [readVram]
  split
  · rfl
  · rename_i outside
    rw [UInt16.lt_iff_toNat_lt] at outside
    rw [cart.observe_above (Nat.not_lt.mp outside)]
    split <;> rfl

/-- The address of a tile's fetch. -/
def tileFetch? : Option UInt16 :=
  match (ppu.raster.dot % 8).toNat with
  | 1 => some ppu.scroll.tileAddress
  | 3 => some ppu.scroll.attributeAddress
  | 5 => some ppu.backgroundAddress
  | 7 => some (ppu.backgroundAddress + 8)
  | _ => none

/-- Where the pattern of the slot that is fetched begins. -/
def spriteAddress : UInt16 :=
  (ppu.sprites.slotAt ppu.fetchSlot).patternAddress ppu.tallSprites ppu.spriteTable

/-- The address of a sprite's fetch. -/
def spriteFetch? : Option UInt16 :=
  let phase := ((ppu.raster.dot - 257) % 8).toNat
  if phase = 4 then some ppu.spriteAddress
  else if phase = 6 then some (ppu.spriteAddress + 8)
  else none

/-- The address that a dot of a drawn line puts on the bus. -/
def fetch? : Option UInt16 :=
  if ppu.raster.visibleDot || ppu.raster.dotIn 321 336 then ppu.tileFetch?
  else if ppu.raster.dotIn 257 320 then ppu.spriteFetch?
  else none

/-- The address that the present dot puts on the bus. -/
def busAddress? : Option UInt16 := if ppu.drawing then ppu.fetch? else none

theorem fetchTile_cart : (ppu.fetchTile cart).2 = cart.hear ppu.tileFetch? := by
  simp only [fetchTile, tileFetch?]
  generalize (ppu.raster.dot % 8).toNat = phase
  split
  case h_5 => rfl
  case h_6 =>
    split
    case h_5 => rfl
    all_goals contradiction
  all_goals exact readVram_cart _ _ _

theorem fetchSprite_cart : (ppu.fetchSprite cart).2 = cart.hear ppu.spriteFetch? := by
  simp only [fetchSprite, spriteFetch?]
  generalize ((ppu.raster.dot - 257) % 8).toNat = phase
  split
  case h_3 low high =>
    rw [if_neg low, if_neg high]
    rfl
  all_goals exact readVram_cart _ _ _

theorem tileDot_cart :
    (ppu.tileDot cart).2 =
      cart.hear (if ppu.raster.visibleDot || ppu.raster.dotIn 321 336 then ppu.tileFetch?
        else none) := by
  unfold tileDot
  split
  · exact ppu.fetchTile_cart cart
  · rfl

theorem spriteDot_cart :
    (ppu.spriteDot cart).2 =
      cart.hear (if ppu.raster.dotIn 257 320 then ppu.spriteFetch? else none) := by
  unfold spriteDot
  split
  · exact fetchSprite_cart _ cart
  · rfl

/-- The first of the sprite dots fetches nothing, so the next line's sprites are selected before
any of their patterns is fetched. -/
theorem lineEnd_spriteFetch (ppu : Ppu) : ppu.lineEnd.spriteFetch? = ppu.spriteFetch? := by
  by_cases first : ppu.raster.dot = 257
  · have phase (unit : Ppu) (place : unit.raster = ppu.raster) : unit.spriteFetch? = none := by
      simp only [spriteFetch?, place, first]
      rfl
    rw [phase ppu rfl, phase]
    rw [lineEnd_frame]
  · have later : (ppu.raster.dot == 257) = false := beq_false_of_ne first
    rw [lineEnd_frame]
    simp only [evaluatedSprites, later, Bool.false_eq_true, if_false]
    rfl

theorem fetchDot_cart : (ppu.fetchDot cart).2 = cart.hear ppu.fetch? := by
  have raster : (ppu.tileDot cart).1.lineEnd.raster = ppu.raster := by
    rw [lineEnd_frame, (ppu.tileDot_frame cart).1]
  rw [fetchDot_eq, spriteDot_cart, tileDot_cart, raster, fetch?]
  cases tile : ppu.raster.visibleDot || ppu.raster.dotIn 321 336 with
  | true =>
    have apart : ¬ ppu.raster.dotIn 257 320 = true := by
      rw [Bool.or_eq_true, Raster.visibleDot_iff, Raster.dotIn_iff] at tile
      rw [Raster.dotIn_iff]
      simp only [UInt16.reduceToNat] at tile ⊢
      omega
    rw [if_neg apart]
    rfl
  | false =>
    rw [tileDot_idle ppu cart tile, lineEnd_spriteFetch]
    rfl

/-- The cartridge hears of the address that the dot puts on the bus, and of nothing else. -/
theorem step_cart : (ppu.step cart).2 = cart.hear ppu.busAddress? := by
  have drawn : (ppu.step cart).2 = (ppu.drawn cart).2 := rfl
  rw [drawn, busAddress?]
  split
  · rename_i drawing
    have same : ppu.shown.fetch? = ppu.fetch? := by
      rw [shown_frame]
      rfl
    rw [drawn_of_drawing ppu cart drawing, fetchDot_cart, same]
  · rename_i idle
    rw [drawn_of_idle ppu cart idle]
    rfl

/-! ### Address line 12 -/

/-- What an address tells of address line 12: nothing if there is none or if it is no pattern
address. -/
inductive Level : Option UInt16 → Option Bool → Prop where
  | silent : Level none none
  | above {address : UInt16} (above : 0x2000 ≤ address.toNat) (inside : address.toNat < 0x4000) :
    Level (some address) none
  | lower {address : UInt16} (lower : address.toNat < 0x1000) : Level (some address) (some false)
  | upper {address : UInt16} (above : 0x1000 ≤ address.toNat) (upper : address.toNat < 0x2000) :
    Level (some address) (some true)

/-- The picture is drawn with the lower pattern table for the background and the upper one for
small sprites. -/
structure TablesApart : Prop where
  rendering : ppu.rendering = true
  small : ppu.tallSprites = false
  lower : ppu.backgroundTable = 0
  upper : ppu.spriteTable = 0x1000

/-- The level that a dot of a drawn line then shows: low while patterns of the background are
fetched, and high while those of the sprites are. -/
def lineLevel? (dot : Nat) : Option Bool :=
  if 1 ≤ dot ∧ dot ≤ 256 ∨ 321 ≤ dot ∧ dot ≤ 336 then
    if dot % 8 = 5 ∨ dot % 8 = 7 then some false else none
  else if 257 ≤ dot ∧ dot ≤ 320 then
    if (dot - 257) % 8 = 4 ∨ (dot - 257) % 8 = 6 then some true else none
  else none

variable {ppu}

theorem tileFetch_level (lower : ppu.backgroundTable = 0) :
    Level ppu.tileFetch?
      (if ppu.raster.dot.toNat % 8 = 5 ∨ ppu.raster.dot.toNat % 8 = 7 then some false
        else none) := by
  have phase : (ppu.raster.dot % 8).toNat = ppu.raster.dot.toNat % 8 := UInt16.toNat_mod _ _
  obtain ⟨first, second⟩ := ppu.backgroundAddress_toNat
  have tile := ppu.background.ntByte.toNat_lt
  have line : Scroll.lineOf ppu.scroll.v < 8 := Bits.field_lt 12 3 _
  have number := ppu.scroll.tileAddress_toNat
  have palette := ppu.scroll.attributeAddress_toNat
  have table : Bits.field 10 2 ppu.scroll.v.toNat < 4 := Bits.field_lt 10 2 _
  have row : Bits.field 3 3 (ppu.scroll.v.toNat / 2 ^ 4) < 8 := Bits.field_lt 3 3 _
  have column : Bits.field 0 3 (ppu.scroll.v.toNat / 2 ^ 2) < 8 := Bits.field_lt 0 3 _
  rw [lower, UInt16.toNat_zero] at first second
  rw [tileFetch?, phase]
  generalize ppu.raster.dot.toNat % 8 = dot
  split
  · exact .above (by omega) (by omega)
  · exact .above (by omega) (by omega)
  · exact .lower (by omega)
  · exact .lower (by omega)
  · rename_i low high
    rw [if_neg (not_or.mpr ⟨low, high⟩)]
    exact .silent

/-- A small sprite has eight rows, whatever its slot holds. -/
theorem patternRow_small (slot : SpriteSlot) : (slot.patternRow 8).toNat ≤ 7 := by
  have clamped : (min slot.row (8 - 1)).toNat ≤ 7 := by
    change (if slot.row ≤ 8 - 1 then slot.row else 8 - 1).toNat ≤ 7
    split
    · rename_i inside
      exact UInt8.le_iff_toNat_le.mp inside
    · decide
  simp only [SpriteSlot.patternRow]
  split
  · rw [UInt8.toNat_sub_of_le _ _ (UInt8.le_iff_toNat_le.mpr clamped)]
    exact Nat.sub_le _ _
  · exact clamped

theorem spriteAddress_range (small : ppu.tallSprites = false) (upper : ppu.spriteTable = 0x1000) :
    0x1000 ≤ ppu.spriteAddress.toNat ∧ ppu.spriteAddress.toNat < 0x1FF8 := by
  have row := patternRow_small (ppu.sprites.slotAt ppu.fetchSlot)
  have tile := (ppu.sprites.slotAt ppu.fetchSlot).tile.toNat_lt
  have address : ppu.spriteAddress.toNat = 0x1000 +
      (ppu.sprites.slotAt ppu.fetchSlot).tile.toNat * 16 +
        ((ppu.sprites.slotAt ppu.fetchSlot).patternRow 8).toNat := by
    rw [spriteAddress, SpriteSlot.patternAddress, small, upper, if_neg Bool.false_ne_true,
      UInt16.toNat_add, UInt16.toNat_add, UInt16.toNat_mul]
    generalize ppu.sprites.slotAt ppu.fetchSlot = slot at *
    change ((0x1000 + slot.tile.toNat * 16 % 2 ^ 16) % 2 ^ 16 +
      (slot.patternRow 8).toNat) % 2 ^ 16 = _
    omega
  omega

theorem spriteFetch_level (small : ppu.tallSprites = false) (upper : ppu.spriteTable = 0x1000)
    (later : 257 ≤ ppu.raster.dot.toNat) :
    Level ppu.spriteFetch?
      (if (ppu.raster.dot.toNat - 257) % 8 = 4 ∨ (ppu.raster.dot.toNat - 257) % 8 = 6 then some true
        else none) := by
  have phase : ((ppu.raster.dot - 257) % 8).toNat = (ppu.raster.dot.toNat - 257) % 8 := by
    have after : (257 : UInt16) ≤ ppu.raster.dot := UInt16.le_iff_toNat_le.mpr later
    rw [UInt16.toNat_mod, UInt16.toNat_sub_of_le _ _ after]
    rfl
  obtain ⟨above, below⟩ := spriteAddress_range small upper
  have second : (ppu.spriteAddress + 8).toNat = ppu.spriteAddress.toNat + 8 := by
    rw [UInt16.toNat_add]
    change (_ + 8) % 2 ^ 16 = _
    omega
  simp only [spriteFetch?, phase]
  generalize (ppu.raster.dot.toNat - 257) % 8 = dot
  by_cases low : dot = 4
  · rw [if_pos low, if_pos (.inl low)]
    exact .upper above (by omega)
  · by_cases high : dot = 6
    · rw [if_neg low, if_pos high, if_pos (.inr high)]
      exact .upper (by omega) (by omega)
    · rw [if_neg low, if_neg high, if_neg (not_or.mpr ⟨low, high⟩)]
      exact .silent

/-- What a dot of a drawn line tells of address line 12 does not depend on the scene. -/
theorem TablesApart.level (apart : ppu.TablesApart) (line : ppu.raster.renderLine = true) :
    Level ppu.busAddress? (lineLevel? ppu.raster.dot.toNat) := by
  have tile : (ppu.raster.visibleDot || ppu.raster.dotIn 321 336) = true ↔
      (1 ≤ ppu.raster.dot.toNat ∧ ppu.raster.dot.toNat ≤ 256 ∨
        321 ≤ ppu.raster.dot.toNat ∧ ppu.raster.dot.toNat ≤ 336) := by
    rw [Bool.or_eq_true, Raster.visibleDot_iff, Raster.dotIn_iff]
    rfl
  have sprite : ppu.raster.dotIn 257 320 = true ↔
      257 ≤ ppu.raster.dot.toNat ∧ ppu.raster.dot.toNat ≤ 320 := Raster.dotIn_iff
  rw [busAddress?, if_pos (drawing_iff.mpr ⟨apart.rendering, line⟩), fetch?, lineLevel?]
  simp only [tile, sprite]
  split
  · exact tileFetch_level apart.lower
  · split
    · rename_i inside
      exact spriteFetch_level apart.small apart.upper inside.1
    · exact .silent

end Ppu

end Nes
