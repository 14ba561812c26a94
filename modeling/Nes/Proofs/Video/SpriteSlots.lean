import Nes.Proofs.Video.Dots
import Nes.Proofs.Video.Sprite

/-!
The slots between the end of a line and the next one. They are filled with the sprites that cover
the line, get their pattern bytes one after the other, and keep them while the next line is drawn.
-/

namespace Nes

/-! ### Slots -/

namespace Sprites

/-- Filled slots hold the list from its place on; the others stay. -/
theorem fill_slot (slots : Vector SpriteSlot 8) (first : Nat) (list : List SpriteSlot)
    {place : Nat} (inside : place < 8) :
    (fill slots first list)[place] =
      if first ≤ place then list[place - first]?.getD slots[place] else slots[place] := by
  induction list generalizing slots first with
  | nil => simp [fill]
  | cons slot rest ih =>
    rw [fill, ih, Vector.getElem_setIfInBounds inside]
    by_cases here : first = place
    · rw [if_pos here, if_neg (by omega), if_pos (by omega), here, Nat.sub_self]
      rfl
    · rw [if_neg here]
      by_cases later : first + 1 ≤ place
      · have next : place - first = place - (first + 1) + 1 := by omega
        rw [if_pos later, if_pos (by omega), next, List.getElem?_cons_succ]
      · rw [if_neg later, if_neg (by omega)]

theorem update_slot (sprites : Sprites) (index : Fin 8) (change : SpriteSlot → SpriteSlot)
    {place : Nat} (inside : place < 8) :
    (sprites.update index change).slots[place] =
      if index.val = place ∧ index.val < sprites.count.toNat then change sprites.slots[place]
      else sprites.slots[place] := by
  unfold update
  by_cases used : index.val < sprites.count.toNat
  · simp only [if_pos used]
    by_cases same : index.val = place
    · subst same
      simp [used]
    · simp [same, Vector.getElem_set_ne]
  · simp [used]

end Sprites

/-! ### Stages -/

namespace Ppu

/-- What the slot of a sprite holds a number of dots after the end of the line: no pattern, its low
byte, or its pixels. -/
def Setup.slotAfter (setup : Setup) (view : (UInt16 → UInt8) × Mirroring) (scanline : UInt16)
    (dots place : Nat) (index : Fin 64) : SpriteSlot :=
  let empty := Sprites.slotFor setup.oam scanline index
  if dots ≤ 8 * place + 4 then empty
  else if dots ≤ 8 * place + 6 then
    empty.latchLow (setup.spriteByte view scanline.toNat index 0)
  else setup.drawnSlot view scanline index

/-- The slots a number of dots after the end of the line. -/
structure Fetched (setup : Setup) (view : (UInt16 → UInt8) × Mirroring) (scanline : UInt16)
    (dots : Nat) (sprites : Sprites) : Prop where
  count : sprites.count.toNat = (setup.lineSprites scanline.toNat).length
  slots : ∀ (place : Fin 8) (index : Fin 64),
    (setup.lineSprites scanline.toNat)[place.val]? = some index →
      sprites.slots[place] = setup.slotAfter view scanline dots place.val index

theorem Setup.lineSprites_length (setup : Setup) (line : Nat) :
    (setup.lineSprites line).length ≤ 8 :=
  List.length_take_le 8 _

theorem Setup.mem_of_lineSprites {setup : Setup} {line place : Nat} {index : Fin 64}
    (chosen : (setup.lineSprites line)[place]? = some index) : index ∈ setup.covering line :=
  List.mem_of_mem_take (List.mem_of_getElem? chosen)

variable (ppu : Ppu) (cart : Cartridge)

/-- The selection at the end of the line. -/
theorem select_fetched :
    Fetched ppu.setup cart.view ppu.raster.scanline 1
      (ppu.sprites.select ppu.oam ppu.raster.scanline ppu.spriteHeight) := by
  have few := ppu.setup.lineSprites_length ppu.raster.scanline.toNat
  have covering := ppu.covering_eq rfl
  constructor
  · rw [Sprites.select, covering]
    exact UInt8.toNat_ofNat'.trans (Nat.mod_eq_of_lt (Nat.lt_of_le_of_lt few (by decide)))
  · intro place index chosen
    have selected : ((ppu.setup.lineSprites ppu.raster.scanline.toNat).map
        (Sprites.slotFor ppu.oam ppu.raster.scanline))[place.val]? =
        some (Sprites.slotFor ppu.oam ppu.raster.scanline index) := by
      rw [List.getElem?_map, chosen, Option.map_some]
    have waiting : 1 ≤ 8 * place.val + 4 := by omega
    rw [Sprites.select, covering, Fin.getElem_fin, Sprites.fill_slot _ _ _ place.isLt,
      if_pos (Nat.zero_le _), Nat.sub_zero, Setup.slotAfter, if_pos waiting]
    exact congrArg (Option.getD · ppu.sprites.slots[place]) selected

theorem Setup.slotAfter_succ (setup : Setup) (view : (UInt16 → UInt8) × Mirroring)
    (scanline : UInt16) {dots place : Nat} (index : Fin 64) (low : dots ≠ 8 * place + 4)
    (high : dots ≠ 8 * place + 6) :
    setup.slotAfter view scanline (dots + 1) place index =
      setup.slotAfter view scanline dots place index := by
  have first : dots + 1 ≤ 8 * place + 4 ↔ dots ≤ 8 * place + 4 := by omega
  have second : dots + 1 ≤ 8 * place + 6 ↔ dots ≤ 8 * place + 6 := by omega
  simp only [slotAfter, first, second]

variable {ppu cart} {dots : Nat}

/-- A dot that brings nothing to any slot. -/
theorem Fetched.wait {setup : Setup} {view : (UInt16 → UInt8) × Mirroring} {scanline : UInt16}
    {sprites : Sprites} (fetched : Fetched setup view scanline dots sprites)
    (waits : 64 ≤ dots ∨ dots % 8 ≠ 4 ∧ dots % 8 ≠ 6) :
    Fetched setup view scanline (dots + 1) sprites := by
  refine ⟨fetched.count, fun place index chosen => ?_⟩
  rw [fetched.slots place index chosen, Setup.slotAfter_succ] <;> omega

/-- Each of the sixty-four dots brings its byte to the slot whose turn it is. -/
theorem Fetched.fetch (fetched : Fetched ppu.setup cart.view ppu.raster.scanline dots ppu.sprites)
    (dot : ppu.raster.dot.toNat = 257 + dots) (early : dots < 64) :
    Fetched ppu.setup cart.view ppu.raster.scanline (dots + 1)
      (ppu.fetchSprite cart).1.sprites := by
  have since : (ppu.raster.dot - 257).toNat = dots := by
    have after : (257 : UInt16) ≤ ppu.raster.dot := by
      rw [UInt16.le_iff_toNat_le, dot]
      exact Nat.le_add_right 257 dots
    rw [UInt16.toNat_sub_of_le _ _ after, dot]
    exact Nat.add_sub_cancel_left 257 dots
  have phase : ((ppu.raster.dot - 257) % 8).toNat = dots % 8 := by
    rw [UInt16.toNat_mod, since]
    rfl
  have slot : ppu.fetchSlot.val = dots / 8 := by
    have eighth : dots / 8 < 8 := by omega
    rw [fetchSlot, UInt16.toNat_div, since]
    exact Nat.mod_eq_of_lt eighth
  have chosen_lt {place : Fin 8} {index : Fin 64}
      (chosen : (ppu.setup.lineSprites ppu.raster.scanline.toNat)[place.val]? = some index) :
      place.val < ppu.sprites.count.toNat := by
    rw [fetched.count]
    exact (List.getElem?_eq_some_iff.mp chosen).1
  have other {place : Fin 8} {index : Fin 64}
      (chosen : (ppu.setup.lineSprites ppu.raster.scanline.toNat)[place.val]? = some index)
      (elsewhere : ppu.fetchSlot ≠ place) : ppu.sprites.slots[place] =
        ppu.setup.slotAfter cart.view ppu.raster.scanline (dots + 1) place.val index := by
    have apart : place.val ≠ dots / 8 := fun same => elsewhere (Fin.ext (slot.trans same.symm))
    rw [fetched.slots place index chosen, Setup.slotAfter_succ] <;> omega
  -- The fifth of eight dots brings the low byte, the seventh the high byte.
  by_cases low : dots % 8 = 4
  · simp only [fetchSprite, phase, low]
    refine ⟨(congrArg UInt8.toNat (ppu.sprites.update_count _ _)).trans fetched.count,
      fun place index chosen => ?_⟩
    rw [Fin.getElem_fin, Sprites.update_slot _ _ _ place.isLt]
    by_cases mine : ppu.fetchSlot = place
    · subst mine
      have used := chosen_lt chosen
      have empty : ppu.sprites.slots[ppu.fetchSlot] =
          Sprites.slotFor ppu.oam ppu.raster.scanline index := by
        rw [fetched.slots _ index chosen, Setup.slotAfter, if_pos (by omega)]
        rfl
      have byte := (byteAt_spriteAddress cart.view rfl (Setup.mem_of_lineSprites chosen)).1
      rw [if_pos ⟨rfl, used⟩, Sprites.slotAt, if_pos used, empty, readVram_byte, byte,
        Setup.slotAfter, if_neg (by omega), if_pos (by omega)]
      exact congrArg (SpriteSlot.latchLow · _) empty
    · rw [if_neg fun here => mine (Fin.ext here.1)]
      exact other chosen mine
  · by_cases high : dots % 8 = 6
    · simp only [fetchSprite, phase, high]
      refine ⟨(congrArg UInt8.toNat (ppu.sprites.update_count _ _)).trans fetched.count,
        fun place index chosen => ?_⟩
      rw [Fin.getElem_fin, Sprites.update_slot _ _ _ place.isLt]
      by_cases mine : ppu.fetchSlot = place
      · subst mine
        have used := chosen_lt chosen
        have half : ppu.sprites.slots[ppu.fetchSlot] =
            (Sprites.slotFor ppu.oam ppu.raster.scanline index).latchLow
              (ppu.setup.spriteByte cart.view ppu.raster.scanline.toNat index 0) := by
          rw [fetched.slots _ index chosen, Setup.slotAfter, if_neg (by omega), if_pos (by omega)]
          rfl
        have byte := (byteAt_spriteAddress cart.view rfl (Setup.mem_of_lineSprites chosen)).2
        have address (low : UInt8) :
            ((Sprites.slotFor ppu.oam ppu.raster.scanline index).latchLow low).patternAddress
              ppu.tallSprites ppu.spriteTable =
            (Sprites.slotFor ppu.oam ppu.raster.scanline index).patternAddress ppu.tallSprites
              ppu.spriteTable := rfl
        rw [if_pos ⟨rfl, used⟩, Sprites.slotAt, if_pos used, half, readVram_byte, address, byte,
          Setup.slotAfter, if_neg (by omega), if_neg (by omega)]
        exact congrArg (SpriteSlot.latchHigh · _) half
      · rw [if_neg fun here => mine (Fin.ext here.1)]
        exact other chosen mine
    · have nothing : (ppu.fetchSprite cart).1.sprites = ppu.sprites := by
        simp only [fetchSprite, phase]
      rw [nothing]
      exact fetched.wait (.inr ⟨low, high⟩)

/-! ### The line -/

/-- Once all have been fetched, the active slots are the finished ones of the line's sprites. -/
theorem Fetched.active {setup : Setup} {view : (UInt16 → UInt8) × Mirroring} {scanline : UInt16}
    {sprites : Sprites} (fetched : Fetched setup view scanline dots sprites)
    (finished : 64 ≤ dots) :
    sprites.active =
      (setup.lineSprites scanline.toNat).map (setup.drawnSlot view scanline) := by
  have few := setup.lineSprites_length scanline.toNat
  refine List.ext_getElem? fun place => ?_
  rw [Sprites.active, fetched.count, List.getElem?_map, List.getElem?_take]
  cases chosen : (setup.lineSprites scanline.toNat)[place]? with
  | none =>
    rw [if_neg (Nat.not_lt.mpr (List.getElem?_eq_none_iff.mp chosen))]
    rfl
  | some index =>
    have inside : place < (setup.lineSprites scanline.toNat).length :=
      (List.getElem?_eq_some_iff.mp chosen).1
    have filled := fetched.slots ⟨place, by omega⟩ index chosen
    rw [Setup.slotAfter, if_neg (by dsimp only; omega), if_neg (by dsimp only; omega)] at filled
    rw [if_pos inside, Option.map_some, ← filled]
    simp

end Ppu

end Nes
