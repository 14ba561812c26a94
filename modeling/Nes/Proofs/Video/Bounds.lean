import Nes.Proofs.Bytes
import Nes.Proofs.Cartridge.Contents
import Nes.Proofs.Snapshot.Checks
import Nes.Video.Ppu.Registers
import Nes.Video.Ppu.Snapshot
import Nes.Video.Ppu.Step

/-!
The bounds that a snapshot of the picture unit is checked against hold by themselves: no register
access and no dot takes the place out of the frame, the scroll addresses out of fifteen bits, the
fine scroll out of three, or the sprite count past eight slots. The cartridge behind the unit only
ever sees addresses and pattern writes, so what those preserve stays true of it.
-/

namespace Nes

/-! ### Scroll -/

namespace Scroll

/-- The addresses have fifteen bits and the fine scroll three. -/
structure Bounded (scroll : Scroll) : Prop where
  v : scroll.v ≤ 0x7FFF
  t : scroll.t ≤ 0x7FFF
  fineX : scroll.fineX ≤ 7

private theorem le_iff {address : UInt16} : address ≤ 0x7FFF ↔ address.toNat < 0x8000 := by
  rw [UInt16.le_iff_toNat_le]
  exact Nat.lt_succ_iff.symm

private theorem and_le {address : UInt16} (bounded : address ≤ 0x7FFF) (mask : UInt16) :
    address &&& mask ≤ 0x7FFF := by
  rw [le_iff, UInt16.toNat_and] at *
  exact Nat.lt_of_le_of_lt Nat.and_le_left bounded

private theorem or_le {first second : UInt16} (left : first ≤ 0x7FFF) (right : second ≤ 0x7FFF) :
    first ||| second ≤ 0x7FFF := by
  rw [le_iff] at *
  rw [UInt16.toNat_or]
  exact Nat.or_lt_two_pow (n := 15) left right

private theorem xor_le {first second : UInt16} (left : first ≤ 0x7FFF) (right : second ≤ 0x7FFF) :
    first ^^^ second ≤ 0x7FFF := by
  rw [le_iff] at *
  rw [UInt16.toNat_xor]
  exact Nat.xor_lt_two_pow (n := 15) left right

private theorem merge_le {target source : UInt16} (mask : UInt16) (left : target ≤ 0x7FFF)
    (right : source ≤ 0x7FFF) : merge mask target source ≤ 0x7FFF :=
  or_le (and_le left _) (and_le right _)

/-- What a register write brings into an address: each placement of a byte keeps to fifteen bits. -/
private theorem placed_le (data : UInt8) :
    (data &&& 0x03).toUInt16 <<< 10 ≤ 0x7FFF ∧ (data >>> 3).toUInt16 ≤ 0x7FFF ∧
      (data >>> 3).toUInt16 <<< 5 ≤ 0x7FFF ∧ (data &&& 0x07).toUInt16 <<< 12 ≤ 0x7FFF ∧
      (data &&& 0x3F).toUInt16 <<< 8 ≤ 0x7FFF ∧ data.toUInt16 ≤ 0x7FFF ∧ data &&& 0x07 ≤ 7 := by
  apply byte_all (fun data => (data &&& 0x03).toUInt16 <<< 10 ≤ 0x7FFF ∧
    (data >>> 3).toUInt16 ≤ 0x7FFF ∧ (data >>> 3).toUInt16 <<< 5 ≤ 0x7FFF ∧
    (data &&& 0x07).toUInt16 <<< 12 ≤ 0x7FFF ∧ (data &&& 0x3F).toUInt16 <<< 8 ≤ 0x7FFF ∧
    data.toUInt16 ≤ 0x7FFF ∧ data &&& 0x07 ≤ 7)
  decide +kernel

/-- The fine row is full exactly in the last eighth of the addresses. -/
private theorem lt_of_fineY {address : UInt16} (bounded : address ≤ 0x7FFF)
    (inside : (address &&& fineYMask != fineYMask) = true) : address.toNat < 0x7000 := by
  rw [le_iff] at bounded
  apply Nat.lt_of_not_le
  intro full
  have top : address.toNat / 4096 = 7 := by omega
  have shifted : (address.toNat &&& 0x7000) / 4096 = 7 := by
    have moved := Nat.shiftRight_and_distrib (a := address.toNat) (b := 0x7000) (i := 12)
    simpa [Nat.shiftRight_eq_div_pow, top] using moved
  have most : address.toNat &&& 0x7000 ≤ 0x7000 := Nat.and_le_right
  have same : address &&& fineYMask = fineYMask := by
    apply UInt16.toNat_inj.mp
    rw [UInt16.toNat_and]
    change address.toNat &&& 0x7000 = 0x7000
    omega
  simp [same] at inside

/-- The next coarse row, back in its place. -/
private theorem nextRow_le (address : UInt16) :
    (((address &&& coarseYMask) >>> 5) + 1) <<< 5 ≤ 0x7FFF := by
  have row : (address &&& coarseYMask).toNat ≤ 0x3E0 := by
    rw [UInt16.toNat_and]
    exact Nat.and_le_right
  rw [le_iff, UInt16.toNat_shiftLeft, UInt16.toNat_add, UInt16.toNat_shiftRight]
  change ((((address &&& coarseYMask).toNat >>> 5) + 1) % 2 ^ 16) <<< 5 % 2 ^ 16 < 2 ^ 15
  simp only [Nat.shiftRight_eq_div_pow, Nat.shiftLeft_eq]
  omega

theorem Bounded.writeCtrl {scroll : Scroll} (bounded : scroll.Bounded) (data : UInt8) :
    (scroll.writeCtrl data).Bounded :=
  ⟨bounded.v, merge_le _ bounded.t (placed_le data).1, bounded.fineX⟩

theorem Bounded.writeScroll {scroll : Scroll} (bounded : scroll.Bounded) (data : UInt8) :
    (scroll.writeScroll data).Bounded := by
  obtain ⟨-, column, row, line, -, -, fine⟩ := placed_le data
  unfold Scroll.writeScroll
  split
  · exact ⟨bounded.v, merge_le _ bounded.t column, fine⟩
  · exact ⟨bounded.v, merge_le _ bounded.t (or_le row line), bounded.fineX⟩

theorem Bounded.writeAddress {scroll : Scroll} (bounded : scroll.Bounded) (data : UInt8) :
    (scroll.writeAddress data).2.Bounded := by
  obtain ⟨-, -, -, -, high, low, -⟩ := placed_le data
  unfold Scroll.writeAddress
  split
  · exact ⟨bounded.v, merge_le _ bounded.t high, bounded.fineX⟩
  · have moved := merge_le 0x00FF bounded.t low
    exact ⟨moved, moved, bounded.fineX⟩

theorem Bounded.incrementX {scroll : Scroll} (bounded : scroll.Bounded) :
    scroll.incrementX.Bounded := by
  unfold Scroll.incrementX
  split
  · exact ⟨xor_le (and_le bounded.v _) (by decide), bounded.t, bounded.fineX⟩
  · rename_i inside
    refine ⟨?_, bounded.t, bounded.fineX⟩
    have v := le_iff.mp bounded.v
    have notLast : scroll.v.toNat ≠ 0x7FFF := by
      intro last
      have same : scroll.v = 0x7FFF := UInt16.toNat_inj.mp last
      exact inside (by rw [same]; decide)
    rw [le_iff, UInt16.toNat_add]
    change (scroll.v.toNat + 1) % 2 ^ 16 < 2 ^ 15
    omega

theorem Bounded.incrementY {scroll : Scroll} (bounded : scroll.Bounded) :
    scroll.incrementY.Bounded := by
  unfold Scroll.incrementY
  split
  · rename_i inside
    refine ⟨?_, bounded.t, bounded.fineX⟩
    have v := lt_of_fineY bounded.v inside
    rw [le_iff, UInt16.toNat_add]
    change (scroll.v.toNat + 0x1000) % 2 ^ 16 < 2 ^ 15
    omega
  · have top := and_le bounded.v (~~~fineYMask)
    simp only
    split
    · exact ⟨xor_le (and_le top _) (by decide), bounded.t, bounded.fineX⟩
    · split
      · exact ⟨and_le top _, bounded.t, bounded.fineX⟩
      · exact ⟨or_le (nextRow_le _) (and_le top _), bounded.t, bounded.fineX⟩

theorem Bounded.copyX {scroll : Scroll} (bounded : scroll.Bounded) : scroll.copyX.Bounded :=
  ⟨merge_le _ bounded.v bounded.t, bounded.t, bounded.fineX⟩

theorem Bounded.copyY {scroll : Scroll} (bounded : scroll.Bounded) : scroll.copyY.Bounded :=
  ⟨merge_le _ bounded.v bounded.t, bounded.t, bounded.fineX⟩

theorem Bounded.advance {scroll : Scroll} (bounded : scroll.Bounded) (step : UInt16) :
    (scroll.advance step).Bounded := by
  refine ⟨?_, bounded.t, bounded.fineX⟩
  rw [le_iff, Scroll.advance, UInt16.toNat_and]
  exact Nat.lt_of_le_of_lt Nat.and_le_right (by decide)

end Scroll

/-! ### Place and sprites -/

theorem Raster.valid_iff {raster : Raster} :
    raster.valid = true ↔ raster.scanline < 262 ∧ raster.dot < 341 := by
  rw [valid, Bool.and_eq_true, decide_eq_true_iff, decide_eq_true_iff]
  rfl

theorem Raster.valid_advance {raster : Raster} (valid : raster.valid) (rendering : Bool) :
    (raster.advance rendering).valid := by
  obtain ⟨scanline, dot⟩ := valid_iff.mp valid
  unfold Raster.advance
  split
  · rfl
  · split
    · rename_i inside
      have next : raster.dot + 1 ≠ 341 := by simpa [dotsPerScanline] using inside
      have bound : raster.dot + 1 < 341 := by grind
      exact valid_iff.mpr ⟨scanline, bound⟩
    · split
      · rename_i inside
        have next : raster.scanline + 1 ≠ 262 := by simpa [scanlinesPerFrame] using inside
        have bound : raster.scanline + 1 < 262 := by grind
        exact valid_iff.mpr ⟨bound, (by decide : (0 : UInt16) < 341)⟩
      · rfl

theorem Sprites.select_count (sprites : Sprites) (oam : Oam) (scanline height : UInt16) :
    (sprites.select oam scanline height).count ≤ 8 := by
  have few : ((covering oam scanline height).take 8).length ≤ 8 := List.length_take_le 8 _
  simp only [select, UInt8.le_iff_toNat_le]
  change UInt8.toNat (UInt8.ofNat _) ≤ 8
  rw [UInt8.toNat_ofNat']
  exact Nat.le_trans (Nat.mod_le _ _) few

theorem Sprites.update_count (sprites : Sprites) (index : Fin 8)
    (change : SpriteSlot → SpriteSlot) : (sprites.update index change).count = sprites.count := by
  unfold update
  split <;> rfl

/-! ### The unit and its cartridge -/

namespace Ppu

/-- The bounds that a snapshot is checked against. -/
structure Bounded (ppu : Ppu) : Prop where
  raster : ppu.raster.valid
  scroll : ppu.scroll.Bounded
  sprites : ppu.sprites.count ≤ 8

/-- A unit within its bounds in front of a cartridge of which `holds` is true. -/
structure Sound (holds : Cartridge → Prop) (unit : Ppu × Cartridge) : Prop where
  ppu : unit.1.Bounded
  cart : holds unit.2

variable {holds : Cartridge → Prop} {ppu : Ppu} {cart : Cartridge}

theorem powerOn_bounded : ({} : Ppu).Bounded :=
  ⟨rfl, ⟨by decide, by decide, by decide⟩, by decide⟩

theorem readVram_holds (preserved : Cartridge.Preserved holds) (held : holds cart)
    (address : UInt16) : holds (ppu.readVram cart address).2 := by
  simp only [readVram]
  split
  · exact preserved.observe held _
  · split <;> exact held

theorem Sound.writeVram (preserved : Cartridge.Preserved holds) (sound : Sound holds (ppu, cart))
    (address : UInt16) (data : UInt8) : Sound holds (ppu.writeVram cart address data) := by
  obtain ⟨bounded, held⟩ := sound
  simp only [Ppu.writeVram]
  split
  · exact ⟨bounded, preserved.write (preserved.observe held _) _ _⟩
  · split <;> exact ⟨⟨bounded.raster, bounded.scroll, bounded.sprites⟩, held⟩

/-! ### Registers -/

theorem Sound.incrementAddress (preserved : Cartridge.Preserved holds)
    (sound : Sound holds (ppu, cart)) : Sound holds (ppu.incrementAddress cart) := by
  obtain ⟨bounded, held⟩ := sound
  unfold Ppu.incrementAddress
  split
  · exact ⟨⟨bounded.raster, bounded.scroll.incrementX.incrementY, bounded.sprites⟩, held⟩
  · exact ⟨⟨bounded.raster, bounded.scroll.advance _, bounded.sprites⟩, preserved.observe held _⟩

theorem Sound.drive {unit : Ppu × Cartridge} (sound : Sound holds unit) (value : UInt8) :
    Sound holds (unit.1.drive value, unit.2) :=
  ⟨⟨sound.ppu.raster, sound.ppu.scroll, sound.ppu.sprites⟩, sound.cart⟩

theorem Bounded.readStatus (bounded : ppu.Bounded) : ppu.readStatus.2.Bounded := by
  have raced : ppu.raceStatus.Bounded := by
    unfold raceStatus
    repeat' split
    all_goals exact ⟨bounded.raster, bounded.scroll, bounded.sprites⟩
  exact ⟨raced.raster, ⟨raced.scroll.v, raced.scroll.t, raced.scroll.fineX⟩, raced.sprites⟩

theorem Sound.readData (preserved : Cartridge.Preserved holds) (sound : Sound holds (ppu, cart)) :
    Sound holds (ppu.readData cart).2 := by
  obtain ⟨⟨raster, scroll, sprites⟩, held⟩ := sound
  simp only [Ppu.readData]
  split
  · apply Sound.drive
    apply Sound.incrementAddress preserved
    exact ⟨⟨raster, scroll, sprites⟩,
      readVram_holds preserved (readVram_holds preserved held _) _⟩
  · apply Sound.drive
    apply Sound.incrementAddress preserved
    exact ⟨⟨raster, scroll, sprites⟩, readVram_holds preserved held _⟩

theorem Sound.readRegister (preserved : Cartridge.Preserved holds)
    (sound : Sound holds (ppu, cart)) (address : UInt16) :
    Sound holds (ppu.readRegister cart address).2 := by
  unfold Ppu.readRegister
  split
  · exact ⟨sound.ppu.readStatus, sound.cart⟩
  · exact sound.drive _
  · exact sound.readData preserved
  · exact sound

theorem Bounded.writeOam (bounded : ppu.Bounded) (data : UInt8) : (ppu.writeOam data).Bounded :=
  ⟨bounded.raster, bounded.scroll, bounded.sprites⟩

theorem Sound.writeAddress (preserved : Cartridge.Preserved holds)
    (sound : Sound holds (ppu, cart)) (data : UInt8) :
    Sound holds (ppu.writeAddress cart data) := by
  obtain ⟨⟨raster, scroll, sprites⟩, held⟩ := sound
  refine ⟨⟨raster, scroll.writeAddress data, sprites⟩, ?_⟩
  simp only [Ppu.writeAddress]
  split
  · exact preserved.observe held _
  · exact held

theorem Sound.writeRegister (preserved : Cartridge.Preserved holds)
    (sound : Sound holds (ppu, cart)) (address : UInt16) (data : UInt8) :
    Sound holds (ppu.writeRegister cart address data) := by
  have driven := sound.drive data
  obtain ⟨⟨raster, scroll, sprites⟩, held⟩ := driven
  simp only [Ppu.writeRegister]
  split
  · exact ⟨⟨raster, scroll.writeCtrl data, sprites⟩, held⟩
  · exact ⟨⟨raster, scroll, sprites⟩, held⟩
  · exact ⟨⟨raster, scroll, sprites⟩, held⟩
  · exact ⟨⟨raster, scroll, sprites⟩, held⟩
  · exact ⟨⟨raster, scroll, sprites⟩, held⟩
  · exact ⟨⟨raster, scroll.writeScroll data, sprites⟩, held⟩
  · exact .writeAddress preserved ⟨⟨raster, scroll, sprites⟩, held⟩ data
  · exact .incrementAddress preserved
      (.writeVram preserved ⟨⟨raster, scroll, sprites⟩, held⟩ _ data)

theorem Bounded.reset (bounded : ppu.Bounded) : ppu.reset.Bounded :=
  ⟨bounded.raster, ⟨bounded.scroll.v, (by decide : (0 : UInt16) ≤ 0x7FFF),
    (by decide : (0 : UInt8) ≤ 7)⟩, bounded.sprites⟩

theorem Bounded.pollNmi (bounded : ppu.Bounded) : ppu.pollNmi.2.Bounded := by
  unfold Ppu.pollNmi
  split
  · exact bounded
  · exact ⟨bounded.raster, bounded.scroll, bounded.sprites⟩

/-! ### Dots -/

theorem Bounded.renderPixel (bounded : ppu.Bounded) : ppu.renderPixel.Bounded :=
  ⟨bounded.raster, bounded.scroll, bounded.sprites⟩

theorem Bounded.blankDot (bounded : ppu.Bounded) : ppu.blankDot.Bounded := by
  unfold Ppu.blankDot
  split
  · exact ⟨bounded.raster, bounded.scroll, bounded.sprites⟩
  · exact bounded

theorem Sound.fetchTile (preserved : Cartridge.Preserved holds) (sound : Sound holds (ppu, cart)) :
    Sound holds (ppu.fetchTile cart) := by
  obtain ⟨⟨raster, scroll, sprites⟩, held⟩ := sound
  simp only [Ppu.fetchTile]
  split
  case h_5 => exact ⟨⟨raster, scroll.incrementX, sprites⟩, held⟩
  case h_6 => exact ⟨⟨raster, scroll, sprites⟩, held⟩
  all_goals exact ⟨⟨raster, scroll, sprites⟩, readVram_holds preserved held _⟩

theorem Bounded.evaluateSprites (bounded : ppu.Bounded) : ppu.evaluateSprites.Bounded := by
  unfold Ppu.evaluateSprites
  split
  · exact ⟨bounded.raster, bounded.scroll, Sprites.select_count _ _ _ _⟩
  · exact ⟨bounded.raster, bounded.scroll, (by decide : (0 : UInt8) ≤ 8)⟩

theorem Sound.fetchSprite (preserved : Cartridge.Preserved holds)
    (sound : Sound holds (ppu, cart)) : Sound holds (ppu.fetchSprite cart) := by
  obtain ⟨⟨raster, scroll, sprites⟩, held⟩ := sound
  simp only [Ppu.fetchSprite]
  split
  case h_3 => exact ⟨⟨raster, scroll, sprites⟩, held⟩
  all_goals
    refine ⟨⟨raster, scroll, ?_⟩, readVram_holds preserved held _⟩
    simp only [Sprites.update_count]
    exact sprites

theorem Bounded.lineEnd (bounded : ppu.Bounded) : ppu.lineEnd.Bounded := by
  unfold Ppu.lineEnd
  split
  · exact ⟨bounded.raster, bounded.scroll.incrementY, bounded.sprites⟩
  · split
    · exact .evaluateSprites ⟨bounded.raster, bounded.scroll.copyX, bounded.sprites⟩
    · exact bounded

theorem Bounded.frameStart (bounded : ppu.Bounded) : ppu.frameStart.Bounded := by
  unfold Ppu.frameStart
  split
  · exact ⟨bounded.raster, bounded.scroll.copyY, bounded.sprites⟩
  · exact bounded

theorem Sound.spriteDot (preserved : Cartridge.Preserved holds) (sound : Sound holds (ppu, cart)) :
    Sound holds (ppu.spriteDot cart) := by
  unfold Ppu.spriteDot
  split
  · exact .fetchSprite preserved
      ⟨⟨sound.ppu.raster, sound.ppu.scroll, sound.ppu.sprites⟩, sound.cart⟩
  · exact sound

theorem Sound.tileDot (preserved : Cartridge.Preserved holds) (sound : Sound holds (ppu, cart)) :
    Sound holds (ppu.tileDot cart) := by
  unfold Ppu.tileDot
  split
  · exact sound.fetchTile preserved
  · exact sound

theorem Sound.fetchDot (preserved : Cartridge.Preserved holds) (sound : Sound holds (ppu, cart)) :
    Sound holds (ppu.fetchDot cart) := by
  have tile := sound.tileDot preserved
  have sprite := Sound.spriteDot preserved ⟨tile.ppu.lineEnd, tile.cart⟩
  unfold Ppu.fetchDot
  generalize ppu.tileDot cart = drawn at tile sprite ⊢
  generalize drawn.1.lineEnd.spriteDot drawn.2 = fetched at sprite ⊢
  exact ⟨sprite.ppu.frameStart, sprite.cart⟩

theorem Sound.renderDot (preserved : Cartridge.Preserved holds) (sound : Sound holds (ppu, cart)) :
    Sound holds (ppu.renderDot cart) := by
  have shown : Sound holds
      (if ppu.raster.visibleLine && ppu.raster.visibleDot then ppu.renderPixel else ppu, cart) := by
    split
    · exact ⟨sound.ppu.renderPixel, sound.cart⟩
    · exact sound
  unfold Ppu.renderDot
  generalize (if ppu.raster.visibleLine && ppu.raster.visibleDot then ppu.renderPixel else ppu) =
    pixel at shown ⊢
  simp only
  split
  · exact shown.fetchDot preserved
  · exact shown

theorem Bounded.markVblank (bounded : ppu.Bounded) : ppu.markVblank.Bounded := by
  have place : { ppu.raster with frameCount := ppu.raster.frameCount + 1 }.valid = true :=
    bounded.raster
  simp only [Ppu.markVblank, startVblank]
  repeat' split
  all_goals exact ⟨place, bounded.scroll, bounded.sprites⟩

/-- A dot keeps the unit within its bounds. -/
theorem Sound.step (preserved : Cartridge.Preserved holds) (sound : Sound holds (ppu, cart)) :
    Sound holds (ppu.step cart) := by
  have shown : Sound holds
      (if ppu.rendering then ppu.renderDot cart else (ppu.blankDot, cart)) := by
    split
    · exact sound.renderDot preserved
    · exact ⟨sound.ppu.blankDot, sound.cart⟩
  have marked := shown.ppu.markVblank
  unfold Ppu.step
  generalize (if ppu.rendering then ppu.renderDot cart else (ppu.blankDot, cart)) = drawn
    at shown marked ⊢
  exact ⟨⟨Raster.valid_advance marked.raster _, marked.scroll, marked.sprites⟩, shown.cart⟩

/-! ### Records -/

/-- A unit within its bounds is restored from its record, with no picture waiting. -/
theorem Bounded.restore_save (bounded : ppu.Bounded) :
    ppu.save.restore = .ok { ppu with frameComplete := false } := by
  obtain ⟨raster, ⟨v, t, fineX⟩, sprites⟩ := bounded
  simp only [PpuState.restore, save, Snapshot.sized_toList, Snapshot.require, raster, v, t, fineX,
    sprites, decide_true, Bool.and_self, if_true, bind, Except.bind, pure, Except.pure]

/-- An accepted record is within the bounds and is taken over whole. -/
theorem of_restore {state : PpuState} (success : state.restore = .ok ppu) :
    ppu.Bounded ∧ ppu.save = state := by
  obtain ⟨oam, sameOam, success⟩ := Snapshot.bind_eq_ok success
  obtain ⟨nametables, sameNametables, success⟩ := Snapshot.bind_eq_ok success
  obtain ⟨slots, sameSlots, success⟩ := Snapshot.bind_eq_ok success
  obtain ⟨sprites, success⟩ := Snapshot.bind_unit_eq_ok.mp success
  obtain ⟨frame, sameFrame, success⟩ := Snapshot.bind_eq_ok success
  obtain ⟨raster, success⟩ := Snapshot.bind_unit_eq_ok.mp success
  obtain ⟨fineX, success⟩ := Snapshot.bind_unit_eq_ok.mp success
  obtain ⟨addresses, success⟩ := Snapshot.bind_unit_eq_ok.mp success
  obtain rfl := Except.ok.inj success
  rw [Snapshot.require_eq_ok] at sprites raster fineX addresses
  obtain ⟨v, t⟩ := Bool.and_eq_true_iff.mp addresses
  refine ⟨⟨raster, ⟨of_decide_eq_true v, of_decide_eq_true t, of_decide_eq_true fineX⟩,
    of_decide_eq_true sprites⟩, ?_⟩
  simp only [save, Snapshot.toList_of_sized sameOam, Snapshot.toList_of_sized sameNametables,
    Snapshot.toList_of_sized sameSlots, Snapshot.toList_of_sized sameFrame]

end Ppu

end Nes
