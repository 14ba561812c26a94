import Nes.Proofs.Video.SpriteSlots

/-!
The composition of a line. In each column the first opaque sprite of the line meets the background
pixel, and what is shown, and whether sprite zero is hit, depends on these two alone. So a line's
time after the end of a line the next one stands in the picture.
-/

namespace Nes.Ppu

open Bits

namespace Setup

variable (setup : Setup) (view : (UInt16 → UInt8) × Mirroring) (line column : Nat)

/-! ### Composition -/

/-- The first of the line's sprites that is opaque in the column, where sprites are shown. -/
def firstSprite? : Option (Fin 64) :=
  if setup.mask.toNat.testBit 4 = true ∧ (8 ≤ column ∨ setup.mask.toNat.testBit 2 = true) then
    (setup.lineSprites line).find? fun index =>
      decide (setup.spritePixel view line index column % 4 ≠ 0)
  else none

/-- The place in the palette that a column shows: the sprite's if the background is transparent or
the sprite is in front, the background's otherwise, and the backdrop's if both are transparent. -/
def colour (background : Nat) : Nat :=
  match setup.firstSprite? view line column with
  | none => if background % 4 ≠ 0 then background else 0
  | some index =>
    if background % 4 ≠ 0 ∧ (setup.objectByte index 2).toNat.testBit 5 = true then background
    else 0x10 + setup.spritePixel view line index column

/-- The palette entry that stands in the picture, without its colour if that is switched off. -/
def shownByte (background : Nat) : UInt8 :=
  setup.palette.read (UInt16.ofNat (0x3F00 + setup.colour view line column background)) &&&
    if setup.mask.toNat.testBit 0 = true then 0x30 else 0x3F

/-- Sprite zero is the opaque sprite of the column, in front of an opaque background or behind
it. -/
def ZeroHit (background : Nat) : Prop :=
  column < 255 ∧ setup.firstSprite? view line column = some 0 ∧ background % 4 ≠ 0

end Setup

variable {ppu : Ppu}

theorem showsSprites_iff {column : UInt8} :
    ppu.showsSprites column = true ↔
      ppu.setup.mask.toNat.testBit 4 = true ∧
        (8 ≤ column.toNat ∨ ppu.setup.mask.toNat.testBit 2 = true) := by
  rw [showsSprites, and_single 4 _ rfl, and_single 2 _ rfl, Bool.and_eq_true, Bool.or_eq_true,
    decide_eq_true_iff, UInt8.le_iff_toNat_le]
  rfl

variable {view : (UInt16 → UInt8) × Mirroring} {scanline : UInt16} {dots : Nat}

/-- The first opaque slot belongs to the first opaque sprite. -/
theorem Fetched.spritePixel (fetched : Fetched ppu.setup view scanline dots ppu.sprites)
    (finished : 64 ≤ dots) (column : UInt8) :
    ppu.spritePixel? column =
      (ppu.setup.firstSprite? view scanline.toNat column.toNat).map fun index =>
        (UInt8.ofNat (ppu.setup.spritePixel view scanline.toNat index column.toNat),
          ppu.setup.drawnSlot view scanline index) := by
  have first (sprites : List (Fin 64)) :
      (sprites.map (ppu.setup.drawnSlot view scanline)).findSome?
          (fun slot => (slot.opaquePixel? column).map (·, slot)) =
        (sprites.find? fun index =>
          decide (ppu.setup.spritePixel view scanline.toNat index column.toNat % 4 ≠ 0)).map
          fun index =>
            (UInt8.ofNat (ppu.setup.spritePixel view scanline.toNat index column.toNat),
              ppu.setup.drawnSlot view scanline index) := by
    induction sprites with
    | nil => rfl
    | cons index rest ih =>
      rw [List.map_cons, List.findSome?_cons, List.find?_cons, Setup.drawnSlot_opaquePixel, ih]
      by_cases solid : ppu.setup.spritePixel view scanline.toNat index column.toNat % 4 ≠ 0
      · simp [solid]
      · simp [solid]
  have shown := @showsSprites_iff ppu column
  rw [spritePixel?, Sprites.firstOpaque?, fetched.active finished, first, Setup.firstSprite?]
  by_cases drawn : ppu.showsSprites column = true
  · rw [if_pos drawn, if_pos (shown.mp drawn)]
  · rw [if_neg drawn, if_neg fun switched => drawn (shown.mpr switched)]
    rfl

theorem Setup.spritePixel_lt (setup : Setup) (view : (UInt16 → UInt8) × Mirroring) (line : Nat)
    (index : Fin 64) (column : Nat) : setup.spritePixel view line index column < 16 := by
  unfold spritePixel
  dsimp only
  split
  · exact PatternRow.value_lt (Nat.mod_lt _ (by decide)) _ _ _
  · decide

/-- The number that the unit composes of the background pixel and the first opaque sprite. -/
theorem Fetched.compose_toNat (fetched : Fetched ppu.setup view scanline dots ppu.sprites)
    (finished : 64 ≤ dots) (column background : UInt8) :
    (compose background (ppu.spritePixel? column)).toNat =
      ppu.setup.colour view scanline.toNat column.toNat background.toNat := by
  have solid := PatternRow.isOpaque_iff background
  rw [fetched.spritePixel finished]
  unfold compose Setup.colour
  cases ppu.setup.firstSprite? view scanline.toNat column.toNat with
  | none =>
    simp only [Option.map_none, solid]
    split <;> rfl
  | some index =>
    have behind : (ppu.setup.drawnSlot view scanline index).behind =
        (ppu.setup.objectByte index 2).toNat.testBit 5 := and_single 5 _ rfl
    have small := ppu.setup.spritePixel_lt view scanline.toNat index column.toNat
    have front : (UInt8.ofNat (ppu.setup.spritePixel view scanline.toNat index column.toNat) |||
        0x10).toNat = 0x10 + ppu.setup.spritePixel view scanline.toNat index column.toNat := by
      have fits : ppu.setup.spritePixel view scanline.toNat index column.toNat < 2 ^ 4 := small
      rw [UInt8.toNat_or, UInt8.toNat_ofNat', Nat.mod_eq_of_lt (by omega), Nat.or_comm]
      exact (Nat.two_pow_add_eq_or_of_lt fits 1).symm
    simp only [Option.map_some, behind, Bool.and_eq_true, solid]
    split
    · rfl
    · exact front

/-- What is composed of the background pixel and the first opaque sprite is shown. -/
theorem Fetched.shownEntry (fetched : Fetched ppu.setup view scanline dots ppu.sprites)
    (finished : 64 ≤ dots) (column background : UInt8) :
    ppu.shownEntry (compose background (ppu.spritePixel? column)) =
      ppu.setup.shownByte view scanline.toNat column.toNat background.toNat := by
  have address (index : UInt8) :
      index.toUInt16 ||| 0x3F00 = UInt16.ofNat (0x3F00 + index.toNat) := by
    have low : index.toNat < 2 ^ 8 := index.toNat_lt
    rw [← UInt16.toNat_inj, UInt16.toNat_or, UInt16.toNat_ofNat', Nat.mod_eq_of_lt (by omega),
      Nat.or_comm]
    exact (Nat.two_pow_add_eq_or_of_lt low 0x3F).symm
  have grey : ppu.greyscaleMask =
      if ppu.setup.mask.toNat.testBit 0 = true then 0x30 else 0x3F := by
    rw [greyscaleMask, and_single 0 _ rfl]
    rfl
  rw [Ppu.shownEntry, address, fetched.compose_toNat finished, grey]
  rfl

/-- The unit sees sprite zero where it is the first opaque one. -/
theorem Fetched.hitsSpriteZero (fetched : Fetched ppu.setup view scanline dots ppu.sprites)
    (finished : 64 ≤ dots) (column background : UInt8) :
    Ppu.hitsSpriteZero background (ppu.spritePixel? column) column = true ↔
      ppu.setup.ZeroHit view scanline.toNat column.toNat background.toNat := by
  have solid := PatternRow.isOpaque_iff background
  rw [fetched.spritePixel finished, Setup.ZeroHit]
  cases ppu.setup.firstSprite? view scanline.toNat column.toNat with
  | none => simp [Ppu.hitsSpriteZero]
  | some index =>
    have number : ∀ index : Fin 64, (UInt8.ofNat index.val == 0) = true ↔ index = 0 := by decide
    have named : ((ppu.setup.drawnSlot view scanline index).oamIndex == 0) = true ↔ index = 0 :=
      number index
    simp only [Option.map_some, Ppu.hitsSpriteZero, Bool.and_eq_true, solid, named,
      decide_eq_true_iff, UInt8.lt_iff_toNat_lt, Option.some.injEq]
    constructor
    · rintro ⟨⟨crossed, zero⟩, inside⟩
      exact ⟨inside, zero, crossed⟩
    · rintro ⟨inside, zero, crossed⟩
      exact ⟨⟨crossed, zero⟩, inside⟩

/-! ### Dots -/

variable {cart : Cartridge}

theorem shown_outside (outside : ppu.raster.dot.toNat = 0 ∨ 256 < ppu.raster.dot.toNat) :
    ppu.shown = ppu := by
  have hidden : ¬ (ppu.raster.visibleLine && ppu.raster.visibleDot) = true := by
    rw [Bool.and_eq_true, Raster.visibleDot_iff]
    omega
  rw [shown, if_neg hidden]

theorem shown_inside (visible : ppu.raster.visibleLine = true)
    (inside : 1 ≤ ppu.raster.dot.toNat ∧ ppu.raster.dot.toNat ≤ 256) :
    ppu.shown = ppu.renderPixel := by
  rw [shown, if_pos (Bool.and_eq_true_iff.mpr ⟨visible, Raster.visibleDot_iff.mpr inside⟩)]

/-- The overflow flag changes at the end of the line only. -/
theorem evaluatedStatus_elsewhere (elsewhere : ppu.raster.dot.toNat ≠ 257) :
    ppu.evaluatedStatus = ppu.status := by
  have within : (ppu.raster.dot == 257) = false :=
    Bool.eq_false_iff.mpr (Raster.dot_ne elsewhere)
  rw [evaluatedStatus, within, Bool.false_and, Bool.false_and, if_neg Bool.false_ne_true]

theorem evaluatedSprites_elsewhere (elsewhere : ppu.raster.dot.toNat ≠ 257) :
    ppu.evaluatedSprites = ppu.sprites := by
  rw [evaluatedSprites, if_neg (Raster.dot_ne elsewhere)]

/-- A dot of a drawn line takes the slots one dot further. -/
theorem Fetched.step (fetched : Fetched ppu.setup cart.view scanline dots ppu.sprites)
    (drawing : ppu.drawing = true) (started : 1 ≤ dots)
    (fetching : dots < 64 → ppu.raster.scanline = scanline ∧ ppu.raster.dot.toNat = 257 + dots)
    (finished : 64 ≤ dots → ppu.raster.dot.toNat < 257 ∨ 320 < ppu.raster.dot.toNat) :
    Fetched ppu.setup cart.view scanline (dots + 1) (ppu.step cart).1.sprites := by
  have within : ppu.raster.dotIn 258 320 = true ↔
      258 ≤ ppu.raster.dot.toNat ∧ ppu.raster.dot.toNat ≤ 320 := Raster.dotIn_iff
  rw [step_sprites ppu cart drawing]
  by_cases early : dots < 64
  · obtain ⟨rfl, dot⟩ := fetching early
    rw [if_pos (within.mpr (by omega))]
    exact fetched.fetch dot early
  · rw [if_neg (fun inside => by have := within.mp inside; omega),
      evaluatedSprites_elsewhere (by omega)]
    exact fetched.wait (.inl (by omega))

/-! ### Lines -/

variable {start next : Ppu × Cartridge} {line count : Nat}

/-- Where a run from the end of a line stands. -/
theorem afterDots_place (rendering : start.1.rendering = true) (visible : line < 239)
    (scanline : start.1.raster.scanline.toNat = line) (dot : start.1.raster.dot.toNat = 257)
    (short : count ≤ 341) :
    (count < 84 → (afterDots start count).1.raster.scanline.toNat = line ∧
      (afterDots start count).1.raster.dot.toNat = 257 + count) ∧
    (84 ≤ count → (afterDots start count).1.raster.scanline.toNat = line + 1 ∧
      (afterDots start count).1.raster.dot.toNat = count - 84) := by
  have length := start.1.raster.frameLength_cases
  have here : start.1.raster.place = line * 341 + 257 := by rw [Raster.place, scanline, dot]
  have valid : start.1.raster.valid := Raster.valid_of_toNat_lt (by omega) (by omega)
  have early : start.1.raster.place < Raster.lastDot := by
    unfold Raster.lastDot
    omega
  obtain ⟨inside, reached⟩ := (Dots.afterDots start count).place rendering valid early (by omega)
  rw [if_pos (by omega)] at reached
  constructor
  · intro before
    exact (Raster.place_eq_iff inside (by omega)).mp (by omega)
  · intro after
    exact (Raster.place_eq_iff inside (by omega)).mp (by omega)

/-- The background pixel that a run from the end of a line uses in a column of the next one. -/
def backgroundAfter (start : Ppu × Cartridge) (column : Nat) : Nat :=
  ((afterDots start (85 + column)).1.backgroundPixel (UInt8.ofNat column)).toNat

/-- The line after the end of the one before, part of the way. -/
structure Composed (start : Ppu × Cartridge) (line count : Nat) (ppu : Ppu) : Prop where
  sprites : 1 ≤ count →
    Fetched start.1.setup start.2.view start.1.raster.scanline count ppu.sprites
  frame : ∀ column, column < 256 → column + 86 ≤ count →
    ppu.frame[(line + 1) * frameWidth + column]? =
      some (start.1.setup.shownByte start.2.view line column (backgroundAfter start column))
  spriteZero : ppu.status.toNat.testBit 6 = true ↔ start.1.status.toNat.testBit 6 = true ∨
    ∃ column, column + 86 ≤ count ∧
      start.1.setup.ZeroHit start.2.view line column (backgroundAfter start column)
  overflow : ppu.status.toNat.testBit 5 = true ↔ start.1.status.toNat.testBit 5 = true ∨
    1 ≤ count ∧ 8 < (start.1.setup.covering line).length

theorem Composed.initial (start : Ppu × Cartridge) (line : Nat) :
    Composed start line 0 start.1 := by
  refine ⟨fun started => ?_, fun column _ drawn => ?_, ?_, ?_⟩
  · omega
  · omega
  · refine ⟨.inl, fun hit => hit.resolve_right ?_⟩
    rintro ⟨column, drawn, -⟩
    omega
  · refine ⟨.inl, fun set => set.resolve_right ?_⟩
    rintro ⟨started, -⟩
    omega

/-- The end of the line: sprites are selected, and the overflow flag tells of more than eight. -/
theorem Composed.lineEnd (rendering : start.1.rendering = true) (visible : line < 239)
    (scanline : start.1.raster.scanline.toNat = line) (dot : start.1.raster.dot.toNat = 257) :
    Composed start line 1 (start.1.step start.2).1 := by
  have seen : start.1.raster.visibleLine = true := by
    rw [Raster.visibleLine_iff]
    omega
  have drawing : start.1.drawing = true :=
    drawing_iff.mpr ⟨rendering, Raster.renderLine_iff.mpr (by omega)⟩
  have last : (start.1.raster.dot == 257) = true := Raster.dot_eq_iff.mpr dot
  have hidden : start.1.shown = start.1 := shown_outside (by omega)
  have many : Sprites.overflows start.1.oam start.1.raster.scanline start.1.spriteHeight =
      decide (8 < (start.1.setup.covering line).length) := by
    rw [Sprites.overflows, covering_eq _ scanline]
  have status : (start.1.step start.2).1.status =
      if 8 < (start.1.setup.covering line).length then start.1.status ||| overflowFlag
      else start.1.status := by
    rw [step_status _ _ drawing seen, hidden, evaluatedStatus, last, seen, many]
    simp
  constructor
  · intro _
    have outside : ¬ start.1.raster.dotIn 258 320 = true := by
      rw [Raster.dotIn_iff]
      simp only [UInt16.reduceToNat]
      omega
    rw [step_sprites _ _ drawing, if_neg outside, evaluatedSprites, if_pos last, if_pos seen]
    exact select_fetched start.1 start.2
  · intro column _ drawn
    omega
  · have same : (start.1.step start.2).1.status.toNat.testBit 6 =
        start.1.status.toNat.testBit 6 := by
      rw [status]
      split
      · rw [testBit_or_single 5 _ 6 rfl]
        exact Bool.or_false _
      · rfl
    rw [same]
    refine ⟨.inl, fun hit => hit.resolve_right ?_⟩
    rintro ⟨column, drawn, -⟩
    omega
  · rw [status]
    split
    · rename_i more
      rw [testBit_or_single 5 _ 5 rfl, decide_eq_true rfl, Bool.or_true]
      exact ⟨fun _ => .inr ⟨Nat.le_refl 1, more⟩, fun _ => rfl⟩
    · rename_i few
      exact ⟨.inl, fun set => set.resolve_right fun more => few more.2⟩

/-- The dots between the end of the line and the first column of the next one. -/
theorem Composed.between (composed : Composed start line count ppu) (started : 1 ≤ count)
    (early : count < 85) (drawing : ppu.drawing = true) (seen : ppu.raster.visibleLine = true)
    (outside : ppu.raster.dot.toNat = 0 ∨ 257 < ppu.raster.dot.toNat)
    (sprites : Fetched start.1.setup start.2.view start.1.raster.scanline (count + 1)
      (ppu.step cart).1.sprites) :
    Composed start line (count + 1) (ppu.step cart).1 := by
  have hidden : ppu.shown = ppu := shown_outside (by omega)
  have frame : (ppu.step cart).1.frame = ppu.frame := by
    rw [step_frameBuffer ppu cart drawing, hidden]
  have status : (ppu.step cart).1.status = ppu.status := by
    rw [step_status ppu cart drawing seen, hidden, evaluatedStatus_elsewhere (by omega)]
  refine ⟨fun _ => sprites, fun column _ drawn => ?_, ?_, ?_⟩
  · omega
  · rw [status, composed.spriteZero]
    refine or_congr_right ⟨?_, ?_⟩
    · rintro ⟨column, drawn, -⟩
      omega
    · rintro ⟨column, drawn, -⟩
      omega
  · rw [status, composed.overflow]
    exact or_congr_right (and_congr_left fun _ => ⟨fun _ => by omega, fun _ => started⟩)

/-- A column of the line: its pixel is shown, and sprite zero may be hit. -/
theorem Composed.column {column : Nat} (composed : Composed start line (85 + column) ppu)
    (inside : column < 256) (visible : line < 239)
    (above : start.1.raster.scanline.toNat = line) (setup : ppu.setup = start.1.setup)
    (drawing : ppu.drawing = true) (seen : ppu.raster.visibleLine = true)
    (scanline : ppu.raster.scanline.toNat = line + 1)
    (dot : ppu.raster.dot.toNat = column + 1)
    (background : (ppu.backgroundPixel (UInt8.ofNat column)).toNat = backgroundAfter start column)
    (sprites : Fetched start.1.setup start.2.view start.1.raster.scanline (85 + column + 1)
      (ppu.step cart).1.sprites) :
    Composed start line (85 + column + 1) (ppu.step cart).1 := by
  have drawn : ppu.shown = ppu.renderPixel := shown_inside seen (by omega)
  have number : ppu.raster.column.toNat = column := Raster.column_toNat inside dot
  have place : UInt8.ofNat column = ppu.raster.column := by
    rw [← UInt8.toNat_inj, number]
    exact UInt8.toNat_ofNat'.trans (Nat.mod_eq_of_lt inside)
  rw [place] at background
  have fetched := composed.sprites (by omega)
  rw [← setup] at fetched
  have entry := fetched.shownEntry (by omega) ppu.raster.column
    (ppu.backgroundPixel ppu.raster.column)
  have hits := fetched.hitsSpriteZero (by omega) ppu.raster.column
    (ppu.backgroundPixel ppu.raster.column)
  rw [setup, above, number, background] at entry hits
  have frame : (ppu.step cart).1.frame =
      ppu.frame.setIfInBounds ((line + 1) * frameWidth + column)
        (start.1.setup.shownByte start.2.view line column (backgroundAfter start column)) := by
    rw [step_frameBuffer ppu cart drawing, drawn, ← entry, ← scanline, ← number]
    rfl
  have status : (ppu.step cart).1.status =
      if Ppu.hitsSpriteZero (ppu.backgroundPixel ppu.raster.column)
          (ppu.spritePixel? ppu.raster.column) ppu.raster.column then
        ppu.status ||| spriteZeroFlag
      else ppu.status := by
    have elsewhere : ppu.renderPixel.raster.dot.toNat ≠ 257 := by
      change ppu.raster.dot.toNat ≠ 257
      omega
    rw [step_status ppu cart drawing seen, drawn, evaluatedStatus_elsewhere elsewhere]
    rfl
  refine ⟨fun _ => sprites, fun other within reached => ?_, ?_, ?_⟩
  · rw [frame, Vector.getElem?_setIfInBounds]
    by_cases here : other = column
    · have bound : (line + 1) * frameWidth + column < frameWidth * frameHeight := by
        change (line + 1) * 256 + column < 256 * 240
        omega
      rw [here, if_pos rfl, if_pos bound]
    · rw [if_neg (by omega)]
      exact composed.frame other within (by omega)
  · rw [status]
    by_cases hit : start.1.setup.ZeroHit start.2.view line column (backgroundAfter start column)
    · rw [if_pos (hits.mpr hit), testBit_or_single 6 _ 6 rfl, decide_eq_true rfl, Bool.or_true]
      exact ⟨fun _ => .inr ⟨column, by omega, hit⟩, fun _ => rfl⟩
    · rw [if_neg fun zero => hit (hits.mp zero), composed.spriteZero]
      refine or_congr_right ⟨?_, ?_⟩
      · rintro ⟨other, drawn, zero⟩
        exact ⟨other, by omega, zero⟩
      · rintro ⟨other, drawn, zero⟩
        have earlier : other ≠ column := fun same => hit (same ▸ zero)
        exact ⟨other, by omega, zero⟩
  · have same : (ppu.step cart).1.status.toNat.testBit 5 = ppu.status.toNat.testBit 5 := by
      rw [status]
      split
      · rw [testBit_or_single 6 _ 5 rfl]
        exact Bool.or_false _
      · rfl
    rw [same, composed.overflow]
    exact or_congr_right (and_congr_left fun _ => ⟨fun _ => by omega, fun _ => by omega⟩)

/-- Dot by dot a run from the end of a line composes the next one. -/
theorem composed_afterDots (rendering : start.1.rendering = true) (visible : line < 239)
    (scanline : start.1.raster.scanline.toNat = line) (dot : start.1.raster.dot.toNat = 257)
    (short : count ≤ 341) : Composed start line count (afterDots start count).1 := by
  induction count with
  | zero => exact .initial start line
  | succ count ih =>
    have composed := ih (by omega)
    have dots := Dots.afterDots start count
    obtain ⟨here, below⟩ := afterDots_place rendering visible scanline dot (by omega : count ≤ 341)
    have seen : (afterDots start count).1.raster.visibleLine = true := by
      rw [Raster.visibleLine_iff]
      omega
    have drawing : (afterDots start count).1.drawing = true :=
      drawing_iff.mpr ⟨dots.rendering.trans rendering, Raster.renderLine_iff.mpr (by omega)⟩
    have sprites (started : 1 ≤ count) :
        Fetched start.1.setup start.2.view start.1.raster.scanline (count + 1)
          (afterDots start (count + 1)).1.sprites := by
      have fetched := composed.sprites started
      rw [← dots.setup, ← dots.view] at fetched ⊢
      refine fetched.step drawing started (fun early => ?_) (fun finished => by omega)
      exact ⟨UInt16.toNat_inj.mp ((here (by omega)).1.trans scanline.symm), (here (by omega)).2⟩
    by_cases first : count = 0
    · subst first
      exact .lineEnd rendering visible scanline dot
    · by_cases early : count < 85
      · exact composed.between (by omega) early drawing seen (by omega) (sprites (by omega))
      · obtain ⟨column, rfl⟩ := Nat.exists_eq_add_of_le (Nat.le_of_not_lt early)
        obtain ⟨there, now⟩ := below (by omega)
        exact composed.column (by omega) visible scanline dots.setup drawing seen there (by omega)
          rfl (sprites (by omega))

/-- A run from the end of a line to the end of the next one leaves that line in the picture: in each
column what is composed of the background pixel used there and the first opaque one of the line's
first eight sprites. Sprite zero has been hit if it was before or is in one of the columns but the
last, and the overflow flag is set if it was before or more than eight sprites cover the line. -/
theorem line_composed (rendering : start.1.rendering = true) (visible : line < 239)
    (scanline : start.1.raster.scanline.toNat = line) (dot : start.1.raster.dot = 257) :
    (∃ next, Dots start 341 next) ∧
    ∀ next, Dots start 341 next →
      (next.1.raster.scanline.toNat = line + 1 ∧ next.1.raster.dot = 257) ∧
      (∀ column, column < 256 →
        (afterDots start (85 + column)).1.raster.scanline.toNat = line + 1 ∧
          (afterDots start (85 + column)).1.raster.dot.toNat = column + 1 ∧
          next.1.frame[256 * (line + 1) + column]? =
            some (start.1.setup.shownByte start.2.view line column
              (backgroundAfter start column))) ∧
      (next.1.status.toNat.testBit 6 = true ↔ start.1.status.toNat.testBit 6 = true ∨
        ∃ column, column < 255 ∧ start.1.setup.firstSprite? start.2.view line column = some 0 ∧
          backgroundAfter start column % 4 ≠ 0) ∧
      (next.1.status.toNat.testBit 5 = true ↔ start.1.status.toNat.testBit 5 = true ∨
        8 < (start.1.setup.covering line).length) := by
  have now : start.1.raster.dot.toNat = 257 := by rw [dot]; rfl
  refine ⟨⟨_, Dots.afterDots start 341⟩, fun next dots => ?_⟩
  have composed := composed_afterDots rendering visible scanline now (Nat.le_refl 341)
  obtain ⟨there, reached⟩ :=
    (afterDots_place rendering visible scanline now (Nat.le_refl 341)).2 (by decide)
  rw [← dots.unit_eq] at composed there reached
  refine ⟨⟨there, UInt16.toNat_inj.mp reached⟩, fun column inside => ?_, ?_, ?_⟩
  · obtain ⟨here, drawn⟩ := (afterDots_place rendering visible scanline now
      (by omega : 85 + column ≤ 341)).2 (by omega)
    have shown := composed.frame column inside (by omega)
    rw [Nat.mul_comm 256]
    exact ⟨here, by omega, shown⟩
  · rw [composed.spriteZero]
    refine or_congr_right ⟨?_, ?_⟩
    · rintro ⟨column, -, inside, zero, crossed⟩
      exact ⟨column, inside, zero, crossed⟩
    · rintro ⟨column, inside, zero, crossed⟩
      exact ⟨column, by omega, inside, zero, crossed⟩
  · rw [composed.overflow]
    exact or_congr_right (and_iff_right (by decide))

/-- A unit at the end of the first line, with all sprites in the upper left corner. -/
def atCorner : Ppu where
  raster := { scanline := 0, dot := 257 }
  mask := 0x1E
  palette := { entries := (Vector.replicate 32 0x0F).set 0x11 0x21 }

/-- Sprite zero covers the first column, and there are too many sprites; the pattern's first row is
filled. -/
theorem line_composed_corner :
    atCorner.rendering = true ∧ atCorner.raster.scanline.toNat = 0 ∧ atCorner.raster.dot = 257 ∧
      (∃ next, Dots (atCorner, Cartridge.idle.write 0 0xFF) 341 next) ∧
      ∀ next, Dots (atCorner, Cartridge.idle.write 0 0xFF) 341 next →
        (next.1.raster.scanline.toNat = 1 ∧ next.1.raster.dot = 257) ∧
          next.1.frame[256]? = some 0x21 ∧ next.1.status.toNat.testBit 6 = true ∧
          next.1.status.toNat.testBit 5 = true := by
  obtain ⟨reached, composed⟩ :=
    @line_composed (atCorner, Cartridge.idle.write 0 0xFF) 0 rfl (by decide) rfl rfl
  have background : backgroundAfter (atCorner, Cartridge.idle.write 0 0xFF) 0 = 1 := by
    decide +kernel
  have shown : atCorner.setup.shownByte (Cartridge.idle.write 0 0xFF).view 0 0 1 = 0x21 := by
    decide +kernel
  have first : atCorner.setup.firstSprite? (Cartridge.idle.write 0 0xFF).view 0 0 = some 0 := by
    decide +kernel
  refine ⟨rfl, rfl, rfl, reached, fun next dots => ?_⟩
  obtain ⟨place, frame, zero, overflow⟩ := composed next dots
  refine ⟨place, ?_, zero.mpr (.inr ⟨0, by decide, first, ?_⟩), overflow.mpr (.inr ?_)⟩
  · rw [← shown, ← background]
    exact (frame 0 (by decide)).2.2
  · rw [background]
    decide
  · decide +kernel

end Nes.Ppu
