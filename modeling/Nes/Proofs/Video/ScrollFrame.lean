import Nes.Proofs.Video.Dots
import Nes.Proofs.Video.Scroll

/-!
The scroll address over a drawn frame. At the end of each line it moves back to the left and one
line down, and before the picture it is moved to the top, so each line starts with the tiles that
the temporary address and the number of the line tell.
-/

namespace Nes

namespace Scroll

open Bits

variable (scroll : Scroll) (raster : Raster)

/-! ### Coordinates after a dot -/

/-- The address is back at the left after dot 257, and stays there until the next line's first
tile is complete. -/
theorem afterDot_horizontal (start : 257 ≤ raster.dot.toNat) (fetching : raster.dot.toNat < 328)
    (left : 257 < raster.dot.toNat →
      columnOf scroll.v = columnOf scroll.t ∧ tableXOf scroll.v = tableXOf scroll.t) :
    columnOf (scroll.afterDot raster).v = columnOf scroll.t ∧
      tableXOf (scroll.afterDot raster).v = tableXOf scroll.t := by
  have within : raster.endsTile = false := by
    rw [Bool.eq_false_iff, ne_eq, Raster.endsTile_iff]
    omega
  have beyond : ¬ (raster.dot == 256) = true := by
    apply Raster.dot_ne
    change _ ≠ 256
    omega
  have line : columnOf (if raster.dot == 257 then scroll.copyX else scroll).v = columnOf scroll.t ∧
      tableXOf (if raster.dot == 257 then scroll.copyX else scroll).v = tableXOf scroll.t := by
    split
    · exact scroll.copyX_coordinates.1
    · rename_i later
      rw [Raster.dot_eq_iff] at later
      change ¬ _ = 257 at later
      exact left (by omega)
  simp only [afterDot, within, Bool.false_eq_true, if_false, if_neg beyond]
  split
  · obtain ⟨column, table⟩ := (copyY_coordinates _).1
    rw [column, table]
    exact line
  · exact line

/-- Vertically the address moves at the end of the picture's line and before the picture. -/
theorem afterDot_vertical :
    if raster.preRenderLine && raster.dotIn 280 304 then
      rowOf (scroll.afterDot raster).v = rowOf scroll.t ∧
        heightOf (scroll.afterDot raster).v = heightOf scroll.t
    else if raster.dot == 256 then
      rowOf scroll.v ≤ 29 → rowOf (scroll.afterDot raster).v ≤ 29 ∧
        heightOf (scroll.afterDot raster).v = (heightOf scroll.v + 1) % 480
    else
      rowOf (scroll.afterDot raster).v = rowOf scroll.v ∧
        heightOf (scroll.afterDot raster).v = heightOf scroll.v := by
  have tile : ∃ tile : Scroll, tile = (if raster.endsTile then scroll.incrementX else scroll) ∧
      tile.t = scroll.t ∧ rowOf tile.v = rowOf scroll.v ∧ heightOf tile.v = heightOf scroll.v := by
    refine ⟨_, rfl, ?_⟩
    split
    · exact ⟨scroll.incrementX_kept.1, scroll.incrementX_coordinates⟩
    · exact ⟨rfl, rfl, rfl⟩
  obtain ⟨tile, same, target, row, height⟩ := tile
  simp only [afterDot, ← same]
  split
  · obtain ⟨-, top⟩ := copyY_coordinates (if raster.dot == 256 then tile.incrementY
      else if raster.dot == 257 then tile.copyX else tile)
    have kept : (if raster.dot == 256 then tile.incrementY
        else if raster.dot == 257 then tile.copyX else tile).t = scroll.t := by
      rw [← target]
      repeat' split
      all_goals simp [incrementY_kept, copyX]
    rw [kept] at top
    exact top
  · split
    · rw [← row, ← height]
      exact tile.incrementY_coordinates
    · rw [← row, ← height]
      split
      · exact tile.copyX_coordinates.2
      · exact ⟨rfl, rfl⟩

/-! ### Lines -/

/-- Where the scroll address stands while the picture is drawn: back at the left from the end of a
picture's line on, and vertically at the top before the picture and one line down for each line. -/
structure Aligned (scroll : Scroll) (raster : Raster) : Prop where
  left : raster.renderLine → 257 < raster.dot.toNat → raster.dot.toNat ≤ 328 →
    columnOf scroll.v = columnOf scroll.t ∧ tableXOf scroll.v = tableXOf scroll.t
  top : raster.scanline.toNat = 261 → 280 < raster.dot.toNat →
    rowOf scroll.v ≤ 29 ∧ heightOf scroll.v = heightOf scroll.t
  down : raster.scanline.toNat < 240 →
    rowOf scroll.v ≤ 29 ∧ heightOf scroll.v =
      (heightOf scroll.t + raster.scanline.toNat + if 256 < raster.dot.toNat then 1 else 0) % 480

theorem heightOf_lt {address : UInt16} (shown : rowOf address ≤ 29) : heightOf address < 480 := by
  have table : tableYOf address < 2 := field_lt 11 1 _
  have line : lineOf address < 8 := field_lt 12 3 _
  unfold heightOf
  omega

/-- Each dot leaves the address aligned. -/
theorem Aligned.next {scroll : Scroll} {raster : Raster} (aligned : scroll.Aligned raster)
    (valid : raster.valid) (shown : rowOf scroll.t ≤ 29) :
    (if raster.renderLine then scroll.afterDot raster else scroll).Aligned
      (raster.advance true) := by
  have height := heightOf_lt shown
  have moves := Raster.advance_cases valid true
  obtain ⟨line, -⟩ := Raster.toNat_lt valid
  by_cases drawn : raster.renderLine = true
  · rw [if_pos drawn]
    have target := (scroll.afterDot_kept raster).1
    have vertical := scroll.afterDot_vertical raster
    constructor
    · intro _ after fetching
      rw [target]
      exact scroll.afterDot_horizontal raster (by omega) (by omega)
        fun later => aligned.left drawn later (by omega)
    · intro preRender after
      have here : raster.scanline.toNat = 261 := by omega
      rw [target]
      split at vertical
      · rw [vertical.1, vertical.2]
        exact ⟨shown, rfl⟩
      · rename_i between
        rw [Bool.and_eq_true, Raster.preRenderLine_iff, Raster.dotIn_iff] at between
        simp only [UInt16.reduceToNat] at between
        have beyond : ¬ (raster.dot == 256) = true := by
          apply Raster.dot_ne
          change _ ≠ 256
          omega
        rw [if_neg beyond] at vertical
        rw [vertical.1, vertical.2]
        exact aligned.top here (by omega)
    · intro visible
      rw [target]
      by_cases preRender : raster.scanline.toNat = 261
      · -- From the end of the line before the picture.
        have later : ¬ (raster.preRenderLine && raster.dotIn 280 304) = true ∧
            ¬ (raster.dot == 256) = true := by
          rw [Bool.and_eq_true, Raster.dotIn_iff, Raster.dot_eq_iff]
          simp only [UInt16.reduceToNat]
          omega
        rw [if_neg later.1, if_neg later.2] at vertical
        obtain ⟨row, top⟩ := aligned.top preRender (by omega)
        rw [vertical.1, vertical.2, if_neg (by omega)]
        exact ⟨row, by omega⟩
      · rw [Raster.renderLine_iff] at drawn
        have outside : ¬ (raster.preRenderLine && raster.dotIn 280 304) = true := by
          rw [Bool.and_eq_true, Raster.preRenderLine_iff]
          exact fun inside => preRender inside.1
        obtain ⟨row, here⟩ := aligned.down (by omega)
        rw [if_neg outside] at vertical
        by_cases down : (raster.dot == 256) = true
        · rw [if_pos down] at vertical
          rw [Raster.dot_eq_iff] at down
          simp only [UInt16.reduceToNat] at down
          obtain ⟨nextRow, below⟩ := vertical row
          rw [if_neg (by omega)] at here
          rw [if_pos (by omega)]
          exact ⟨nextRow, by omega⟩
        · rw [if_neg down] at vertical
          rw [Raster.dot_eq_iff] at down
          simp only [UInt16.reduceToNat] at down
          rw [vertical.1, vertical.2, here]
          refine ⟨row, congrArg (· % 480) ?_⟩
          split <;> split <;> omega
  · rw [if_neg drawn]
    rw [Raster.renderLine_iff] at drawn
    refine ⟨fun rendering after fetching => ?_, fun preRender after => ?_, fun visible => ?_⟩
    · rw [Raster.renderLine_iff] at rendering
      omega
    · omega
    · omega

/-- At the first tile of a line an aligned address stands at the left, and as many lines down as the
number of the line says. -/
theorem Aligned.at_line {scroll : Scroll} {raster : Raster} (aligned : scroll.Aligned raster)
    (shown : rowOf scroll.t ≤ 29) {number : Nat} (visible : number ≤ 239)
    (before : raster.scanline.toNat = Raster.lineBefore number) (first : raster.dot.toNat = 321) :
    columnOf scroll.v = columnOf scroll.t ∧ tableXOf scroll.v = tableXOf scroll.t ∧
      heightOf scroll.v = (heightOf scroll.t + number) % 480 := by
  have height := heightOf_lt shown
  unfold Raster.lineBefore at before
  have drawn : raster.renderLine := by
    rw [Raster.renderLine_iff]
    split at before <;> omega
  obtain ⟨left, table⟩ := aligned.left drawn (by omega) (by omega)
  refine ⟨left, table, ?_⟩
  split at before
  · rw [(aligned.top before (by omega)).2]
    omega
  · rw [(aligned.down (by omega)).2, if_pos (by omega), before]
    omega

end Scroll

namespace Ppu

open Scroll

variable {start next : Ppu × Cartridge} {count : Nat}

/-- A drawn frame keeps the address aligned, however long it goes on. -/
theorem Dots.aligned (dots : Dots start count next) (rendering : start.1.rendering = true)
    (valid : start.1.raster.valid) (shown : rowOf start.1.scroll.t ≤ 29)
    (aligned : start.1.scroll.Aligned start.1.raster) :
    next.1.raster.valid ∧ next.1.scroll.Aligned next.1.raster := by
  induction dots with
  | start => exact ⟨valid, aligned⟩
  | @dot count ppu cart before ih =>
    obtain ⟨(inside : ppu.raster.valid = true), (here : ppu.scroll.Aligned ppu.raster)⟩ := ih
    have drawing : ppu.rendering = true := before.rendering.trans rendering
    have target : ppu.scroll.t = start.1.scroll.t := congrArg Setup.t before.setup
    have place := ppu.step_raster cart
    have moved := (ppu.step_scroll_of_rendering cart drawing)
    have later := here.next inside (target ▸ shown)
    rw [place, moved, drawing]
    exact ⟨Raster.valid_advance inside _, later.left, later.top, later.down⟩
  | unseen before same ih => exact ih

/-- From the end of the line that prepares a frame, the drawn frame comes to the first tile of each
line, and the scroll address stands there at the left of the temporary address and as many lines
below it as the number of the line says. -/
theorem scroll_at_line (rendering : start.1.rendering = true)
    (line : start.1.raster.scanline = 261) (dot : start.1.raster.dot = 257)
    (shown : rowOf start.1.scroll.t ≤ 29) {number : Nat} (visible : number ≤ 239) :
    (∃ count next, count < Raster.dotsPerFrame ∧ Dots start count next ∧
      next.1.raster.scanline.toNat = Raster.lineBefore number ∧
      next.1.raster.dot.toNat = 321) ∧
    ∀ count next, Dots start count next →
      next.1.raster.scanline.toNat = Raster.lineBefore number → next.1.raster.dot.toNat = 321 →
      columnOf next.1.scroll.v = columnOf start.1.scroll.t ∧
        tableXOf next.1.scroll.v = tableXOf start.1.scroll.t ∧
        heightOf next.1.scroll.v = (heightOf start.1.scroll.t + number) % 480 := by
  have valid : start.1.raster.valid := by
    rw [Raster.valid_iff, line, dot]
    decide
  have scanline : start.1.raster.scanline.toNat = 261 := by rw [line]; rfl
  have column : start.1.raster.dot.toNat = 257 := by rw [dot]; rfl
  refine ⟨?_, fun count next dots before first => ?_⟩
  · have length := start.1.raster.frameLength_cases
    have place : start.1.raster.place = 261 * 341 + 257 := by rw [Raster.place, scanline, column]
    have early : start.1.raster.place < Raster.lastDot := by
      rw [place]
      decide
    have ahead : Raster.lineBefore number * 341 + 321 < Raster.lastDot := by
      unfold Raster.lineBefore Raster.lastDot
      split <;> omega
    obtain ⟨count, next, dots, reached, there⟩ :=
      Dots.exists_at start rendering valid early (by decide) ahead
    refine ⟨count, next, ?_, dots, there⟩
    unfold Raster.lastDot at ahead
    unfold Raster.dotsPerFrame
    omega
  · have aligned : start.1.scroll.Aligned start.1.raster := by
      refine ⟨fun _ after => ?_, fun _ after => ?_, fun above => ?_⟩ <;> omega
    have target : next.1.scroll.t = start.1.scroll.t := congrArg Setup.t dots.setup
    obtain ⟨-, here⟩ := dots.aligned rendering valid shown aligned
    rw [← target] at shown ⊢
    exact here.at_line shown visible before first

/-- A unit at the end of the line before the picture. Its picture starts at the last line of the
upper nametables. -/
def atLastLine : Ppu where
  raster := { scanline := 261, dot := 257 }
  mask := 0x08
  scroll := { t := 0x73A5 }

/-- The line that is drawn as number 100 lies in the lower nametables. -/
theorem scroll_at_line_hundred :
    atLastLine.rendering = true ∧ atLastLine.raster.scanline = 261 ∧
      atLastLine.raster.dot = 257 ∧ rowOf atLastLine.scroll.t ≤ 29 ∧
      (∃ count next, count < Raster.dotsPerFrame ∧ Dots (atLastLine, .idle) count next ∧
        next.1.raster.scanline.toNat = Raster.lineBefore 100 ∧
        next.1.raster.dot.toNat = 321) ∧
      ∀ count next, Dots (atLastLine, .idle) count next →
        next.1.raster.scanline.toNat = Raster.lineBefore 100 →
        next.1.raster.dot.toNat = 321 →
        columnOf next.1.scroll.v = 5 ∧ tableXOf next.1.scroll.v = 0 ∧
          heightOf next.1.scroll.v = 339 :=
  ⟨rfl, rfl, rfl, by decide,
    @scroll_at_line (atLastLine, .idle) rfl rfl rfl (by decide) 100 (by decide)⟩

end Ppu

end Nes
