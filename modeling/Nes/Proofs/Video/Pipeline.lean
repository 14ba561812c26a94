import Nes.Proofs.Video.Dots
import Nes.Proofs.Video.Tile

/-!
The background pipeline as a stream. From the first tile fetch for a line on, the fetches are
counted: every eighth completes a tile, and the pixels of the tiles leave the row in order. So the
pixel drawn in a column is the one that the memories hold for it, whatever the row held before.
-/

namespace Nes

open Bits

/-- The scroll address a number of tiles to the right. -/
def Scroll.right (scroll : Scroll) : Nat → Scroll
  | 0 => scroll
  | tiles + 1 => (scroll.right tiles).incrementX

/-- The pixels to the right of a scroll address, in a row. -/
def Ppu.Setup.streamPixel (setup : Ppu.Setup) (view : (UInt16 → UInt8) × Mirroring)
    (entry : Scroll) (number : Nat) : Nat :=
  setup.tilePixel view (entry.right (number / 8)).v (number % 8)

namespace Background

/-! ### The row -/

/-- The pixel at a place of the sixteen, counted from the left. -/
def pixelAt (tileData : UInt64) (place : Nat) : Nat := field (4 * (15 - place)) 4 tileData.toNat

theorem pixelAt_shift (tileData : UInt64) {place : Nat} (inside : place < 16) :
    pixelAt (tileData <<< 4) place = if place = 15 then 0 else pixelAt tileData (place + 1) := by
  have shifted : (tileData <<< 4).toNat = tileData.toNat * 2 ^ 4 % 2 ^ 64 := by
    rw [UInt64.toNat_shiftLeft, Nat.shiftLeft_eq]
    rfl
  rw [pixelAt, shifted]
  split
  · rename_i last
    rw [last]
    exact field_shift_empty _ _ _ (by decide)
  · have here : 4 * (15 - place) = 4 * (15 - (place + 1)) + 4 := by omega
    rw [here, field_shift _ _ _ (by omega), pixelAt]

theorem pixelAt_or (tileData : UInt64) (row : UInt32) {place : Nat} (inside : place < 16) :
    pixelAt (tileData ||| row.toUInt64) place =
      pixelAt tileData place |||
        if place < 8 then 0 else field (4 * (7 - (place - 8))) 4 row.toNat := by
  rw [pixelAt, UInt64.toNat_or, field_or, pixelAt]
  congr 1
  change field _ 4 row.toNat = _
  split
  · have small : row.toNat < 2 ^ (4 * (15 - place)) :=
      Nat.lt_of_lt_of_le row.toNat_lt (Nat.pow_le_pow_right (by decide) (by omega))
    rw [field, Nat.div_eq_of_lt small, Nat.zero_mod]
  · have here : 15 - place = 7 - (place - 8) := by omega
    rw [here]

/-- Drawn is the pixel at the place that the fine scroll says. -/
theorem pixel_toNat (background : Background) {fineX : UInt8} (fine : fineX ≤ 7) :
    (background.pixel fineX).toNat = pixelAt background.tileData fineX.toNat := by
  have few : fineX.toNat ≤ 7 := UInt8.le_iff_toNat_le.mp fine
  have upper : (background.tileData >>> 32).toUInt32.toNat =
      field 32 32 background.tileData.toNat := by
    rw [UInt64.toNat_toUInt32, UInt64.toNat_shiftRight]
    change background.tileData.toNat >>> 32 % 2 ^ 32 = _
    rw [Nat.shiftRight_eq_div_pow, field]
  have here : 32 + 4 * (7 - fineX.toNat) = 4 * (15 - fineX.toNat) := by omega
  rw [pixel, PatternRow.pixel_toNat _ fine, upper, field_field _ _ _ (by omega), here, pixelAt]

/-- The row after a number of fetches for a line: the pixels of the complete tiles have moved up,
and the places behind them are empty. -/
structure Queued (stream : Nat → Nat) (fetches : Nat) (tileData : UInt64) : Prop where
  drawn : ∀ place, place < 16 - fetches % 8 → 16 ≤ fetches + place →
    pixelAt tileData place = stream (fetches + place - 16)
  empty : ∀ place, place < 16 → 16 - fetches % 8 ≤ place → pixelAt tileData place = 0

variable {stream : Nat → Nat} {fetches : Nat} {tileData : UInt64}

/-- Before the first fetch nothing is known of the row. -/
theorem Queued.initial (tileData : UInt64) : Queued stream 0 tileData :=
  ⟨fun _ inside reached => by omega, fun _ inside beyond => by omega⟩

theorem Queued.shift (queued : Queued stream fetches tileData) (within : fetches % 8 ≠ 7) :
    Queued stream (fetches + 1) (tileData <<< 4) := by
  constructor
  · intro place inside reached
    rw [pixelAt_shift tileData (by omega), if_neg (by omega), queued.drawn _ (by omega) (by omega)]
    congr 1
    omega
  · intro place inside beyond
    rw [pixelAt_shift tileData inside]
    split
    · rfl
    · exact queued.empty _ (by omega) (by omega)

theorem Queued.store (queued : Queued stream fetches tileData) (last : fetches % 8 = 7)
    {row : UInt32} (tile : ∀ column, column < 8 →
      field (4 * (7 - column)) 4 row.toNat = stream (fetches - 7 + column)) :
    Queued stream (fetches + 1) (tileData <<< 4 ||| row.toUInt64) := by
  constructor
  · intro place inside reached
    rw [pixelAt_or _ row (by omega), pixelAt_shift tileData (by omega)]
    by_cases upper : place < 8
    · rw [if_pos upper, if_neg (by omega), Nat.or_zero, queued.drawn _ (by omega) (by omega)]
      congr 1
      omega
    · have behind : (if place = 15 then 0 else pixelAt tileData (place + 1)) = 0 := by
        split
        · rfl
        · exact queued.empty _ (by omega) (by omega)
      rw [if_neg upper, behind, Nat.zero_or, tile _ (by omega)]
      congr 1
      omega
  · intro place inside beyond
    omega

/-! ### The latches -/

/-- The latches part of the way through a tile: what its dots so far have brought. -/
structure Latched (setup : Ppu.Setup) (view : (UInt16 → UInt8) × Mirroring) (v : UInt16)
    (phase : Nat) (background : Background) : Prop where
  number : 1 ≤ phase → background.ntByte = setup.tileNumber view v
  palette : 3 ≤ phase → ∃ palette : UInt8, palette < 4 ∧ background.atBits = palette <<< 2 ∧
    palette.toNat = setup.tilePalette view v
  low : 5 ≤ phase → background.patternLo = setup.tileByte view v 0
  high : 7 ≤ phase → background.patternHi = setup.tileByte view v 1

/-- The row of a tile whose bytes have all come. -/
theorem Latched.packed {setup : Ppu.Setup} {view : (UInt16 → UInt8) × Mirroring} {v : UInt16}
    {background : Background} (latched : Latched setup view v 7 background) {column : Nat}
    (inside : column < 8) :
    field (4 * (7 - column)) 4 background.row.toNat = setup.tilePixel view v column := by
  obtain ⟨palette, small, bits, same⟩ := latched.palette (by decide)
  rw [row, bits, latched.low (by decide), latched.high (by decide),
    PatternRow.field_forward small _ _ inside, same, Ppu.Setup.tilePixel]

end Background

/-- Between the dots that move the address down, to the left or to the top, it moves only to the
right. -/
theorem Scroll.afterDot_between {raster : Raster} (scroll : Scroll)
    (between : raster.dot.toNat < 256 ∨ 321 ≤ raster.dot.toNat) :
    scroll.afterDot raster = if raster.endsTile then scroll.incrementX else scroll := by
  have down : ¬ (raster.dot == 256) = true := by
    apply Raster.dot_ne
    change _ ≠ 256
    omega
  have left : ¬ (raster.dot == 257) = true := by
    apply Raster.dot_ne
    change _ ≠ 257
    omega
  have top : ¬ (raster.preRenderLine && raster.dotIn 280 304) = true := by
    rw [Bool.and_eq_true, Raster.dotIn_iff]
    simp only [UInt16.reduceToNat]
    omega
  simp only [Scroll.afterDot, if_neg down, if_neg left, if_neg top]

namespace Ppu

open Background

variable {ppu : Ppu} {cart : Cartridge}

/-- The dots of a tile before the last one bring its bytes one after the other. -/
theorem fetchTile_brings {phase : Nat}
    (latched : Latched ppu.setup cart.view ppu.scroll.v phase ppu.background)
    (here : ppu.raster.dot.toNat % 8 = phase + 1) :
    Latched ppu.setup cart.view ppu.scroll.v (phase + 1) (ppu.fetchTile cart).1.background ∧
      (ppu.fetchTile cart).1.background.tileData = ppu.background.tileData <<< 4 := by
  have dot : (ppu.raster.dot % 8).toNat = phase + 1 := by
    rw [UInt16.toNat_mod]
    exact here
  have byte (address : UInt16) :
      (readVram { ppu with background := ppu.background.shift } cart address).1 =
        ppu.setup.byteAt cart.view address := readVram_byte _ cart address
  have pattern : backgroundAddress { ppu with background := ppu.background.shift } =
      ppu.backgroundAddress := rfl
  obtain ⟨number, palette, low, high⟩ := latched
  have few : phase < 7 := by omega
  match phase, few with
  | 0, _ =>
    simp only [fetchTile, dot, byte]
    refine ⟨⟨fun _ => Setup.byteAt_tileAddress ppu.scroll, ?_, ?_, ?_⟩, rfl⟩ <;> omega
  | 2, _ =>
    simp only [fetchTile, dot, byte]
    refine ⟨⟨fun _ => number (by decide), fun _ => ⟨_, ?_, rfl, ?_⟩, ?_, ?_⟩, rfl⟩
    · rw [UInt8.lt_iff_toNat_lt, Setup.byteAt_attributeAddress]
      exact field_lt _ 2 _
    · exact Setup.byteAt_attributeAddress ppu.scroll
    · omega
    · omega
  | 4, _ =>
    simp only [fetchTile, dot, byte, pattern]
    exact ⟨⟨fun _ => number (by decide), fun _ => palette (by decide),
      fun _ => (ppu.byteAt_backgroundAddress cart.view (number (by decide))).1, by omega⟩, rfl⟩
  | 6, _ =>
    simp only [fetchTile, dot, byte, pattern]
    exact ⟨⟨fun _ => number (by decide), fun _ => palette (by decide), fun _ => low (by decide),
      fun _ => (ppu.byteAt_backgroundAddress cart.view (number (by decide))).2⟩, rfl⟩
  | 1, _ =>
    simp only [fetchTile, dot]
    refine ⟨⟨fun _ => number (by decide), ?_, ?_, ?_⟩, rfl⟩ <;> omega
  | 3, _ =>
    simp only [fetchTile, dot]
    refine ⟨⟨fun _ => number (by decide), fun _ => palette (by decide), ?_, ?_⟩, rfl⟩ <;> omega
  | 5, _ =>
    simp only [fetchTile, dot]
    exact ⟨⟨fun _ => number (by decide), fun _ => palette (by decide), fun _ => low (by decide),
      by omega⟩, rfl⟩

/-- The last dot of a tile puts its row behind the others. -/
theorem fetchTile_stored (last : ppu.raster.dot.toNat % 8 = 0) :
    (ppu.fetchTile cart).1.background.tileData =
      ppu.background.tileData <<< 4 ||| ppu.background.row.toUInt64 := by
  have dot : (ppu.raster.dot % 8).toNat = 0 := by
    rw [UInt16.toNat_mod]
    exact last
  simp only [fetchTile, dot]
  rfl

/-! ### Dots -/

/-- The unit after a number of tile fetches for a line that starts at a scroll address. -/
structure Streamed (setup : Setup) (view : (UInt16 → UInt8) × Mirroring) (entry : Scroll)
    (fetches : Nat) (ppu : Ppu) : Prop where
  scroll : ppu.scroll = entry.right (fetches / 8)
  latched : Latched setup view ppu.scroll.v (fetches % 8) ppu.background
  queued : Queued (setup.streamPixel view entry) fetches ppu.background.tileData

variable {entry : Scroll} {fetches : Nat}

/-- A fetching dot goes one fetch further. -/
theorem Streamed.fetch (streamed : Streamed ppu.setup cart.view entry fetches ppu)
    (drawing : ppu.drawing = true)
    (fetching : 1 ≤ ppu.raster.dot.toNat ∧ ppu.raster.dot.toNat < 256 ∨
      321 ≤ ppu.raster.dot.toNat ∧ ppu.raster.dot.toNat ≤ 336)
    (phase : ppu.raster.dot.toNat % 8 = (fetches + 1) % 8) :
    Streamed ppu.setup cart.view entry (fetches + 1) (ppu.step cart).1 := by
  obtain ⟨scroll, latched, queued⟩ := streamed
  have fetched : (ppu.step cart).1.background = (ppu.fetchTile cart).1.background := by
    have inside : (ppu.raster.visibleDot || ppu.raster.dotIn 321 336) = true := by
      rw [Bool.or_eq_true, Raster.visibleDot_iff, Raster.dotIn_iff]
      simp only [UInt16.reduceToNat]
      omega
    rw [step_background ppu cart drawing, tileDot, if_pos inside]
  have moved : (ppu.step cart).1.scroll =
      if ppu.raster.endsTile then ppu.scroll.incrementX else ppu.scroll := by
    rw [step_scroll ppu cart drawing, Scroll.afterDot_between _ (by omega)]
  by_cases last : fetches % 8 = 7
  · have ends : ppu.raster.endsTile = true := by
      rw [Raster.endsTile_iff]
      omega
    have next : (fetches + 1) / 8 = fetches / 8 + 1 := by omega
    have start : (fetches + 1) % 8 = 0 := by omega
    rw [if_pos ends, scroll] at moved
    refine ⟨by rw [moved, next, Scroll.right], ?_, ?_⟩
    · rw [start]
      constructor <;> omega
    · rw [fetched, fetchTile_stored (phase.trans start)]
      rw [last] at latched
      refine queued.store last fun column inside => ?_
      rw [latched.packed inside, Setup.streamPixel, scroll]
      congr 3 <;> omega
  · have within : ¬ ppu.raster.endsTile = true := by
      rw [Raster.endsTile_iff]
      omega
    have next : (fetches + 1) / 8 = fetches / 8 := by omega
    have further : (fetches + 1) % 8 = fetches % 8 + 1 := by omega
    obtain ⟨later, shifted⟩ := fetchTile_brings latched (phase.trans further)
    rw [if_neg within] at moved
    refine ⟨by rw [moved, scroll, next], ?_, ?_⟩
    · rw [moved, fetched, further]
      exact later
    · rw [fetched, shifted]
      exact queued.shift last

/-- The dots between the fetches for two tiles and the next line change nothing. -/
theorem Streamed.idle (streamed : Streamed ppu.setup cart.view entry fetches ppu)
    (drawing : ppu.drawing = true)
    (idle : ppu.raster.dot.toNat = 0 ∨ 337 ≤ ppu.raster.dot.toNat) :
    Streamed ppu.setup cart.view entry fetches (ppu.step cart).1 := by
  have outside : (ppu.raster.visibleDot || ppu.raster.dotIn 321 336) = false := by
    rw [Bool.eq_false_iff, ne_eq, Bool.or_eq_true, Raster.visibleDot_iff, Raster.dotIn_iff]
    simp only [UInt16.reduceToNat]
    omega
  have within : ¬ ppu.raster.endsTile = true := by
    rw [Raster.endsTile_iff]
    omega
  have fetched : (ppu.step cart).1.background = ppu.background := by
    rw [step_background ppu cart drawing, tileDot_idle ppu cart outside]
  have moved : (ppu.step cart).1.scroll = ppu.scroll := by
    rw [step_scroll ppu cart drawing, Scroll.afterDot_between _ (by omega), if_neg within]
  obtain ⟨scroll, latched, queued⟩ := streamed
  exact ⟨moved.trans scroll, by rw [moved, fetched]; exact latched, by rw [fetched]; exact queued⟩

/-! ### Lines -/

variable {start next : Ppu × Cartridge} {count line : Nat}

/-- While a line is on its way, its fetches are counted: sixteen at the end of the line before,
then one for each dot. -/
def OnLine (start : Ppu × Cartridge) (line count : Nat) (next : Ppu × Cartridge) : Prop :=
  next.1.raster.scanline.toNat = Raster.lineBefore line ∧ next.1.raster.dot.toNat = 321 + count ∧
      Streamed next.1.setup next.2.view start.1.scroll (min count 16) next.1 ∨
    next.1.raster.scanline.toNat = line ∧ next.1.raster.dot.toNat + 19 ≤ count ∧
      (next.1.raster.dot.toNat ≤ 256 →
        Streamed next.1.setup next.2.view start.1.scroll (16 + (next.1.raster.dot.toNat - 1))
          next.1)

/-- From the first fetch for a line on, a line's time keeps count of them. -/
theorem Dots.onLine (dots : Dots start count next) (rendering : start.1.rendering = true)
    (visible : line ≤ 239) (scanline : start.1.raster.scanline.toNat = Raster.lineBefore line)
    (dot : start.1.raster.dot.toNat = 321) (short : count < 341) :
    next.1.raster.valid ∧ OnLine start line count next := by
  have early : Raster.lineBefore line < 240 ∨ Raster.lineBefore line = 261 := by
    unfold Raster.lineBefore
    split <;> omega
  have other : line = (Raster.lineBefore line + 1) % 262 := by
    unfold Raster.lineBefore
    split <;> omega
  induction dots with
  | start =>
    refine ⟨?_, .inl ⟨scanline, dot, ?_, ?_, Queued.initial _⟩⟩
    · exact Raster.valid_of_toNat_lt (by omega) (by omega)
    · rfl
    · constructor <;> intro reached <;> exact absurd reached (by decide)
  | @dot count ppu cart before ih =>
    obtain ⟨(inside : ppu.raster.valid = true), here⟩ := ih (by omega)
    have moves := Raster.advance_cases inside ppu.rendering
    have place := ppu.step_raster cart
    have drawing : ppu.drawing = true := by
      refine drawing_iff.mpr ⟨before.rendering.trans rendering, ?_⟩
      rw [Raster.renderLine_iff]
      rcases here with ⟨(here : ppu.raster.scanline.toNat = _), -⟩ |
        ⟨(here : ppu.raster.scanline.toNat = _), -⟩ <;> omega
    unfold OnLine
    rw [step_setup, step_view]
    refine ⟨by rw [place]; exact Raster.valid_advance inside _, ?_⟩
    rw [place]
    dsimp only
    rcases here with ⟨(here : ppu.raster.scanline.toNat = _),
        (now : ppu.raster.dot.toNat = _), (streamed : Streamed ppu.setup cart.view _ _ ppu)⟩ |
      ⟨(here : ppu.raster.scanline.toNat = _), (now : ppu.raster.dot.toNat + 19 ≤ _),
        (streamed : ppu.raster.dot.toNat ≤ 256 →
          Streamed ppu.setup cart.view _ (16 + (ppu.raster.dot.toNat - 1)) ppu)⟩
    · -- The first two tiles come at the end of the line before; then the line waits.
      by_cases fetching : count < 16
      · rw [Nat.min_eq_left (by omega)] at streamed
        refine .inl ⟨by omega, by omega, ?_⟩
        rw [Nat.min_eq_left (by omega)]
        exact streamed.fetch drawing (by omega) (by omega)
      · rw [Nat.min_eq_right (by omega)] at streamed
        have waiting := streamed.idle drawing (by omega)
        rcases moves with ⟨same, later⟩ | ⟨ends, first, below⟩ | ⟨last, skips, below, first⟩
        · refine .inl ⟨by omega, by omega, ?_⟩
          rw [Nat.min_eq_right (by omega)]
          exact waiting
        · refine .inr ⟨by omega, by omega, fun _ => ?_⟩
          rw [first]
          exact waiting
        · refine .inr ⟨by omega, by omega, fun _ => ?_⟩
          rw [first]
          exact waiting
    · obtain ⟨same, later⟩ := moves.resolve_right (by omega)
      refine .inr ⟨by omega, by omega, fun drawn => ?_⟩
      rw [later]
      by_cases first : ppu.raster.dot.toNat = 0
      · have waiting := (streamed (by omega)).idle drawing (.inl first)
        rw [first] at waiting ⊢
        exact waiting
      · have fetched := (streamed (by omega)).fetch drawing (by omega) (by omega)
        have further :
            16 + (ppu.raster.dot.toNat - 1) + 1 = 16 + (ppu.raster.dot.toNat + 1 - 1) := by
          omega
        rw [further] at fetched
        exact fetched
  | unseen before same ih =>
    obtain ⟨inside, here⟩ := ih short
    refine ⟨inside, ?_⟩
    unfold OnLine at here ⊢
    rw [same]
    exact here

/-! ### Pixels -/

theorem showsBackground_iff {column : UInt8} :
    ppu.showsBackground column = true ↔
      ppu.mask.toNat.testBit 3 = true ∧
        (8 ≤ column.toNat ∨ ppu.mask.toNat.testBit 1 = true) := by
  rw [showsBackground, and_single 3 _ rfl, and_single 1 _ rfl, Bool.and_eq_true, Bool.or_eq_true,
    decide_eq_true_iff, UInt8.le_iff_toNat_le]
  rfl

/-- The background pixel that a line which starts at a scroll address has in a column. -/
def Setup.linePixel (setup : Setup) (view : (UInt16 → UInt8) × Mirroring) (entry : Scroll)
    (column : Nat) : Nat :=
  if setup.mask.toNat.testBit 3 = true ∧ (8 ≤ column ∨ setup.mask.toNat.testBit 1 = true) then
    setup.streamPixel view entry (column + entry.fineX.toNat)
  else 0

/-- Where the line is drawn, the row shows the pixel of the column. -/
theorem Dots.backgroundPixel_toNat (dots : Dots start count next)
    (rendering : start.1.rendering = true) (visible : line ≤ 239)
    (scanline : start.1.raster.scanline.toNat = Raster.lineBefore line)
    (dot : start.1.raster.dot.toNat = 321) (fine : start.1.scroll.fineX ≤ 7) (short : count < 341)
    {column : Nat} (inside : column < 256) (here : next.1.raster.scanline.toNat = line)
    (now : next.1.raster.dot.toNat = column + 1) :
    (next.1.backgroundPixel next.1.raster.column).toNat =
      start.1.setup.linePixel start.2.view start.1.scroll column := by
  have apart : Raster.lineBefore line ≠ line := by
    unfold Raster.lineBefore
    split <;> omega
  have streamed : Streamed start.1.setup start.2.view start.1.scroll (16 + column) next.1 := by
    rcases (dots.onLine rendering visible scanline dot short).2 with ⟨before, -⟩ | ⟨-, -, streamed⟩
    · exact absurd (before.symm.trans here) apart
    · have counted := streamed (by omega)
      rw [dots.setup, dots.view, now] at counted
      exact counted
  have mask : next.1.mask = start.1.setup.mask := congrArg Setup.mask dots.setup
  have fineX : next.1.scroll.fineX = start.1.scroll.fineX := congrArg Setup.fineX dots.setup
  have few : start.1.scroll.fineX.toNat ≤ 7 := UInt8.le_iff_toNat_le.mp fine
  have shows := @showsBackground_iff next.1 next.1.raster.column
  rw [mask, Raster.column_toNat inside now] at shows
  rw [backgroundPixel, Setup.linePixel]
  by_cases drawn : next.1.showsBackground next.1.raster.column = true
  · rw [if_pos drawn, if_pos (shows.mp drawn), fineX, pixel_toNat _ fine,
      streamed.queued.drawn _ (by omega) (by omega)]
    congr 1
    omega
  · rw [if_neg drawn, if_neg fun switched => drawn (shows.mpr switched)]
    rfl

/-- From the first tile fetch for a line on, the drawn picture comes to each column of the line
within a line's time. The background pixel used there is zero where the background is switched off;
elsewhere it is the pixel that the memories hold for the tile reached by as many steps to the right
as whole tiles lie between, whatever the row held before. -/
theorem backgroundPixel_at_column (rendering : start.1.rendering = true) (visible : line ≤ 239)
    (scanline : start.1.raster.scanline.toNat = Raster.lineBefore line)
    (dot : start.1.raster.dot = 321) (fine : start.1.scroll.fineX ≤ 7) {column : Nat}
    (inside : column < 256) :
    (∃ count next, count < 341 ∧ Dots start count next ∧
      next.1.raster.scanline.toNat = line ∧ next.1.raster.dot.toNat = column + 1) ∧
    ∀ count next, count < 341 → Dots start count next →
      next.1.raster.scanline.toNat = line → next.1.raster.dot.toNat = column + 1 →
      (next.1.backgroundPixel next.1.raster.column).toNat =
        if start.1.mask.toNat.testBit 3 = true ∧
            (8 ≤ column ∨ start.1.mask.toNat.testBit 1 = true) then
          start.1.setup.tilePixel start.2.view
            (start.1.scroll.right ((column + start.1.scroll.fineX.toNat) / 8)).v
            ((column + start.1.scroll.fineX.toNat) % 8)
        else 0 := by
  have now : start.1.raster.dot.toNat = 321 := by rw [dot]; rfl
  have place : start.1.raster.place = Raster.lineBefore line * 341 + 321 := by
    rw [Raster.place, scanline, now]
  have early : start.1.raster.place < Raster.lastDot := by
    rw [place]
    unfold Raster.lineBefore Raster.lastDot
    split <;> omega
  have valid : start.1.raster.valid := by
    apply Raster.valid_of_toNat_lt
    · rw [scanline]
      unfold Raster.lineBefore
      split <;> omega
    · omega
  constructor
  · have length := start.1.raster.frameLength_cases
    have ahead : line * 341 + (column + 1) < Raster.lastDot := by
      unfold Raster.lastDot
      omega
    obtain ⟨count, next, dots, reached, here, drawn⟩ :=
      Dots.exists_at start rendering valid early (by omega) ahead
    refine ⟨count, next, ?_, dots, here, drawn⟩
    unfold Raster.lineBefore at place
    split at place <;> omega
  · intro count next short dots here column
    exact dots.backgroundPixel_toNat rendering visible scanline now fine short inside here column

/-- A unit before the first line of an odd frame. The line starts in the last column of a
nametable, and every tile has the last palette. -/
def atFirstTile : Ppu where
  raster := { scanline := 261, dot := 321, oddFrame := true }
  mask := 0x0A
  scroll := { v := 0x001F, fineX := 3 }
  nametables := Vector.replicate 0x1000 0xFF

/-- The sixth column belongs to the first tile of the nametable to the right. -/
theorem backgroundPixel_at_column_five :
    atFirstTile.rendering = true ∧ atFirstTile.raster.scanline.toNat = Raster.lineBefore 0 ∧
      atFirstTile.raster.dot = 321 ∧ atFirstTile.scroll.fineX ≤ 7 ∧
      (∃ count next, count < 341 ∧ Dots (atFirstTile, .idle) count next ∧
        next.1.raster.scanline.toNat = 0 ∧ next.1.raster.dot.toNat = 5 + 1) ∧
      ∀ count next, count < 341 → Dots (atFirstTile, .idle) count next →
        next.1.raster.scanline.toNat = 0 → next.1.raster.dot.toNat = 5 + 1 →
        (next.1.backgroundPixel next.1.raster.column).toNat = 12 := by
  have pixel : atFirstTile.setup.tilePixel Cartridge.idle.view
      (atFirstTile.scroll.right ((5 + atFirstTile.scroll.fineX.toNat) / 8)).v
      ((5 + atFirstTile.scroll.fineX.toNat) % 8) = 12 := by
    decide +kernel
  have switched : atFirstTile.mask.toNat.testBit 3 = true ∧
      (8 ≤ 5 ∨ atFirstTile.mask.toNat.testBit 1 = true) := by
    decide
  obtain ⟨reached, shown⟩ := @backgroundPixel_at_column (atFirstTile, .idle) 0 rfl (by decide) rfl
    rfl (by decide) 5 (by decide)
  refine ⟨rfl, rfl, rfl, by decide, reached, fun count next short dots here now => ?_⟩
  rw [shown count next short dots here now, if_pos switched, pixel]

end Ppu

end Nes
