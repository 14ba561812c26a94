import Nes.Proofs.Cartridge.View
import Nes.Proofs.Video.Place
import Nes.Proofs.Video.Scroll

/-!
What one dot does, part by part. Each phase of a dot is described by the fields that it may change;
from these follow what no dot changes, and how a dot of a drawn line moves the scroll address.
-/

namespace Nes

/-- Where a tile is complete: the last of its eight dots. -/
def Raster.endsTile (raster : Raster) : Bool :=
  (raster.visibleDot || raster.dotIn 321 336) && raster.dot % 8 == 0

theorem Raster.endsTile_iff {raster : Raster} :
    raster.endsTile = true ↔
      (1 ≤ raster.dot.toNat ∧ raster.dot.toNat ≤ 256 ∨
        321 ≤ raster.dot.toNat ∧ raster.dot.toNat ≤ 336) ∧ raster.dot.toNat % 8 = 0 := by
  have eighth : (raster.dot % 8 == 0) = true ↔ raster.dot.toNat % 8 = 0 := by
    rw [beq_iff_eq, ← UInt16.toNat_inj, UInt16.toNat_mod]
    rfl
  rw [endsTile, Bool.and_eq_true, Bool.or_eq_true, visibleDot_iff, dotIn_iff, eighth]
  rfl

/-- The scroll address after a dot of a drawn line. -/
def Scroll.afterDot (scroll : Scroll) (raster : Raster) : Scroll :=
  let tile := if raster.endsTile then scroll.incrementX else scroll
  let line :=
    if raster.dot == 256 then tile.incrementY
    else if raster.dot == 257 then tile.copyX
    else tile
  if raster.preRenderLine && raster.dotIn 280 304 then line.copyY else line

/-- Only the current address moves. -/
theorem Scroll.afterDot_kept (scroll : Scroll) (raster : Raster) :
    (scroll.afterDot raster).t = scroll.t ∧ (scroll.afterDot raster).fineX = scroll.fineX := by
  simp only [afterDot]
  repeat' split
  all_goals simp [copyX, copyY, incrementX_kept, incrementY_kept]

/-- The count of vertical blanks has no part in where a dot leads. -/
theorem Raster.advance_frameCount (raster : Raster) (frameCount : UInt64) (rendering : Bool) :
    { raster with frameCount }.advance rendering =
      { raster.advance rendering with frameCount } := by
  have skips : { raster with frameCount }.skipsDot rendering = raster.skipsDot rendering := rfl
  simp only [advance, skips]
  repeat' split
  all_goals rfl

namespace Ppu

variable (ppu : Ppu) (cart : Cartridge)

/-! ### Reads -/

/-- What a dot does not change: control and mask, the address and the fine scroll for later, object
memory, nametables and colours. -/
structure Setup where
  ctrl : UInt8
  mask : UInt8
  t : UInt16
  fineX : UInt8
  oam : Oam
  nametables : Vector UInt8 0x1000
  palette : Palette

def setup : Setup where
  ctrl := ppu.ctrl
  mask := ppu.mask
  t := ppu.scroll.t
  fineX := ppu.scroll.fineX
  oam := ppu.oam
  nametables := ppu.nametables
  palette := ppu.palette

/-- The byte that a fetch brings. -/
def Setup.byteAt (setup : Setup) (view : (UInt16 → UInt8) × Mirroring) (address : UInt16) : UInt8 :=
  let address := address &&& 0x3FFF
  if address < 0x2000 then view.1 address
  else if address < 0x3F00 then
    have := view.2.nametableOffset_lt address
    setup.nametables[view.2.nametableOffset address]
  else setup.palette.read address

theorem readVram_byte (address : UInt16) :
    (ppu.readVram cart address).1 = ppu.setup.byteAt cart.view address := by
  have seen (place : UInt16) : (cart.observe place).read place = cart.view.1 place :=
    congrFun (congrArg Prod.fst (cart.observe_view place)) place
  simp only [readVram, Setup.byteAt, seen]
  repeat' split
  all_goals rfl

theorem readVram_view (address : UInt16) : (ppu.readVram cart address).2.view = cart.view := by
  simp only [readVram]
  split
  · exact cart.observe_view _
  · split <;> rfl

/-! ### Phases -/

theorem fetchTile_frame :
    (ppu.fetchTile cart).1 =
        { ppu with
          background := (ppu.fetchTile cart).1.background
          scroll := if ppu.raster.dot % 8 == 0 then ppu.scroll.incrementX else ppu.scroll } ∧
      (ppu.fetchTile cart).2.view = cart.view := by
  have ends : (ppu.raster.dot % 8 == 0) = ((ppu.raster.dot % 8).toNat == 0) := by
    rw [Bool.eq_iff_iff, beq_iff_eq, beq_iff_eq, ← UInt16.toNat_inj]
    rfl
  simp only [fetchTile, ends]
  generalize (ppu.raster.dot % 8).toNat = phase
  split
  case h_5 => exact ⟨rfl, rfl⟩
  case h_6 last =>
    have inside : (phase == 0) = false := beq_false_of_ne last
    simp only [inside, Bool.false_eq_true, if_false, and_true]
  all_goals exact ⟨rfl, readVram_view _ _ _⟩

theorem tileDot_frame :
    (ppu.tileDot cart).1 =
        { ppu with
          background := (ppu.tileDot cart).1.background
          scroll := if ppu.raster.endsTile then ppu.scroll.incrementX else ppu.scroll } ∧
      (ppu.tileDot cart).2.view = cart.view := by
  obtain ⟨tile, seen⟩ := ppu.fetchTile_frame cart
  unfold tileDot Raster.endsTile
  cases (ppu.raster.visibleDot || ppu.raster.dotIn 321 336) with
  | true => exact ⟨tile, seen⟩
  | false => exact ⟨rfl, rfl⟩

/-- The sprites after the end of the picture's line has been looked at. -/
def evaluatedSprites : Sprites :=
  if ppu.raster.dot == 257 then
    if ppu.raster.visibleLine then
      ppu.sprites.select ppu.oam ppu.raster.scanline ppu.spriteHeight
    else { ppu.sprites with count := 0 }
  else ppu.sprites

/-- The status after the end of the picture's line has been looked at. -/
def evaluatedStatus : UInt8 :=
  if ppu.raster.dot == 257 && ppu.raster.visibleLine &&
      Sprites.overflows ppu.oam ppu.raster.scanline ppu.spriteHeight then
    ppu.status ||| overflowFlag
  else ppu.status

theorem lineEnd_frame :
    ppu.lineEnd =
      { ppu with
        scroll :=
          if ppu.raster.dot == 256 then ppu.scroll.incrementY
          else if ppu.raster.dot == 257 then ppu.scroll.copyX
          else ppu.scroll
        sprites := ppu.evaluatedSprites
        status := ppu.evaluatedStatus } := by
  unfold lineEnd evaluatedSprites evaluatedStatus
  split
  · rename_i down
    have inside : (ppu.raster.dot == 257) = false := by
      rw [eq_of_beq down]
      rfl
    simp only [inside, Bool.false_and, Bool.false_eq_true, if_false]
  · cases last : ppu.raster.dot == 257 with
    | true =>
      simp only [evaluateSprites, if_true, Bool.true_and]
      cases ppu.raster.visibleLine with
      | true =>
        simp only [if_true, Bool.true_and]
        rfl
      | false => rfl
    | false => rfl

theorem spriteDot_frame :
    (ppu.spriteDot cart).1 =
        { ppu with
          sprites := (ppu.spriteDot cart).1.sprites
          oamAddr := (ppu.spriteDot cart).1.oamAddr } ∧
      (ppu.spriteDot cart).2.view = cart.view := by
  simp only [spriteDot, fetchSprite]
  split
  · split
    case h_3 => exact ⟨rfl, rfl⟩
    all_goals exact ⟨rfl, readVram_view _ _ _⟩
  · exact ⟨rfl, rfl⟩

theorem frameStart_frame :
    ppu.frameStart =
      { ppu with
        scroll :=
          if ppu.raster.preRenderLine && ppu.raster.dotIn 280 304 then ppu.scroll.copyY
          else ppu.scroll } := by
  unfold frameStart
  split <;> rfl

theorem markVblank_frame :
    ppu.markVblank =
      { ppu with
        raster := { ppu.raster with
          frameCount :=
            if ppu.raster.startsVblank then ppu.raster.frameCount + 1
            else ppu.raster.frameCount }
        frameComplete := ppu.frameComplete || ppu.raster.startsVblank
        status := ppu.markVblank.status
        nmiPending := ppu.markVblank.nmiPending
        suppressVblank := ppu.markVblank.suppressVblank } := by
  cases starts : ppu.raster.startsVblank with
  | true =>
    simp only [markVblank, starts, if_true, startVblank, Bool.or_true]
    split <;> rfl
  | false =>
    simp only [markVblank, starts, Bool.false_eq_true, if_false, Bool.or_false]
    split <;> rfl

/-! ### Fetches -/

theorem fetchDot_eq :
    ppu.fetchDot cart =
      (((ppu.tileDot cart).1.lineEnd.spriteDot (ppu.tileDot cart).2).1.frameStart,
        ((ppu.tileDot cart).1.lineEnd.spriteDot (ppu.tileDot cart).2).2) := by
  unfold fetchDot
  rfl

/-- The fetches of a dot: latches, scroll address and sprites move on, and the overflow flag may be
set. -/
theorem fetchDot_frame :
    (ppu.fetchDot cart).1 =
        { ppu with
          background := (ppu.tileDot cart).1.background
          scroll := ppu.scroll.afterDot ppu.raster
          sprites := (ppu.fetchDot cart).1.sprites
          oamAddr := (ppu.fetchDot cart).1.oamAddr
          status := ppu.evaluatedStatus } ∧
      (ppu.fetchDot cart).2.view = cart.view := by
  obtain ⟨tile, tileView⟩ := ppu.tileDot_frame cart
  have line := (ppu.tileDot cart).1.lineEnd_frame
  obtain ⟨sprite, spriteView⟩ := (ppu.tileDot cart).1.lineEnd.spriteDot_frame (ppu.tileDot cart).2
  have start := ((ppu.tileDot cart).1.lineEnd.spriteDot (ppu.tileDot cart).2).1.frameStart_frame
  rw [fetchDot_eq]
  refine ⟨?_, spriteView.trans tileView⟩
  rw [start, sprite, line, tile]
  rfl

/-! ### Dots -/

/-- The unit once the pixel of the present dot is shown, while the picture is drawn. -/
def shown : Ppu := if ppu.raster.visibleLine && ppu.raster.visibleDot then ppu.renderPixel else ppu

theorem shown_frame :
    ppu.shown = { ppu with status := ppu.shown.status, frame := ppu.shown.frame } := by
  unfold shown
  split <;> rfl

theorem blankDot_frame : ppu.blankDot = { ppu with frame := ppu.blankDot.frame } := by
  unfold blankDot
  split <;> rfl

/-- The unit before time moves on. -/
def drawn : Ppu × Cartridge := if ppu.rendering then ppu.renderDot cart else (ppu.blankDot, cart)

theorem drawn_frame :
    (ppu.drawn cart).1 =
        { ppu with
          background := (ppu.drawn cart).1.background
          scroll := if ppu.drawing then ppu.scroll.afterDot ppu.raster else ppu.scroll
          sprites := (ppu.drawn cart).1.sprites
          oamAddr := (ppu.drawn cart).1.oamAddr
          status := (ppu.drawn cart).1.status
          frame := (ppu.drawn cart).1.frame } ∧
      (ppu.drawn cart).2.view = cart.view := by
  have pixel := ppu.shown_frame
  have place : ppu.shown.raster = ppu.raster := by rw [pixel]
  obtain ⟨fetched, seen⟩ := ppu.shown.fetchDot_frame cart
  unfold drawn drawing
  cases ppu.rendering with
  | false =>
    rw [if_neg Bool.false_ne_true, blankDot_frame]
    exact ⟨rfl, rfl⟩
  | true =>
    have rendered : ppu.renderDot cart =
        if ppu.raster.renderLine then ppu.shown.fetchDot cart else (ppu.shown, cart) := by
      rw [← place]
      rfl
    rw [if_pos rfl, rendered]
    cases ppu.raster.renderLine with
    | false =>
      rw [if_neg Bool.false_ne_true, pixel]
      exact ⟨rfl, rfl⟩
    | true =>
      rw [if_pos rfl]
      refine ⟨?_, seen⟩
      rw [fetched, pixel]
      rfl

theorem step_eq_drawn :
    ppu.step cart = ((ppu.drawn cart).1.markVblank.advance, (ppu.drawn cart).2) := rfl

theorem step_setup : (ppu.step cart).1.setup = ppu.setup := by
  obtain ⟨t, fineX⟩ := ppu.scroll.afterDot_kept ppu.raster
  rw [step_eq_drawn, markVblank_frame, (ppu.drawn_frame cart).1]
  simp only [advance, setup]
  split
  · rw [t, fineX]
  · rfl

theorem step_view : (ppu.step cart).2.view = cart.view := (ppu.drawn_frame cart).2

theorem step_raster :
    (ppu.step cart).1.raster =
      { ppu.raster.advance ppu.rendering with
        frameCount :=
          if ppu.raster.startsVblank then ppu.raster.frameCount + 1
          else ppu.raster.frameCount } := by
  rw [step_eq_drawn, markVblank_frame, (ppu.drawn_frame cart).1]
  exact ppu.raster.advance_frameCount _ ppu.rendering

theorem step_frameComplete :
    (ppu.step cart).1.frameComplete = (ppu.frameComplete || ppu.raster.startsVblank) := by
  rw [step_eq_drawn, markVblank_frame, (ppu.drawn_frame cart).1]
  rfl

/-- A dot of a drawn line moves the scroll address as its place says. -/
theorem step_scroll (drawing : ppu.drawing = true) :
    (ppu.step cart).1.scroll = ppu.scroll.afterDot ppu.raster := by
  rw [step_eq_drawn, markVblank_frame, (ppu.drawn_frame cart).1, if_pos drawing]
  rfl

/-- While the picture is drawn, the scroll address moves on the lines that are drawn. -/
theorem step_scroll_of_rendering (rendering : ppu.rendering = true) :
    (ppu.step cart).1.scroll =
      if ppu.raster.renderLine then ppu.scroll.afterDot ppu.raster else ppu.scroll := by
  have drawing : ppu.drawing = ppu.raster.renderLine := by
    rw [Ppu.drawing, rendering, Bool.true_and]
  rw [← drawing, step_eq_drawn, markVblank_frame, (ppu.drawn_frame cart).1]
  rfl

/-! ### Dots of a drawn line -/

variable {ppu} in
theorem drawing_iff :
    ppu.drawing = true ↔ ppu.rendering = true ∧ ppu.raster.renderLine = true :=
  Bool.and_eq_true_iff

theorem drawn_of_drawing (drawing : ppu.drawing = true) :
    ppu.drawn cart = ppu.shown.fetchDot cart := by
  obtain ⟨rendering, line⟩ := drawing_iff.mp drawing
  have shown : ppu.shown.raster.renderLine = true := by
    rw [shown_frame]
    exact line
  rw [drawn, if_pos rendering]
  change (if ppu.shown.raster.renderLine then ppu.shown.fetchDot cart else (ppu.shown, cart)) = _
  rw [if_pos shown]

/-- Off the drawn lines the cartridge is left alone. -/
theorem drawn_of_idle (idle : ¬ ppu.drawing = true) :
    ppu.drawn cart = (if ppu.rendering then ppu.shown else ppu.blankDot, cart) := by
  unfold drawn
  split
  · rename_i rendering
    have line : ¬ ppu.shown.raster.renderLine = true := by
      rw [shown_frame]
      exact fun line => idle (drawing_iff.mpr ⟨rendering, line⟩)
    change (if ppu.shown.raster.renderLine then ppu.shown.fetchDot cart else (ppu.shown, cart)) = _
    rw [if_neg line]
  · rfl

theorem tileDot_idle (idle : (ppu.raster.visibleDot || ppu.raster.dotIn 321 336) = false) :
    ppu.tileDot cart = (ppu, cart) := by
  rw [tileDot, idle, if_neg Bool.false_ne_true]

/-- A dot of a drawn line does to the latches what the tile fetch of its place does. -/
theorem step_background (drawing : ppu.drawing = true) :
    (ppu.step cart).1.background = (ppu.tileDot cart).1.background := by
  have fetched : (ppu.step cart).1.background = (ppu.shown.tileDot cart).1.background := by
    rw [step_eq_drawn, markVblank_frame, drawn_of_drawing ppu cart drawing,
      (ppu.shown.fetchDot_frame cart).1]
    rfl
  rw [fetched, shown_frame]
  simp only [tileDot, fetchTile]
  repeat' split
  all_goals rfl

/-- A dot of a drawn line shows its pixel. -/
theorem step_frameBuffer (drawing : ppu.drawing = true) :
    (ppu.step cart).1.frame = ppu.shown.frame := by
  rw [step_eq_drawn, markVblank_frame, drawn_of_drawing ppu cart drawing,
    (ppu.shown.fetchDot_frame cart).1]
  rfl

/-- On a visible line the status gains what the pixel and the look at the line's end bring. -/
theorem step_status (drawing : ppu.drawing = true) (visible : ppu.raster.visibleLine = true) :
    (ppu.step cart).1.status = ppu.shown.evaluatedStatus := by
  obtain ⟨starts, ends⟩ := Raster.quiet_of_visibleLine visible
  have unmarked (next : Ppu) (same : next.raster = ppu.raster) : next.markVblank = next := by
    simp only [markVblank, same, starts, ends, Bool.false_eq_true, if_false]
  have place : (ppu.drawn cart).1.raster = ppu.raster :=
    (congrArg Ppu.raster (ppu.drawn_frame cart).1 :)
  have marked : (ppu.step cart).1.status = (ppu.drawn cart).1.markVblank.status := rfl
  rw [marked, unmarked _ place, drawn_of_drawing ppu cart drawing]
  exact (congrArg Ppu.status (ppu.shown.fetchDot_frame cart).1 :)

/-- Which pattern bytes a dot brings to the sprites does not depend on the rest of the unit. -/
theorem fetchSprite_congr {first second : Ppu} {left right : Cartridge}
    (setup : first.setup = second.setup) (place : first.raster = second.raster)
    (sprites : first.sprites = second.sprites) (view : left.view = right.view) :
    (first.fetchSprite left).1.sprites = (second.fetchSprite right).1.sprites := by
  have ctrl : first.ctrl = second.ctrl := congrArg Setup.ctrl setup
  have slot : first.fetchSlot = second.fetchSlot := by simp only [fetchSlot, place]
  have tall : first.tallSprites = second.tallSprites := by simp only [tallSprites, ctrl]
  have table : first.spriteTable = second.spriteTable := by simp only [spriteTable, ctrl]
  simp only [fetchSprite, slot, tall, table, place, sprites]
  split <;> simp only [readVram_byte, setup, view, sprites]

/-- The first of the sprite dots fetches nothing. -/
theorem spriteDot_sprites :
    (ppu.spriteDot cart).1.sprites =
      if ppu.raster.dotIn 258 320 then (ppu.fetchSprite cart).1.sprites else ppu.sprites := by
  have fetched : (fetchSprite { ppu with oamAddr := 0 } cart).1.sprites =
      (ppu.fetchSprite cart).1.sprites := fetchSprite_congr rfl rfl rfl rfl
  have first (here : ppu.raster.dot = 257) :
      (ppu.fetchSprite cart).1.sprites = ppu.sprites := by
    have phase : ((ppu.raster.dot - 257) % 8).toNat = 0 := by rw [here]; rfl
    simp only [fetchSprite, phase]
  unfold spriteDot
  by_cases inside : ppu.raster.dotIn 257 320 = true
  · rw [if_pos inside, fetched]
    split
    · rfl
    · rename_i outside
      rw [Raster.dotIn_iff] at inside outside
      refine first (UInt16.toNat_inj.mp ?_)
      change _ = 257
      simp only [UInt16.reduceToNat] at inside outside
      omega
  · rw [if_neg inside]
    split
    · rename_i within
      rw [Raster.dotIn_iff] at inside within
      simp only [UInt16.reduceToNat] at inside within
      omega
    · rfl

/-- On a drawn line sprites change when the next line's are selected and while their patterns are
fetched. -/
theorem step_sprites (drawing : ppu.drawing = true) :
    (ppu.step cart).1.sprites =
      if ppu.raster.dotIn 258 320 then (ppu.fetchSprite cart).1.sprites
      else ppu.evaluatedSprites := by
  obtain ⟨tile, view⟩ := ppu.shown.tileDot_frame cart
  have pixel := ppu.shown_frame
  have line := (ppu.shown.tileDot cart).1.lineEnd_frame
  have stepped : (ppu.step cart).1.sprites = (ppu.drawn cart).1.sprites :=
    (congrArg Ppu.sprites (ppu.drawn cart).1.markVblank_frame :)
  have place : (ppu.shown.tileDot cart).1.lineEnd.raster = ppu.raster := by
    rw [line, tile, pixel]
  have setup : (ppu.shown.tileDot cart).1.lineEnd.setup = ppu.setup := by
    rw [Ppu.setup, line, tile, pixel]
    simp only [Ppu.setup]
    repeat' split
    all_goals simp only [Scroll.incrementX_kept, Scroll.incrementY_kept, Scroll.copyX]
  have selected : (ppu.shown.tileDot cart).1.lineEnd.sprites = ppu.evaluatedSprites := by
    rw [line, tile, pixel]
    rfl
  rw [stepped, drawn_of_drawing ppu cart drawing, fetchDot_eq, frameStart_frame]
  simp only
  rw [spriteDot_sprites, place, selected]
  split
  · rename_i inside
    have waiting : ppu.evaluatedSprites = ppu.sprites := by
      have later : ¬ (ppu.raster.dot == 257) = true := by
        rw [Raster.dotIn_iff] at inside
        apply Raster.dot_ne
        simp only [UInt16.reduceToNat] at inside ⊢
        omega
      rw [evaluatedSprites, if_neg later]
    exact fetchSprite_congr setup place (selected.trans waiting) view
  · rfl

/-! ### Cartridges that look alike -/

variable {ppu} {left right : Cartridge}

private theorem tileDot_congr (view : left.view = right.view) :
    (ppu.tileDot left).1 = (ppu.tileDot right).1 := by
  simp only [tileDot, fetchTile]
  split
  · split <;> simp only [readVram_byte, view]
  · rfl

private theorem spriteDot_congr (view : left.view = right.view) :
    (ppu.spriteDot left).1 = (ppu.spriteDot right).1 := by
  simp only [spriteDot, fetchSprite]
  split
  · split <;> simp only [readVram_byte, view]
  · rfl

/-- All that a dot makes of the unit depends on the cartridge through what can be seen of it. -/
theorem step_congr (view : left.view = right.view) : (ppu.step left).1 = (ppu.step right).1 := by
  have tile := @tileDot_congr ppu.shown _ _ view
  have seen : (ppu.shown.tileDot left).2.view = (ppu.shown.tileDot right).2.view :=
    (ppu.shown.tileDot_frame left).2.trans (view.trans (ppu.shown.tileDot_frame right).2.symm)
  have same : (ppu.drawn left).1 = (ppu.drawn right).1 := by
    by_cases drawing : ppu.drawing = true
    · rw [drawn_of_drawing ppu left drawing, drawn_of_drawing ppu right drawing, fetchDot_eq,
        fetchDot_eq, tile, spriteDot_congr seen]
    · rw [drawn_of_idle ppu left drawing, drawn_of_idle ppu right drawing]
  rw [step_eq_drawn, step_eq_drawn, same]

end Ppu
end Nes
