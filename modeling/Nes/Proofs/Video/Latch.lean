import Nes.Video.Ppu.Registers
import Nes.Video.Ppu.Step

/-!
The latch that tells the host of a complete picture is written and never read: every operation of
the picture unit does the same with the latch set or cleared, and only the beginning of the vertical
blank changes it. A snapshot can therefore leave it out.
-/

namespace Nes.Ppu

/-- The same unit with the latch at a given level. -/
def latched (ppu : Ppu) (waiting : Bool) : Ppu := { ppu with frameComplete := waiting }

/-- The unit as the processor and the picture see it, whatever the latch says. -/
def unlatched (ppu : Ppu) : Ppu := ppu.latched false

variable (ppu : Ppu) (waiting : Bool) (cart : Cartridge)

/-! ### Registers -/

theorem incrementAddress_latched :
    (ppu.latched waiting).incrementAddress cart =
      ((ppu.incrementAddress cart).1.latched waiting, (ppu.incrementAddress cart).2) := by
  have drawing : (ppu.latched waiting).drawing = ppu.drawing := rfl
  simp only [incrementAddress, drawing]
  split <;> rfl

theorem readStatus_latched :
    (ppu.latched waiting).readStatus = (ppu.readStatus.1, ppu.readStatus.2.latched waiting) := by
  have raced : (ppu.latched waiting).raceStatus = ppu.raceStatus.latched waiting := by
    have raster : (ppu.latched waiting).raster = ppu.raster := rfl
    simp only [raceStatus, raster]
    repeat' split
    all_goals rfl
  simp only [readStatus, raced]
  rfl

theorem readData_latched :
    (ppu.latched waiting).readData cart =
      ((ppu.readData cart).1, (ppu.readData cart).2.1.latched waiting,
        (ppu.readData cart).2.2) := by
  have buffered (value : UInt8) : { ppu.latched waiting with readBuffer := value } =
      ({ ppu with readBuffer := value } : Ppu).latched waiting := rfl
  have scroll : (ppu.latched waiting).scroll = ppu.scroll := rfl
  simp only [readData, buffered, incrementAddress_latched]
  simp only [scroll]
  split <;> rfl

theorem readRegister_latched (address : UInt16) :
    (ppu.latched waiting).readRegister cart address =
      ((ppu.readRegister cart address).1, (ppu.readRegister cart address).2.1.latched waiting,
        (ppu.readRegister cart address).2.2) := by
  unfold readRegister
  split
  · rw [readStatus_latched]
  · rfl
  · exact ppu.readData_latched waiting cart
  · rfl

theorem writeVram_latched (address : UInt16) (data : UInt8) :
    (ppu.latched waiting).writeVram cart address data =
      ((ppu.writeVram cart address data).1.latched waiting,
        (ppu.writeVram cart address data).2) := by
  simp only [writeVram]
  repeat' split
  all_goals rfl

theorem writeRegister_latched (address : UInt16) (data : UInt8) :
    (ppu.latched waiting).writeRegister cart address data =
      ((ppu.writeRegister cart address data).1.latched waiting,
        (ppu.writeRegister cart address data).2) := by
  have driven : (ppu.latched waiting).drive data = (ppu.drive data).latched waiting := rfl
  simp only [writeRegister, driven]
  split
  case h_8 =>
    simp only [writeData, writeVram_latched, incrementAddress_latched]
    rfl
  all_goals rfl

theorem pollNmi_latched :
    (ppu.latched waiting).pollNmi = (ppu.pollNmi.1, ppu.pollNmi.2.latched waiting) := by
  have hidden : (ppu.latched waiting).nmiHidden = ppu.nmiHidden := rfl
  simp only [pollNmi, hidden]
  split <;> rfl

/-! ### Dots -/

theorem blankDot_latched : (ppu.latched waiting).blankDot = ppu.blankDot.latched waiting := by
  have raster : (ppu.latched waiting).raster = ppu.raster := rfl
  simp only [blankDot, raster]
  split <;> rfl

theorem fetchTile_latched :
    (ppu.latched waiting).fetchTile cart =
      ((ppu.fetchTile cart).1.latched waiting, (ppu.fetchTile cart).2) := by
  have raster : (ppu.latched waiting).raster = ppu.raster := rfl
  simp only [fetchTile, raster]
  split <;> rfl

theorem fetchSprite_latched :
    (ppu.latched waiting).fetchSprite cart =
      ((ppu.fetchSprite cart).1.latched waiting, (ppu.fetchSprite cart).2) := by
  have raster : (ppu.latched waiting).raster = ppu.raster := rfl
  simp only [fetchSprite, raster]
  split <;> rfl

theorem evaluateSprites_latched :
    (ppu.latched waiting).evaluateSprites = ppu.evaluateSprites.latched waiting := by
  have raster : (ppu.latched waiting).raster = ppu.raster := rfl
  simp only [evaluateSprites, raster]
  split <;> rfl

theorem lineEnd_latched : (ppu.latched waiting).lineEnd = ppu.lineEnd.latched waiting := by
  have raster : (ppu.latched waiting).raster = ppu.raster := rfl
  simp only [lineEnd, raster]
  split
  · rfl
  · split
    · exact evaluateSprites_latched { ppu with scroll := ppu.scroll.copyX } waiting
    · rfl

theorem frameStart_latched :
    (ppu.latched waiting).frameStart = ppu.frameStart.latched waiting := by
  have raster : (ppu.latched waiting).raster = ppu.raster := rfl
  simp only [frameStart, raster]
  split <;> rfl

theorem spriteDot_latched :
    (ppu.latched waiting).spriteDot cart =
      ((ppu.spriteDot cart).1.latched waiting, (ppu.spriteDot cart).2) := by
  have raster : (ppu.latched waiting).raster = ppu.raster := rfl
  simp only [spriteDot, raster]
  split
  · exact fetchSprite_latched { ppu with oamAddr := 0 } waiting cart
  · rfl

theorem tileDot_latched :
    (ppu.latched waiting).tileDot cart =
      ((ppu.tileDot cart).1.latched waiting, (ppu.tileDot cart).2) := by
  have raster : (ppu.latched waiting).raster = ppu.raster := rfl
  simp only [tileDot, raster]
  split
  · exact ppu.fetchTile_latched waiting cart
  · rfl

theorem fetchDot_latched :
    (ppu.latched waiting).fetchDot cart =
      ((ppu.fetchDot cart).1.latched waiting, (ppu.fetchDot cart).2) := by
  simp only [fetchDot, tileDot_latched, lineEnd_latched, spriteDot_latched, frameStart_latched]

theorem renderDot_latched :
    (ppu.latched waiting).renderDot cart =
      ((ppu.renderDot cart).1.latched waiting, (ppu.renderDot cart).2) := by
  have raster : (ppu.latched waiting).raster = ppu.raster := rfl
  have pixel : (ppu.latched waiting).renderPixel = ppu.renderPixel.latched waiting := rfl
  have lineOf (ppu : Ppu) : (ppu.latched waiting).raster = ppu.raster := rfl
  simp only [renderDot, raster, pixel]
  split
  · simp only [lineOf, fetchDot_latched]
    split <;> rfl
  · simp only [raster, fetchDot_latched]
    split <;> rfl

/-- The beginning of the vertical blank sets the latch; nothing else about it depends on it. -/
theorem markVblank_latched :
    (ppu.latched waiting).markVblank.unlatched = ppu.markVblank.unlatched := by
  have raster : (ppu.latched waiting).raster = ppu.raster := rfl
  have suppressed : (ppu.latched waiting).suppressVblank = ppu.suppressVblank := rfl
  simp only [markVblank, startVblank, raster, suppressed]
  repeat' split
  all_goals rfl

/-- A dot does the same whatever the latch says. -/
theorem step_latched :
    ((ppu.latched waiting).step cart).1.unlatched = (ppu.step cart).1.unlatched ∧
      ((ppu.latched waiting).step cart).2 = (ppu.step cart).2 := by
  have rendering : (ppu.latched waiting).rendering = ppu.rendering := rfl
  have marked (ppu : Ppu) : (ppu.latched waiting).markVblank.advance.unlatched =
      ppu.markVblank.advance.unlatched :=
    congrArg advance (ppu.markVblank_latched waiting)
  simp only [step, rendering, renderDot_latched, blankDot_latched]
  split <;> exact ⟨marked _, rfl⟩

end Nes.Ppu
