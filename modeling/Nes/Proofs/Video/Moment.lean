import Nes.Proofs.Video.Dot
import Nes.Video.Ppu.Registers

/-!
How time passes for the picture unit. Only dots move its place, and only the vertical blank sets the
latch that tells of a complete picture, once for each time the place comes by. As frames are long
and only one dot of a frame may be left out, a vertical blank is followed by no other for long.
-/

namespace Nes

/-! ### Until the vertical blank -/

namespace Raster

/-- Dots before the one at which the vertical blank begins, in frames that leave out none. -/
def untilVblank (raster : Raster) : Nat :=
  (vblankPlace + dotsPerFrame - raster.place) % dotsPerFrame

/-- The place after a dot, with the vertical blanks counted. -/
def passDot (raster : Raster) (rendering : Bool) : Raster :=
  { raster.advance rendering with
    frameCount := if raster.startsVblank then raster.frameCount + 1 else raster.frameCount }

variable {raster : Raster}

theorem untilVblank_lt (raster : Raster) : raster.untilVblank < dotsPerFrame :=
  Nat.mod_lt _ (by decide)

theorem startsVblank_iff_until (valid : raster.valid) :
    raster.startsVblank = true ↔ raster.untilVblank = 0 := by
  have bound := place_lt valid
  rw [startsVblank_iff valid]
  unfold untilVblank vblankPlace
  unfold dotsPerFrame at *
  omega

/-- A dot brings the vertical blank nearer, by two dots if one is left out; the dot at which it
begins is followed by a whole frame. -/
theorem passDot_until (valid : raster.valid) (rendering : Bool) :
    if raster.startsVblank then (raster.passDot rendering).untilVblank = 89341
    else (raster.passDot rendering).untilVblank + 1 ≤ raster.untilVblank ∧
      raster.untilVblank ≤ (raster.passDot rendering).untilVblank + 2 := by
  have bound := place_lt valid
  have starts := startsVblank_iff valid
  have skips := skipsDot_iff valid rendering
  have moved : (raster.passDot rendering).place =
      if raster.skipsDot rendering then 0 else (raster.place + 1) % dotsPerFrame :=
    (advance_place valid rendering).1
  unfold untilVblank vblankPlace at *
  unfold dotsPerFrame lastDot at *
  split
  · rename_i blank
    have here := starts.mp blank
    have stays : ¬ raster.skipsDot rendering = true := by
      rw [skips]
      omega
    rw [if_neg stays] at moved
    omega
  · rename_i quiet
    rw [starts] at quiet
    split at moved
    · rename_i leaves
      have last := (skips.mp leaves).1
      omega
    · omega

end Raster

namespace Ppu

/-- Where the unit stands, and whether a picture waits for the host. -/
def moment (ppu : Ppu) : Raster × Bool := (ppu.raster, ppu.frameComplete)

/-- A number of dots between two moments. -/
inductive Passes (start : Raster × Bool) : Nat → Raster × Bool → Prop where
  | none : Passes start 0 start
  | dot {count : Nat} {raster : Raster} {waiting : Bool}
    (before : Passes start count (raster, waiting)) (rendering : Bool) :
    Passes start (count + 1) (raster.passDot rendering, waiting || raster.startsVblank)

variable {start middle next : Raster × Bool} {first second count : Nat}

theorem Passes.trans (head : Passes start first middle) (tail : Passes middle second next) :
    Passes start (first + second) next := by
  induction tail with
  | none => exact head
  | dot before rendering ih => exact ih.dot rendering

theorem Passes.valid (passes : Passes start count next) (valid : start.1.valid) :
    next.1.valid := by
  induction passes with
  | none => exact valid
  | dot before rendering ih => exact Raster.valid_advance ih rendering

/-- In less than half a frame the vertical blank begins at most once. Without it, the latch is as it
was and the blank is nearer; with it, the latch is set, one more is counted, and the next one is
still to come. -/
theorem Passes.paced (passes : Passes start count next) (valid : start.1.valid)
    (short : count ≤ 44670) :
    (next.2 = start.2 ∧ next.1.frameCount = start.1.frameCount ∧
        next.1.untilVblank + count ≤ start.1.untilVblank) ∨
      (next.2 = true ∧ next.1.frameCount = start.1.frameCount + 1 ∧
        89341 ≤ next.1.untilVblank + 2 * count) := by
  induction passes with
  | none => exact .inl ⟨rfl, rfl, Nat.le_refl _⟩
  | @dot count raster waiting before rendering ih =>
    have inside : raster.valid := before.valid valid
    have blank := Raster.startsVblank_iff_until inside
    have nearer := Raster.passDot_until inside rendering
    have counted : (raster.passDot rendering).frameCount =
        if raster.startsVblank then raster.frameCount + 1 else raster.frameCount := rfl
    rcases ih (by omega) with ⟨same, number, left⟩ | ⟨waits, number, left⟩
    · cases starts : raster.startsVblank with
      | true =>
        rw [starts, if_pos rfl] at nearer counted
        refine .inr ⟨Bool.or_true _, counted.trans (congrArg (· + 1) number), ?_⟩
        dsimp only
        omega
      | false =>
        rw [starts, if_neg Bool.false_ne_true] at nearer counted
        refine .inl ⟨(Bool.or_false _).trans same, counted.trans number, ?_⟩
        dsimp only at left ⊢
        omega
    · dsimp only at waits number left
      have quiet : raster.startsVblank = false := by
        rw [Bool.eq_false_iff, ne_eq, blank]
        omega
      rw [quiet, if_neg Bool.false_ne_true] at nearer counted
      refine .inr ⟨?_, counted.trans number, ?_⟩
      · rw [waits, Bool.true_or]
      · dsimp only
        omega

/-! ### What dots and registers do -/

variable (ppu : Ppu) (cart : Cartridge)

theorem step_moment : Passes ppu.moment 1 (ppu.step cart).1.moment := by
  rw [moment, moment, step_raster, step_frameComplete]
  exact Passes.none.dot ppu.rendering

theorem incrementAddress_moment : (ppu.incrementAddress cart).1.moment = ppu.moment := by
  unfold incrementAddress
  split <;> rfl

theorem readRegister_moment (address : UInt16) :
    (ppu.readRegister cart address).2.1.moment = ppu.moment := by
  have raced : ppu.raceStatus.moment = ppu.moment := by
    unfold raceStatus
    repeat' split
    all_goals rfl
  unfold readRegister
  split
  · exact raced
  · rfl
  · simp only [readData]
    split <;> exact incrementAddress_moment _ _
  · rfl

theorem writeRegister_moment (address : UInt16) (data : UInt8) :
    (ppu.writeRegister cart address data).1.moment = ppu.moment := by
  have written (unit : Ppu) (address : UInt16) :
      (unit.writeVram cart address data).1.moment = unit.moment := by
    simp only [writeVram]
    repeat' split
    all_goals rfl
  simp only [writeRegister]
  split
  case h_8 =>
    simp only [writeData]
    rw [incrementAddress_moment, written]
    rfl
  all_goals rfl

theorem pollNmi_moment : ppu.pollNmi.2.moment = ppu.moment := by
  unfold pollNmi
  split <;> rfl

end Ppu

end Nes
