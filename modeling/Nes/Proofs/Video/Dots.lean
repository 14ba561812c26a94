import Nes.Proofs.Video.Dot

/-!
Runs of dots without access to the registers. What no dot changes, no run changes, and the number
of dots determines the unit, whatever the cartridge does unseen. While the picture is drawn this
number also tells the place: the count goes on to the end of the frame, which is one dot early if
the frame is odd, and starts again there.
-/

namespace Nes

/-- The length of a frame that is drawn. -/
def Raster.frameLength (raster : Raster) : Nat :=
  if raster.oddFrame then lastDot else dotsPerFrame

theorem Raster.frameLength_cases (raster : Raster) :
    raster.oddFrame = true ∧ raster.frameLength = 89341 ∨
      raster.oddFrame = false ∧ raster.frameLength = 89342 := by
  unfold frameLength lastDot dotsPerFrame
  cases raster.oddFrame <;> simp

namespace Ppu

/-- A number of dots one after the other. Between them the cartridge may do what the unit cannot
see, such as counting cycles. -/
inductive Dots (start : Ppu × Cartridge) : Nat → Ppu × Cartridge → Prop where
  | start : Dots start 0 start
  | dot {count : Nat} {ppu : Ppu} {cart : Cartridge} (before : Dots start count (ppu, cart)) :
    Dots start (count + 1) (ppu.step cart)
  | unseen {count : Nat} {ppu : Ppu} {cart other : Cartridge}
    (before : Dots start count (ppu, cart)) (same : other.view = cart.view) :
    Dots start count (ppu, other)

/-- A number of dots one right after the other. -/
def afterDots (start : Ppu × Cartridge) : Nat → Ppu × Cartridge
  | 0 => start
  | count + 1 => (afterDots start count).1.step (afterDots start count).2

variable {start next : Ppu × Cartridge} {count : Nat}

namespace Dots

theorem afterDots (start : Ppu × Cartridge) : ∀ count, Dots start count (afterDots start count)
  | 0 => .start
  | count + 1 => (afterDots start count).dot

theorem setup (dots : Dots start count next) : next.1.setup = start.1.setup := by
  induction dots with
  | start => rfl
  | dot before ih => exact (step_setup _ _).trans ih
  | unseen before same ih => exact ih

theorem view (dots : Dots start count next) : next.2.view = start.2.view := by
  induction dots with
  | start => rfl
  | dot before ih => exact (step_view _ _).trans ih
  | unseen before same ih => exact same.trans ih

/-- What the cartridge does unseen between the dots makes no difference to the unit. -/
theorem unit_eq (dots : Dots start count next) : next.1 = (Ppu.afterDots start count).1 := by
  induction dots with
  | start => rfl
  | @dot count ppu cart before ih =>
    have view : cart.view = (Ppu.afterDots start count).2.view :=
      before.view.trans (Dots.afterDots start count).view.symm
    rw [Ppu.afterDots, ← (ih : ppu = _), step_congr view]
  | unseen before same ih => exact ih

theorem rendering (dots : Dots start count next) : next.1.rendering = start.1.rendering := by
  have mask : next.1.mask = start.1.mask := congrArg Setup.mask dots.setup
  rw [Ppu.rendering, mask]
  rfl

/-- Where a number of dots leads while the picture is drawn. -/
theorem place (dots : Dots start count next) (rendering : start.1.rendering = true)
    (valid : start.1.raster.valid) (early : start.1.raster.place < Raster.lastDot)
    (short : start.1.raster.place + count < start.1.raster.frameLength + Raster.lastDot) :
    next.1.raster.valid ∧
      (if start.1.raster.place + count < start.1.raster.frameLength then
        next.1.raster.place = start.1.raster.place + count ∧
          next.1.raster.oddFrame = start.1.raster.oddFrame
      else next.1.raster.place + start.1.raster.frameLength = start.1.raster.place + count) := by
  have length := start.1.raster.frameLength_cases
  unfold Raster.lastDot at early short
  induction dots with
  | start =>
    have within : start.1.raster.place + 0 < start.1.raster.frameLength := by omega
    rw [if_pos within, Nat.add_zero]
    exact ⟨valid, rfl, rfl⟩
  | @dot count ppu cart before ih =>
    obtain ⟨(inside : ppu.raster.valid = true), here⟩ := ih (by omega)
    dsimp only at here
    obtain ⟨moved, parity⟩ := Raster.advance_place inside true
    have skips := Raster.skipsDot_iff inside true
    have raster : (ppu.step cart).1.raster.place = (ppu.raster.advance true).place ∧
        (ppu.step cart).1.raster.oddFrame = (ppu.raster.advance true).oddFrame := by
      rw [step_raster, before.rendering, rendering]
      exact ⟨rfl, rfl⟩
    refine ⟨?_, ?_⟩
    · rw [step_raster]
      exact Raster.valid_advance inside _
    · rw [raster.1, raster.2]
      unfold Raster.lastDot at skips parity
      unfold Raster.dotsPerFrame at moved
      cases skip : ppu.raster.skipsDot true with
      | true =>
        -- Only an odd frame leaves out a dot, so this is the end of the frame that began the run.
        obtain ⟨last, odd, -⟩ := skips.mp skip
        rw [skip, if_pos rfl] at moved
        split at here
        · have even : start.1.raster.oddFrame ≠ false := by simp [← here.2, odd]
          rcases length with length | length
          · rw [if_neg (by omega)]
            omega
          · exact absurd length.1 even
        · omega
      | false =>
        -- At the end of the frame the count starts again; a second end is out of reach.
        have last : ¬ (ppu.raster.place + 1 = 89341 ∧ ppu.raster.oddFrame = true) := fun last =>
          Bool.false_ne_true (skip.symm.trans (skips.mpr ⟨last.1, last.2, rfl⟩))
        rw [skip, if_neg Bool.false_ne_true] at moved
        split at here
        · obtain ⟨here, same⟩ := here
          rw [same] at last
          split
          · exact ⟨by omega, (parity skip (by omega)).trans same⟩
          · rcases length with ⟨odd, length⟩ | ⟨even, length⟩
            · exact absurd ⟨by omega, odd⟩ last
            · omega
        · rw [if_neg (by omega)]
          omega
  | unseen before same ih => exact ih short

/-- The drawn picture comes to every place that no frame leaves out, in this frame or in the
next. -/
theorem exists_at (start : Ppu × Cartridge) (rendering : start.1.rendering = true)
    (valid : start.1.raster.valid) (early : start.1.raster.place < Raster.lastDot)
    {scanline dot : Nat} (inside : dot < 341) (ahead : scanline * 341 + dot < Raster.lastDot) :
    ∃ count next, Dots start count next ∧
      (start.1.raster.place + count = scanline * 341 + dot ∨
        scanline * 341 + dot < start.1.raster.place ∧
          start.1.raster.place + count = scanline * 341 + dot + start.1.raster.frameLength) ∧
      next.1.raster.scanline.toNat = scanline ∧ next.1.raster.dot.toNat = dot := by
  have length := start.1.raster.frameLength_cases
  by_cases later : start.1.raster.place ≤ scanline * 341 + dot
  · obtain ⟨count, reached⟩ := Nat.exists_eq_add_of_le later
    have dots := Dots.afterDots start count
    obtain ⟨within, here⟩ := dots.place rendering valid early (by omega)
    unfold Raster.lastDot at ahead
    rw [if_pos (by omega)] at here
    refine ⟨count, _, dots, .inl reached.symm, ?_⟩
    exact (Raster.place_eq_iff within inside).mp (here.1.trans reached.symm)
  · obtain ⟨count, reached⟩ : ∃ count, start.1.raster.place + count =
        scanline * 341 + dot + start.1.raster.frameLength := by
      unfold Raster.lastDot at early
      exact ⟨scanline * 341 + dot + start.1.raster.frameLength - start.1.raster.place, by omega⟩
    have dots := Dots.afterDots start count
    obtain ⟨within, here⟩ := dots.place rendering valid early (by omega)
    rw [if_neg (by omega)] at here
    refine ⟨count, _, dots, .inr ⟨by omega, reached⟩, ?_⟩
    exact (Raster.place_eq_iff within inside).mp (by omega)

end Dots

end Ppu

end Nes
