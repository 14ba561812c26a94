import Nes.Proofs.Video.Bounds

/-!
Places in a frame as numbers. Dots are counted from the first one of the first line, and a dot moves
the count on by one, except at the end of a frame, where it starts again; an odd frame that is drawn
ends one dot early.
-/

namespace Nes.Raster

/-- The line and the dot as numbers. -/
def position (raster : Raster) : Nat × Nat := (raster.scanline.toNat, raster.dot.toNat)

/-- How many dots of the frame lie before this place. -/
def place (raster : Raster) : Nat := raster.scanline.toNat * 341 + raster.dot.toNat

/-- The place of the dot that an odd frame leaves out. -/
def lastDot : Nat := 261 * 341 + 340

/-- The place where the vertical blank begins. -/
def vblankPlace : Nat := 241 * 341 + 1

/-- The line that is drawn before a line of the picture: the first one follows the line that
prepares the frame. -/
def lineBefore (line : Nat) : Nat := if line = 0 then 261 else line - 1

variable {raster : Raster}

theorem toNat_lt (valid : raster.valid) : raster.scanline.toNat < 262 ∧ raster.dot.toNat < 341 := by
  obtain ⟨scanline, dot⟩ := valid_iff.mp valid
  exact ⟨UInt16.lt_iff_toNat_lt.mp scanline, UInt16.lt_iff_toNat_lt.mp dot⟩

theorem valid_of_toNat_lt (scanline : raster.scanline.toNat < 262)
    (dot : raster.dot.toNat < 341) : raster.valid :=
  valid_iff.mpr ⟨UInt16.lt_iff_toNat_lt.mpr scanline, UInt16.lt_iff_toNat_lt.mpr dot⟩

theorem place_lt (valid : raster.valid) : raster.place < dotsPerFrame := by
  obtain ⟨scanline, dot⟩ := toNat_lt valid
  unfold place dotsPerFrame
  omega

theorem visibleLine_iff : raster.visibleLine = true ↔ raster.scanline.toNat < 240 := by
  rw [visibleLine, decide_eq_true_iff, UInt16.lt_iff_toNat_lt]
  rfl

theorem preRenderLine_iff : raster.preRenderLine = true ↔ raster.scanline.toNat = 261 := by
  rw [preRenderLine, preRenderScanline, beq_iff_eq, ← UInt16.toNat_inj]
  rfl

theorem renderLine_iff :
    raster.renderLine = true ↔ raster.scanline.toNat < 240 ∨ raster.scanline.toNat = 261 := by
  rw [renderLine, Bool.or_eq_true, visibleLine_iff, preRenderLine_iff]

theorem dotIn_iff {first last : UInt16} :
    raster.dotIn first last = true ↔
      first.toNat ≤ raster.dot.toNat ∧ raster.dot.toNat ≤ last.toNat := by
  rw [dotIn, Bool.and_eq_true, decide_eq_true_iff, decide_eq_true_iff, UInt16.le_iff_toNat_le,
    UInt16.le_iff_toNat_le]

theorem visibleDot_iff :
    raster.visibleDot = true ↔ 1 ≤ raster.dot.toNat ∧ raster.dot.toNat ≤ 256 :=
  dotIn_iff

theorem dot_eq_iff {dot : UInt16} : (raster.dot == dot) = true ↔ raster.dot.toNat = dot.toNat := by
  rw [beq_iff_eq, UInt16.toNat_inj]

theorem dot_ne {dot : UInt16} (elsewhere : raster.dot.toNat ≠ dot.toNat) :
    ¬ (raster.dot == dot) = true :=
  fun here => elsewhere (dot_eq_iff.mp here)

theorem column_toNat {column : Nat} (inside : column < 256)
    (dot : raster.dot.toNat = column + 1) : raster.column.toNat = column := by
  have before : (raster.dot - 1).toNat = column := by
    have first : (1 : UInt16) ≤ raster.dot := by
      rw [UInt16.le_iff_toNat_le, dot]
      exact Nat.le_add_left 1 column
    rw [UInt16.toNat_sub_of_le _ _ first, dot]
    rfl
  rw [Raster.column, UInt16.toNat_toUInt8, before]
  exact Nat.mod_eq_of_lt inside

/-- The vertical blank neither begins nor ends on a visible line. -/
theorem quiet_of_visibleLine (visible : raster.visibleLine = true) :
    raster.startsVblank = false ∧ raster.endsVblank = false := by
  have line := visibleLine_iff.mp visible
  have blank : (raster.scanline == vblankScanline) = false := by
    rw [beq_eq_false_iff_ne, ne_eq, ← UInt16.toNat_inj]
    exact fun same => absurd (same ▸ line) (by decide)
  have preRender : raster.preRenderLine = false := by
    rw [Bool.eq_false_iff, ne_eq, preRenderLine_iff]
    omega
  exact ⟨by rw [startsVblank, blank, Bool.false_and],
    by rw [endsVblank, preRender, Bool.false_and]⟩

/-- A place within a frame determines the line and the dot. -/
theorem place_eq_iff (valid : raster.valid) {scanline dot : Nat} (inside : dot < 341) :
    raster.place = scanline * 341 + dot ↔
      raster.scanline.toNat = scanline ∧ raster.dot.toNat = dot := by
  obtain ⟨-, bound⟩ := toNat_lt valid
  unfold place
  omega

theorem startsVblank_iff (valid : raster.valid) :
    raster.startsVblank = true ↔ raster.place = vblankPlace := by
  rw [vblankPlace, place_eq_iff valid (by decide)]
  simp only [startsVblank, vblankScanline, Bool.and_eq_true, beq_iff_eq, ← UInt16.toNat_inj]
  rfl

theorem skipsDot_iff (valid : raster.valid) (rendering : Bool) :
    raster.skipsDot rendering = true ↔
      raster.place + 1 = lastDot ∧ raster.oddFrame = true ∧ rendering = true := by
  have before : raster.place + 1 = lastDot ↔ raster.place = 261 * 341 + 339 := by
    unfold lastDot
    omega
  rw [before, place_eq_iff valid (by decide)]
  simp only [skipsDot, preRenderLine, preRenderScanline, Bool.and_eq_true, beq_iff_eq,
    ← UInt16.toNat_inj, and_assoc]
  rfl

/-- The next place, and the parity that goes with it. -/
theorem advance_place (valid : raster.valid) (rendering : Bool) :
    (raster.advance rendering).place =
        (if raster.skipsDot rendering then 0 else (raster.place + 1) % dotsPerFrame) ∧
      (raster.skipsDot rendering = false → raster.place < lastDot →
        (raster.advance rendering).oddFrame = raster.oddFrame) := by
  obtain ⟨scanline, dot⟩ := toNat_lt valid
  have nextDot : (raster.dot + 1).toNat = raster.dot.toNat + 1 := by
    rw [UInt16.toNat_add]
    change (raster.dot.toNat + 1) % 2 ^ 16 = _
    omega
  have nextLine : (raster.scanline + 1).toNat = raster.scanline.toNat + 1 := by
    rw [UInt16.toNat_add]
    change (raster.scanline.toNat + 1) % 2 ^ 16 = _
    omega
  have lastOfLine : raster.dot + 1 = dotsPerScanline ↔ raster.dot.toNat = 340 := by
    rw [← UInt16.toNat_inj, nextDot]
    exact Nat.succ_inj
  have lastOfFrame : raster.scanline + 1 = scanlinesPerFrame ↔ raster.scanline.toNat = 261 := by
    rw [← UInt16.toNat_inj, nextLine]
    exact Nat.succ_inj
  cases skip : raster.skipsDot rendering with
  | true =>
    exact ⟨by simp [advance, skip, place], fun kept => absurd kept (by decide)⟩
  | false =>
    simp only [advance, skip, Bool.false_eq_true, if_false, bne_iff_ne, ne_eq, lastOfLine,
      lastOfFrame]
    unfold dotsPerFrame lastDot
    split
    · simp only [place, nextDot, implies_true, and_true]
      omega
    · split
      · simp only [place, nextLine, UInt16.toNat_zero, implies_true, and_true]
        omega
      · simp only [place, UInt16.toNat_zero]
        omega

/-- Along the line, to the next line, or early to the next frame. -/
theorem advance_cases (valid : raster.valid) (rendering : Bool) :
    ((raster.advance rendering).scanline.toNat = raster.scanline.toNat ∧
        (raster.advance rendering).dot.toNat = raster.dot.toNat + 1) ∨
      (raster.dot.toNat = 340 ∧ (raster.advance rendering).dot.toNat = 0 ∧
        (raster.advance rendering).scanline.toNat = (raster.scanline.toNat + 1) % 262) ∨
      (raster.scanline.toNat = 261 ∧ raster.dot.toNat = 339 ∧
        (raster.advance rendering).scanline.toNat = 0 ∧
        (raster.advance rendering).dot.toNat = 0) := by
  obtain ⟨scanline, dot⟩ := toNat_lt valid
  obtain ⟨nextScanline, nextDot⟩ := toNat_lt (valid_advance valid rendering)
  have moved := (advance_place valid rendering).1
  have skips := skipsDot_iff valid rendering
  cases skip : raster.skipsDot rendering with
  | true =>
    obtain ⟨last, -⟩ := skips.mp skip
    rw [skip, if_pos rfl] at moved
    unfold place lastDot at *
    omega
  | false =>
    rw [skip, if_neg Bool.false_ne_true] at moved
    unfold place dotsPerFrame at *
    omega

end Nes.Raster
