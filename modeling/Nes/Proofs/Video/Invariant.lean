import Nes.Proofs.Video.Bounds
import Nes.Proofs.Video.Interrupt

/-!
What is true of a picture unit at every moment since power-on, whatever is done to it and whatever
cartridges stand behind it. Bits that its memories do not have are never set, its place and its
addresses stay within their ranges, and its marks for the interrupt agree with the place and with
the control register. So its record is always accepted.
-/

namespace Nes

theorem Palette.write_entries_lt {palette : Palette}
    (narrow : ∀ entry ∈ palette.entries, entry < 64) (address : UInt16) (data : UInt8) :
    ∀ entry ∈ (palette.write address data).entries, entry < 64 := by
  intro entry member
  obtain ⟨place, inside, rfl⟩ := Vector.mem_iff_getElem.mp member
  simp only [write, Vector.getElem_set]
  split
  · exact UInt8.lt_of_le_of_lt UInt8.and_le_right (by decide)
  · exact narrow _ (Vector.getElem_mem _)

theorem Palette.read_lt {palette : Palette} (narrow : ∀ entry ∈ palette.entries, entry < 64)
    (address : UInt16) : palette.read address < 64 :=
  narrow _ (Vector.getElem_mem _)

theorem Background.latchAttribute_atBits (background : Background) (byte : UInt8)
    (place : UInt16) : (background.latchAttribute byte place).atBits ∈ [0, 4, 8, 12] := by
  apply byte_all (fun quadrant => (quadrant &&& 3) <<< 2 ∈ ([0, 4, 8, 12] : List UInt8))
  decide +kernel

namespace Ppu

/-! ### Bits that do not exist -/

/-- The lower five status bits, the upper two bits of colours, and the palette bits outside of their
place are clear. -/
structure Narrow (ppu : Ppu) : Prop where
  status : ppu.status &&& 0x1F = 0
  palette : ∀ entry ∈ ppu.palette.entries, entry < 64
  frame : ∀ pixel ∈ ppu.frame, pixel < 64
  atBits : ppu.background.atBits ∈ [0, 4, 8, 12]

theorem powerOn_narrow : ({} : Ppu).Narrow where
  status := rfl
  palette entry member := by
    rw [Vector.eq_of_mem_replicate member]
    decide
  frame pixel member := by
    rw [Vector.eq_of_mem_replicate member]
    decide
  atBits := by decide

/-- Flags come and go in the upper bits of the status. -/
theorem status_clear {status : UInt8} (clear : status &&& 0x1F = 0) :
    (status ||| vblankFlag) &&& 0x1F = 0 ∧ (status ||| spriteZeroFlag) &&& 0x1F = 0 ∧
      (status ||| overflowFlag) &&& 0x1F = 0 ∧ (status &&& ~~~vblankFlag) &&& 0x1F = 0 ∧
      (status &&& 0x1F) &&& 0x1F = 0 := by
  revert clear
  apply byte_all (fun status => status &&& 0x1F = 0 →
    (status ||| vblankFlag) &&& 0x1F = 0 ∧ (status ||| spriteZeroFlag) &&& 0x1F = 0 ∧
      (status ||| overflowFlag) &&& 0x1F = 0 ∧ (status &&& ~~~vblankFlag) &&& 0x1F = 0 ∧
      (status &&& 0x1F) &&& 0x1F = 0)
  decide +kernel

variable {ppu : Ppu}

/-! ### Accesses -/

theorem Narrow.incrementAddress (narrow : ppu.Narrow) (cart : Cartridge) :
    (ppu.incrementAddress cart).1.Narrow := by
  unfold Ppu.incrementAddress
  split <;> exact ⟨narrow.status, narrow.palette, narrow.frame, narrow.atBits⟩

theorem Narrow.writeVram (narrow : ppu.Narrow) (cart : Cartridge) (address : UInt16)
    (data : UInt8) : (ppu.writeVram cart address data).1.Narrow := by
  simp only [Ppu.writeVram]
  split
  · exact narrow
  · split
    · exact ⟨narrow.status, narrow.palette, narrow.frame, narrow.atBits⟩
    · exact ⟨narrow.status, Palette.write_entries_lt narrow.palette _ _, narrow.frame,
        narrow.atBits⟩

theorem Narrow.readStatus (narrow : ppu.Narrow) : ppu.readStatus.2.Narrow := by
  have raced : ppu.raceStatus.Narrow := by
    unfold raceStatus
    repeat' split
    all_goals exact ⟨narrow.status, narrow.palette, narrow.frame, narrow.atBits⟩
  obtain ⟨-, -, -, status, -⟩ := status_clear raced.status
  exact ⟨status, raced.palette, raced.frame, raced.atBits⟩

theorem Narrow.readData (narrow : ppu.Narrow) (cart : Cartridge) :
    (ppu.readData cart).2.1.Narrow := by
  have moved (byte : UInt8) (cart : Cartridge) :
      (Ppu.incrementAddress { ppu with readBuffer := byte } cart).1.Narrow :=
    have buffered : Narrow { ppu with readBuffer := byte } :=
      ⟨narrow.status, narrow.palette, narrow.frame, narrow.atBits⟩
    buffered.incrementAddress cart
  simp only [Ppu.readData]
  split
  · have next := moved (ppu.readVram cart ((ppu.scroll.v &&& 0x3FFF) - 0x1000)).1
    exact ⟨(next _).status, (next _).palette, (next _).frame, (next _).atBits⟩
  · have next := moved (ppu.readVram cart (ppu.scroll.v &&& 0x3FFF)).1
    exact ⟨(next _).status, (next _).palette, (next _).frame, (next _).atBits⟩

theorem Narrow.readRegister (narrow : ppu.Narrow) (cart : Cartridge) (address : UInt16) :
    (ppu.readRegister cart address).2.1.Narrow := by
  unfold Ppu.readRegister
  split
  · exact narrow.readStatus
  · exact ⟨narrow.status, narrow.palette, narrow.frame, narrow.atBits⟩
  · exact narrow.readData cart
  · exact narrow

theorem Narrow.writeRegister (narrow : ppu.Narrow) (cart : Cartridge) (address : UInt16)
    (data : UInt8) : (ppu.writeRegister cart address data).1.Narrow := by
  have driven : (ppu.drive data).Narrow :=
    ⟨narrow.status, narrow.palette, narrow.frame, narrow.atBits⟩
  simp only [Ppu.writeRegister]
  split
  case h_8 => exact (driven.writeVram cart _ data).incrementAddress _
  all_goals exact ⟨driven.status, driven.palette, driven.frame, driven.atBits⟩

theorem Narrow.pollNmi (narrow : ppu.Narrow) : ppu.pollNmi.2.Narrow := by
  unfold Ppu.pollNmi
  split
  · exact narrow
  · exact ⟨narrow.status, narrow.palette, narrow.frame, narrow.atBits⟩

/-! ### Dots -/

theorem Narrow.shownEntry_lt (narrow : ppu.Narrow) (index : UInt8) : ppu.shownEntry index < 64 :=
  UInt8.lt_of_le_of_lt UInt8.and_le_left (Palette.read_lt narrow.palette _)

theorem Narrow.putPixel (narrow : ppu.Narrow) (column : UInt8) {entry : UInt8}
    (entryNarrow : entry < 64) : (ppu.putPixel column entry).Narrow := by
  refine ⟨narrow.status, narrow.palette, ?_, narrow.atBits⟩
  intro pixel member
  rcases Array.mem_or_eq_of_mem_setIfInBounds member.val with old | rfl
  · exact narrow.frame pixel ⟨old⟩
  · exact entryNarrow

theorem Narrow.renderPixel (narrow : ppu.Narrow) : ppu.renderPixel.Narrow := by
  obtain ⟨-, zero, -⟩ := status_clear narrow.status
  simp only [Ppu.renderPixel]
  apply putPixel _ _ (narrow.shownEntry_lt _)
  split
  · exact ⟨zero, narrow.palette, narrow.frame, narrow.atBits⟩
  · exact narrow

theorem Narrow.shown (narrow : ppu.Narrow) : ppu.shown.Narrow := by
  unfold Ppu.shown
  split
  · exact narrow.renderPixel
  · exact narrow

theorem Narrow.blankDot (narrow : ppu.Narrow) : ppu.blankDot.Narrow := by
  unfold Ppu.blankDot
  split
  · exact narrow.putPixel _ (narrow.shownEntry_lt 0)
  · exact narrow

theorem Narrow.tileDot (narrow : ppu.Narrow) (cart : Cartridge) :
    (ppu.tileDot cart).1.Narrow := by
  unfold Ppu.tileDot
  split
  · simp only [fetchTile]
    split
    case h_2 =>
      exact ⟨narrow.status, narrow.palette, narrow.frame, Background.latchAttribute_atBits _ _ _⟩
    all_goals exact ⟨narrow.status, narrow.palette, narrow.frame, narrow.atBits⟩
  · exact narrow

theorem Narrow.fetchDot (narrow : ppu.Narrow) (cart : Cartridge) :
    (ppu.fetchDot cart).1.Narrow := by
  obtain ⟨-, -, overflow, -⟩ := status_clear narrow.status
  rw [(ppu.fetchDot_frame cart).1]
  refine ⟨?_, narrow.palette, narrow.frame, (narrow.tileDot cart).atBits⟩
  simp only [evaluatedStatus]
  split
  · exact overflow
  · exact narrow.status

theorem Narrow.drawn (narrow : ppu.Narrow) (cart : Cartridge) : (ppu.drawn cart).1.Narrow := by
  by_cases drawing : ppu.drawing = true
  · rw [drawn_of_drawing ppu cart drawing]
    exact narrow.shown.fetchDot cart
  · rw [drawn_of_idle ppu cart drawing]
    split
    · exact narrow.shown
    · exact narrow.blankDot

theorem Narrow.markVblank (narrow : ppu.Narrow) : ppu.markVblank.Narrow := by
  obtain ⟨begun, -, -, -, ended⟩ := status_clear narrow.status
  rw [markVblank_frame]
  refine ⟨?_, narrow.palette, narrow.frame, narrow.atBits⟩
  simp only [Ppu.markVblank, startVblank]
  repeat' split
  exacts [narrow.status, begun, ended, narrow.status]

theorem Narrow.step (narrow : ppu.Narrow) (cart : Cartridge) : (ppu.step cart).1.Narrow := by
  have marked := (narrow.drawn cart).markVblank
  rw [step_eq_drawn]
  exact ⟨marked.status, marked.palette, marked.frame, marked.atBits⟩

/-! ### Events -/

theorem Narrow.perform (narrow : ppu.Narrow) (cart : Cartridge) (event : Event) :
    (perform (ppu, cart) event).1.Narrow := by
  cases event with
  | dot => exact narrow.step cart
  | read address => exact narrow.readRegister cart address
  | write address data => exact narrow.writeRegister cart address data
  | poll => exact narrow.pollNmi
  | writeOam | reset =>
    exact ⟨narrow.status, narrow.palette, narrow.frame, narrow.atBits⟩
  | exchange => exact narrow

/-- Any cartridge will do. -/
private theorem anyCartridge : Cartridge.Preserved fun _ => True where
  write _ _ _ := trivial
  observe _ _ := trivial
  step _ := trivial

theorem Bounded.perform (bounded : ppu.Bounded) (cart : Cartridge) (event : Event) :
    (perform (ppu, cart) event).1.Bounded := by
  have sound : Sound (fun _ => True) (ppu, cart) := ⟨bounded, trivial⟩
  cases event with
  | dot => exact (sound.step anyCartridge).ppu
  | read address => exact (sound.readRegister anyCartridge address).ppu
  | write address data => exact (sound.writeRegister anyCartridge address data).ppu
  | writeOam data => exact bounded.writeOam data
  | poll => exact bounded.pollNmi
  | reset => exact bounded.reset
  | exchange => exact bounded

theorem after_bounded (cart : Cartridge) (events : List Event) :
    (after cart events).Bounded ∧ (after cart events).Narrow := by
  induction events using List.reverseRecOn with
  | nil => exact ⟨powerOn_bounded, powerOn_narrow⟩
  | append_singleton events event ih =>
    rw [after_snoc]
    exact ⟨ih.1.perform _ event, ih.2.perform _ event⟩

/-- Everything that holds of a unit at all times. -/
structure WellFormed (ppu : Ppu) : Prop where
  scanline : ppu.raster.scanline < 262
  dot : ppu.raster.dot < 341
  v : ppu.scroll.v ≤ 0x7FFF
  t : ppu.scroll.t ≤ 0x7FFF
  fineX : ppu.scroll.fineX ≤ 7
  status : ppu.status &&& 0x1F = 0
  sprites : ppu.sprites.count ≤ 8
  palette : ∀ entry ∈ ppu.palette.entries, entry < 64
  frame : ∀ pixel ∈ ppu.frame, pixel < 64
  atBits : ppu.background.atBits ∈ [0, 4, 8, 12]
  /-- The mark of a status read is kept only where the vertical blank is about to begin. -/
  suppress : ppu.suppressVblank = true → ppu.raster.position = (241, 1)
  /-- An edge waits only while the interrupt is on. -/
  pending : ppu.nmiPending = true → ppu.ctrl &&& 0x80 ≠ 0
  /-- The record is accepted, and leads back to the unit. -/
  accepted : ppu.save.restore = .ok { ppu with frameComplete := false }

/-- Whatever happens to the unit since power-on, in front of whatever cartridges, it stays
well-formed. -/
theorem after_wellFormed (cart : Cartridge) (events : List Event) :
    (after cart events).WellFormed := by
  obtain ⟨bounded, narrow⟩ := after_bounded cart events
  obtain ⟨scanline, dot⟩ := Raster.valid_iff.mp bounded.raster
  exact {
    scanline
    dot
    v := bounded.scroll.v
    t := bounded.scroll.t
    fineX := bounded.scroll.fineX
    status := narrow.status
    sprites := bounded.sprites
    palette := narrow.palette
    frame := narrow.frame
    atBits := narrow.atBits
    suppress := fun marked => ((after_suppress cart events).mp marked).1
    pending := fun waits => bne_iff_ne.mp (enabled_of_pending waits)
    accepted := bounded.restore_save }

end Ppu

end Nes
