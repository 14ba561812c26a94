import Nes.Proofs.Bus.Cycle
import Nes.Proofs.Cartridge.Contents
import Nes.Proofs.Video.Dots
import Nes.Proofs.Video.Traffic

/-!
How the scanline counter gets its clock. The dots of a drawn line put addresses on the bus at fixed
times, and between the dots the cartridge's cycles let the filter run out. With the background in
the lower pattern table and small sprites in the upper one, the address line rises once in a line,
at the first fetch of the sprites, and the filter has run out by then.
-/

namespace Nes

/-- How many dots a line has while the picture is drawn. -/
def Raster.lineLength (raster : Raster) : Nat :=
  if raster.preRenderLine && raster.oddFrame then 340 else 341

/-- The lines of the picture are whole, and the line before it ends with the frame. -/
theorem Raster.lineLength_cases {raster : Raster} (line : raster.renderLine = true) :
    (raster.scanline.toNat < 240 ∧ raster.lineLength = 341) ∨
      (raster.scanline.toNat = 261 ∧ raster.lineLength + 261 * 341 = raster.frameLength) := by
  rcases renderLine_iff.mp line with visible | prepares
  · have other : raster.preRenderLine = false := by
      rw [Bool.eq_false_iff, ne_eq, preRenderLine_iff]
      omega
    exact .inl ⟨visible, by rw [lineLength, other, Bool.false_and, if_neg Bool.false_ne_true]⟩
  · refine .inr ⟨prepares, ?_⟩
    rw [lineLength, preRenderLine_iff.mpr prepares, Bool.true_and, frameLength]
    split <;> rfl

namespace Mmc3.Registers

variable (registers : Registers) (a12 : Bool) (filter : UInt8)

/-- What the registers become when a dot tells something of the address line. -/
def afterLevel : Option Bool → Registers
  | none => registers.withLine a12 filter
  | some false => registers.withLine false filter
  | some true =>
    (if !a12 && filter == 0 then registers.clockCounter else registers).withLine true
      (if a12 then filter else filterCycles)

/-- The registers a number of dots into the line, but for what they remember of the address line:
the counter is clocked by the dot 261. -/
def counted (count : Nat) : Registers := if count ≤ 261 then registers else registers.clockCounter

end Mmc3.Registers

namespace Ppu

/-! ### Dots and cycles -/

/-- The unit and the cartridge after a number of dots. A cycle of the cartridge follows each third
dot; `phase` dots of the first cycle have passed before. -/
def paced (phase : Nat) (start : Ppu × Cartridge) : Nat → Ppu × Cartridge
  | 0 => start
  | count + 1 =>
    let next := (paced phase start count).1.step (paced phase start count).2
    if (phase + count) % 3 = 2 then (next.1, next.2.step) else next

theorem paced_dots (phase : Nat) (start : Ppu × Cartridge) :
    ∀ count, Dots start count (paced phase start count)
  | 0 => .start
  | count + 1 => by
    have dot := (paced_dots phase start count).dot
    rw [paced]
    split
    · exact dot.unseen (Cartridge.step_view _)
    · exact dot

theorem paced_add (phase : Nat) (start : Ppu × Cartridge) (first : Nat) :
    ∀ second, paced phase start (first + second) =
      paced (phase + first) (paced phase start first) second
  | 0 => rfl
  | second + 1 => by
    rw [← Nat.add_assoc, paced, paced, paced_add phase start first second, Nat.add_assoc phase]

/-- The cycles come round after three dots. -/
theorem paced_add_three (phase : Nat) (start : Ppu × Cartridge) :
    ∀ count, paced (phase + 3) start count = paced phase start count
  | 0 => rfl
  | count + 1 => by
    have third : (phase + 3 + count) % 3 = (phase + count) % 3 := by omega
    rw [paced, paced, paced_add_three phase start count, third]

/-- The present dot clocks the scanline counter. -/
def clocks (unit : Ppu × Cartridge) : Bool := unit.2.clockedBy unit.1.busAddress?

variable {start : Ppu × Cartridge} {chip : Mmc3} {phase count : Nat}

/-- A dot that clocks the counter does so once, and any other leaves it alone. -/
theorem step_counts (board : start.2.board = .mmc3 chip) :
    ∃ a12 filter, (start.1.step start.2).2 = start.2.withRegisters chip
      ((if clocks start then chip.registers.clockCounter
        else chip.registers).withLine a12 filter) := by
  rw [step_cart]
  exact start.2.hear_counts board _

/-- What is told of the address line decides what becomes of the registers. -/
theorem Level.hear {address : Option UInt16} {level : Option Bool} (told : Level address level)
    (cart : Cartridge) (sharp : chip.variant = .sharp) (registers : Mmc3.Registers) (a12 : Bool)
    (filter : UInt8) :
    (cart.withRegisters chip (registers.withLine a12 filter)).clockedBy address =
        (level == some true && !a12 && filter == 0) ∧
      (cart.withRegisters chip (registers.withLine a12 filter)).hear address =
        cart.withRegisters chip (registers.afterLevel a12 filter level) := by
  have folded {address : UInt16} (inside : address.toNat < 0x4000) : address &&& 0x3FFF = address :=
    Bits.and_low_of_lt 14 rfl inside
  cases told with
  | silent => exact ⟨rfl, rfl⟩
  | @above address above inside =>
    obtain ⟨quiet, seen⟩ := (registers.withLine a12 filter).observe_above above chip.variant
    rw [Cartridge.hear, Cartridge.clockedBy, folded inside]
    exact ⟨quiet, congrArg (cart.withRegisters chip) seen⟩
  | @lower address lower =>
    obtain ⟨quiet, seen⟩ := registers.observe_lower a12 filter lower
    rw [← sharp] at quiet seen
    rw [Cartridge.hear, Cartridge.clockedBy, folded (by omega)]
    exact ⟨quiet, congrArg (cart.withRegisters chip) seen⟩
  | @upper address above upper =>
    obtain ⟨clocked, seen⟩ := registers.observe_upper a12 filter above upper
    rw [← sharp] at clocked seen
    rw [Cartridge.hear, Cartridge.clockedBy, folded (by omega)]
    exact ⟨clocked, congrArg (cart.withRegisters chip) seen⟩

/-! ### Along the line -/

theorem TablesApart.of_setup {first second : Ppu} (apart : first.TablesApart)
    (setup : second.setup = first.setup) : second.TablesApart := by
  have ctrl : second.ctrl = first.ctrl := congrArg Setup.ctrl setup
  have mask : second.mask = first.mask := congrArg Setup.mask setup
  refine ⟨?_, ?_, ?_, ?_⟩
  · rw [Ppu.rendering, mask]
    exact apart.rendering
  · rw [tallSprites, ctrl]
    exact apart.small
  · rw [backgroundTable, ctrl]
    exact apart.lower
  · rw [spriteTable, ctrl]
    exact apart.upper

/-- From the first dot of a drawn line the dots are counted by the unit's place; after the last one
the next line begins. -/
theorem Dots.alongLine {next : Ppu × Cartridge} (dots : Dots start count next)
    (rendering : start.1.rendering = true) (line : start.1.raster.renderLine = true)
    (first : start.1.raster.dot = 0) (few : count ≤ start.1.raster.lineLength) :
    if count < start.1.raster.lineLength then
      next.1.raster.position = (start.1.raster.scanline.toNat, count)
    else next.1.raster.position = ((start.1.raster.scanline.toNat + 1) % 262, 0) := by
  have dot : start.1.raster.dot.toNat = 0 := congrArg UInt16.toNat first
  have drawn := Raster.renderLine_iff.mp line
  have length := Raster.lineLength_cases line
  have frame := start.1.raster.frameLength_cases
  have last : Raster.lastDot = 89341 := rfl
  have place : start.1.raster.place = start.1.raster.scanline.toNat * 341 := by
    rw [Raster.place, dot, Nat.add_zero]
  obtain ⟨inside, here⟩ := dots.place rendering
    (Raster.valid_of_toNat_lt (by omega) (by omega)) (by omega) (by omega)
  simp only [Raster.position, Prod.mk.injEq]
  split
  · rw [if_pos (by omega)] at here
    exact (Raster.place_eq_iff inside (by omega)).mp (by omega)
  · refine (Raster.place_eq_iff inside (by omega)).mp ?_
    split at here <;> omega

/-- What the chip remembers of the address line a number of dots into the line. The line is low
from the first tile's patterns on, high from the first sprite's, and low again from the next line's
first tile's; the filter loses one with each cycle and starts again at the edge. -/
structure Remembers (phase count : Nat) (a12 : Bool) (filter : UInt8) : Prop where
  before : 6 ≤ count → count ≤ 261 → a12 = false
  during : 262 ≤ count → count ≤ 325 → a12 = true
  behind : 326 ≤ count → a12 = false
  fading : count ≤ 261 → filter.toNat ≤ 16 - (phase % 3 + count) / 3
  faded : 262 ≤ count → filter.toNat ≤ 16 - ((phase % 3 + count) / 3 - (phase % 3 + 261) / 3)

/-- When the line is low, high and not seen. -/
theorem lineLevel_cases (count : Nat) :
    (lineLevel? count = some false ∧ (count ≤ 256 ∨ 325 ≤ count)) ∨
      (lineLevel? count = some true ∧ 261 ≤ count ∧ count ≤ 320) ∨
      (lineLevel? count = none ∧ count ≠ 5 ∧ count ≠ 261 ∧ count ≠ 325) := by
  unfold lineLevel?
  split
  · split
    · exact .inl ⟨rfl, by omega⟩
    · exact .inr (.inr ⟨rfl, by omega⟩)
  · split
    · split
      · exact .inr (.inl ⟨rfl, by omega⟩)
      · exact .inr (.inr ⟨rfl, by omega⟩)
    · exact .inr (.inr ⟨rfl, by omega⟩)

variable {a12 : Bool} {filter : UInt8}

theorem Remembers.initial (phase : Nat) (recent : filter ≤ 16) : Remembers phase 0 a12 filter := by
  have bound : filter.toNat ≤ 16 := UInt8.le_iff_toNat_le.mp recent
  exact ⟨by omega, by omega, by omega, by omega, by omega⟩

/-- At the first fetch of the sprites the line is low and the filter has run out. -/
theorem Remembers.edge (remembers : Remembers phase 261 a12 filter) : a12 = false ∧ filter = 0 := by
  have faded := remembers.fading (Nat.le_refl _)
  refine ⟨remembers.before (by decide) (by decide), UInt8.toNat_inj.mp ?_⟩
  change _ = 0
  omega

/-- The counter is clocked where the address line rises, and nowhere else. -/
theorem Remembers.clocks_iff (remembers : Remembers phase count a12 filter) :
    (lineLevel? count == some true && !a12 && filter == 0) = true ↔ count = 261 := by
  constructor
  · intro clocked
    obtain ⟨⟨high, low⟩, -⟩ : (lineLevel? count = some true ∧ a12 = false) ∧ filter = 0 := by
      simpa using clocked
    rcases lineLevel_cases count with told | ⟨-, later, inside⟩ | told
    · exact absurd (told.1.symm.trans high) (by decide)
    · rcases Nat.eq_or_lt_of_le later with here | behind
      · exact here.symm
      · exact absurd (low.symm.trans (remembers.during behind (by omega))) (by decide)
    · exact absurd (told.1.symm.trans high) (by decide)
  · rintro rfl
    obtain ⟨rfl, rfl⟩ := remembers.edge
    rfl

/-- One dot, and the cycle that may follow it. -/
theorem Remembers.next (remembers : Remembers phase count a12 filter)
    (registers : Mmc3.Registers) :
    ∃ line rest, (registers.counted count).afterLevel a12 filter (lineLevel? count) =
        (registers.counted (count + 1)).withLine line rest ∧
      ∀ left : UInt8, left.toNat = rest.toNat - (if (phase + count) % 3 = 2 then 1 else 0) →
        Remembers phase (count + 1) line left := by
  have cycle : (phase % 3 + (count + 1)) / 3 =
      (phase % 3 + count) / 3 + (if (phase + count) % 3 = 2 then 1 else 0) := by
    split <;> omega
  have fading := remembers.fading
  have faded := remembers.faded
  have same (other : count ≠ 261) : registers.counted count = registers.counted (count + 1) := by
    unfold Mmc3.Registers.counted
    split
    · rw [if_pos (by omega)]
    · rw [if_neg (by omega)]
  rcases lineLevel_cases count with ⟨told, low⟩ | ⟨told, later, inside⟩ | ⟨told, away⟩
  · -- The line falls or stays low.
    refine ⟨false, filter, ?_, fun left passed => ⟨?_, ?_, ?_, ?_, ?_⟩⟩
    · rw [told, same (by omega)]
      rfl
    · intros; rfl
    · intros; omega
    · intros; rfl
    · intros; omega
    · intros; omega
  · rcases Nat.eq_or_lt_of_le later with rfl | behind
    · -- The line rises, and the filter starts again.
      obtain ⟨rfl, rfl⟩ := remembers.edge
      have full : Mmc3.filterCycles.toNat = 16 := rfl
      refine ⟨true, Mmc3.filterCycles, ?_, fun left passed => ⟨?_, ?_, ?_, ?_, ?_⟩⟩
      · rw [told]
        rfl
      · intros; omega
      · intros; rfl
      · intros; omega
      · intros; omega
      · intros; omega
    · -- The line stays high.
      have high := remembers.during behind (by omega)
      refine ⟨true, filter, ?_, fun left passed => ⟨?_, ?_, ?_, ?_, ?_⟩⟩
      · rw [told, same (by omega), high]
        rfl
      · intros; omega
      · intros; rfl
      · intros; omega
      · intros; omega
      · intros; omega
  · -- Nothing is told of the line.
    refine ⟨a12, filter, ?_, fun left passed => ⟨?_, ?_, ?_, ?_, ?_⟩⟩
    · rw [told, same (by omega)]
      rfl
    · intros; exact remembers.before (by omega) (by omega)
    · intros; exact remembers.during (by omega) (by omega)
    · intros; exact remembers.behind (by omega)
    · intros; omega
    · intros; omega

theorem paced_level (apart : start.1.TablesApart) (line : start.1.raster.renderLine = true)
    (first : start.1.raster.dot = 0) (phase : Nat) (few : count < start.1.raster.lineLength) :
    Level (paced phase start count).1.busAddress? (lineLevel? count) := by
  have dots := paced_dots phase start count
  have here := dots.alongLine apart.rendering line first (Nat.le_of_lt few)
  rw [if_pos few] at here
  obtain ⟨scanline, dot⟩ := Prod.mk.inj here
  have drawn : (paced phase start count).1.raster.renderLine = true := by
    rw [Raster.renderLine_iff, scanline]
    exact Raster.renderLine_iff.mp line
  have told := (apart.of_setup dots.setup).level drawn
  rwa [dot] at told

/-- What the dots and cycles of a line make of the registers. -/
theorem paced_line (board : start.2.board = .mmc3 chip) (sharp : chip.variant = .sharp)
    (recent : chip.registers.a12Filter ≤ 16) (apart : start.1.TablesApart)
    (line : start.1.raster.renderLine = true) (first : start.1.raster.dot = 0) (phase : Nat)
    (few : count ≤ start.1.raster.lineLength) :
    ∃ a12 filter, Remembers phase count a12 filter ∧
      (paced phase start count).2 =
        start.2.withRegisters chip ((chip.registers.counted count).withLine a12 filter) := by
  induction count with
  | zero =>
    exact ⟨chip.registers.lastA12, chip.registers.a12Filter, .initial phase recent,
      (Cartridge.withRegisters_self board).symm⟩
  | succ count ih =>
    obtain ⟨a12, filter, remembers, cart⟩ := ih (by omega)
    have told := paced_level apart line first phase few
    have seen := (told.hear start.2 sharp (chip.registers.counted count) a12 filter).2
    obtain ⟨next, rest, heard, kept⟩ := remembers.next chip.registers
    have stepped : ((paced phase start count).1.step (paced phase start count).2).2 =
        start.2.withRegisters chip ((chip.registers.counted (count + 1)).withLine next rest) := by
      rw [step_cart, cart, seen, heard]
    rw [paced]
    split
    · rename_i third
      obtain ⟨left, cycled, fewer⟩ := (chip.registers.counted (count + 1)).step_withLine next rest
      refine ⟨next, left, kept left (by rw [fewer, if_pos third]), ?_⟩
      dsimp only
      rw [stepped]
      exact congrArg (start.2.withRegisters chip) cycled
    · rename_i within
      exact ⟨next, rest, kept rest (by rw [if_neg within, Nat.sub_zero]), stepped⟩

/-- A drawn line clocks the scanline counter once, whatever stands in the memories and wherever the
cartridge's cycles fall: the first fetch of the sprites does, and no other dot. The filter has run
out when the next line begins, so the line after it finds the counter as this one did. -/
theorem line_clocks_once (start : Ppu × Cartridge) (chip : Mmc3) (phase : Nat)
    (board : start.2.board = .mmc3 chip) (sharp : chip.variant = .sharp)
    (recent : chip.registers.a12Filter ≤ 16) (apart : start.1.TablesApart)
    (line : start.1.raster.renderLine = true) (first : start.1.raster.dot = 0) :
    (∀ count < start.1.raster.lineLength, clocks (paced phase start count) = true ↔ count = 261) ∧
      (paced phase start start.1.raster.lineLength).2 =
        start.2.withRegisters chip (chip.registers.clockCounter.withLine false 0) ∧
      (paced phase start start.1.raster.lineLength).1.raster.position =
        ((start.1.raster.scanline.toNat + 1) % 262, 0) := by
  refine ⟨fun count few => ?_, ?_, ?_⟩
  · obtain ⟨a12, filter, remembers, cart⟩ :=
      paced_line board sharp recent apart line first phase (Nat.le_of_lt few)
    have told := paced_level apart line first phase few
    have clocked := (told.hear start.2 sharp (chip.registers.counted count) a12 filter).1
    rw [clocks, cart, clocked]
    exact remembers.clocks_iff
  · obtain ⟨a12, filter, remembers, cart⟩ :=
      paced_line board sharp recent apart line first phase (Nat.le_refl _)
    have length := Raster.lineLength_cases line
    have frame := start.1.raster.frameLength_cases
    have low : a12 = false := remembers.behind (by omega)
    have empty : filter = 0 := by
      have faded := remembers.faded (by omega)
      refine UInt8.toNat_inj.mp ?_
      change _ = 0
      omega
    have counted : chip.registers.counted start.1.raster.lineLength = chip.registers.clockCounter :=
      if_neg (by omega)
    rw [cart, low, empty, counted]
  · have ends := (paced_dots phase start _).alongLine apart.rendering line first (Nat.le_refl _)
    rwa [if_neg (Nat.lt_irrefl _)] at ends

/-- The chip shortly after an edge; its counter is to be reloaded. -/
def reloading : Mmc3 :=
  let chip := Mmc3.powerOn .sharp .horizontal Cartridge.idle.memory
  { chip with
    registers :=
      { chip.registers with
        irqLatch := 3, irqReload := true, irqEnabled := true, lastA12 := true, a12Filter := 16 } }

/-- The first line of a picture in front of this chip. -/
def firstLine : Ppu × Cartridge :=
  ({ ctrl := 0x08, mask := 0x18 }, { Cartridge.idle with board := .mmc3 reloading })

theorem line_clocks_once_reloading :
    reloading.variant = .sharp ∧ reloading.registers.a12Filter ≤ 16 ∧ firstLine.1.TablesApart ∧
      firstLine.1.raster.renderLine = true ∧ firstLine.1.raster.dot = 0 ∧
      clocks (paced 1 firstLine 261) = true ∧ clocks (paced 1 firstLine 263) = false ∧
      (paced 1 firstLine 341).2 = firstLine.2.withRegisters reloading
        (reloading.registers.clockCounter.withLine false 0) := by
  have recent : reloading.registers.a12Filter ≤ 16 := by decide
  have apart : firstLine.1.TablesApart := ⟨rfl, rfl, rfl, rfl⟩
  obtain ⟨once, registers, -⟩ := line_clocks_once firstLine reloading 1 rfl rfl recent apart rfl rfl
  have second : ¬ clocks (paced 1 firstLine 263) = true := by
    rw [once 263 (by decide)]
    decide
  exact ⟨rfl, recent, apart, rfl, rfl, (once 261 (by decide)).mpr rfl,
    Bool.eq_false_iff.mpr second, registers⟩

end Ppu

namespace System

/-- In the cycles of the bus a cycle of the cartridge follows each third dot. -/
theorem run_paced (count : Nat) (system : System) :
    ((run count system).ppu, (run count system).cart) =
      Ppu.paced 0 (system.ppu, system.cart) (3 * count) := by
  induction count generalizing system with
  | zero => rfl
  | succ count ih =>
    have cycle : (system.cycle.ppu, system.cycle.cart) =
        Ppu.paced 0 (system.ppu, system.cart) 3 := by
      obtain ⟨fetched, apu, -, sounded⟩ := system.stepPpu.stepPpu.stepPpu.stepApu_eq
      rw [cycle_eq, sounded]
      rfl
    have dots : 3 * (count + 1) = 3 + 3 * count := by omega
    rw [run, ih, cycle, dots, Ppu.paced_add, Ppu.paced_add_three]

/-- Cycles in which nothing reads or writes a register are a run of dots. -/
theorem run_dots (count : Nat) (system : System) :
    Ppu.Dots (system.ppu, system.cart) (3 * count)
      ((run count system).ppu, (run count system).cart) := by
  rw [run_paced]
  exact Ppu.paced_dots 0 _ _

end System

end Nes
