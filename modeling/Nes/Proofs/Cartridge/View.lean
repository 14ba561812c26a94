import Nes.Cartridge.Basic

/-!
What can be seen of a cartridge: the byte at each address, and how the nametables are wired. An
address on the picture unit's bus may clock a board's counter but moves none of its windows.
-/

namespace Nes

theorem Mmc3.observe_view (chip : Mmc3) (address : UInt16) :
    (chip.observe address).prgWindows = chip.prgWindows ∧
      (chip.observe address).chrWindows = chip.chrWindows ∧
      (chip.observe address).registers.mirroring = chip.registers.mirroring := by
  refine ⟨rfl, rfl, ?_⟩
  simp only [observe, Registers.observe, Registers.clockCounter]
  repeat' split
  all_goals rfl

namespace Cartridge

/-- The byte that each address shows, and the wiring of the nametables. -/
def view (cart : Cartridge) : (UInt16 → UInt8) × Mirroring := (cart.read, cart.mirroring)

theorem observe_view (cart : Cartridge) (address : UInt16) :
    (cart.observe address).view = cart.view := by
  obtain ⟨memory, board, mapperId, battery⟩ := cart
  cases board with
  | mmc3 chip =>
    obtain ⟨prg, chr, mirroring⟩ := chip.observe_view address
    simp only [view, Prod.mk.injEq]
    refine ⟨?_, mirroring⟩
    funext place
    simp only [read, observe, Board.observe, Board.prgOffset, Board.chrOffset, Mmc3.prgOffset,
      Mmc3.chrOffset, prg, chr]
  | nrom | mmc1 | uxRom | cnRom | axRom => rfl

/-- A cycle of the board moves none of its windows. -/
theorem step_view (cart : Cartridge) : cart.step.view = cart.view := by
  obtain ⟨memory, board, mapperId, battery⟩ := cart
  cases board with
  | mmc3 chip =>
    have mirroring : chip.registers.step.mirroring = chip.registers.mirroring := by
      unfold Mmc3.Registers.step
      split <;> rfl
    simp only [view, Prod.mk.injEq]
    exact ⟨rfl, mirroring⟩
  | nrom | mmc1 | uxRom | cnRom | axRom => rfl

end Cartridge

end Nes
