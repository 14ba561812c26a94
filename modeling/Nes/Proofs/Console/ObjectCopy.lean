import Nes.Proofs.Bus.ObjectCopy
import Nes.Proofs.Console.Lockstep
import Nes.Proofs.Console.Picture

/-!
Copies of object memory in a console. The bus decides by its own counter of cycles how long a copy
takes; in every console that a host reaches this is the processor's counter.
-/

namespace Nes.Console

variable {cart : Cartridge} {settings : Settings} {console : Console}

/-- A snapshot that a reached console has saved puts both counters back together. -/
theorem load_counted {rom : Rom} (built : Cartridge.ofRom rom = .ok cart) {saved : Console}
    (reached : Reached cart settings console) (earlier : Reached cart settings saved)
    (counted : console.system.cycles = console.machine.cpu.cycles)
    (before : saved.system.cycles = saved.machine.cpu.cycles) :
    (console.load saved.save).2.system.cycles = (console.load saved.save).2.machine.cpu.cycles := by
  obtain ⟨identified, -⟩ := Cartridge.ofRom_sound built
  obtain ⟨boundary, -⟩ := reached.sound built
  obtain ⟨recorded, -⟩ := earlier.sound built
  cases loaded : console.load saved.save with
  | mk result next =>
    cases result with
    | error fault =>
      obtain rfl := load_error boundary identified loaded
      exact counted
    | ok done =>
      obtain ⟨state, decoded, accepted⟩ := load_ok loaded
      obtain rfl := Except.ok.inj ((decode_save built recorded).symm.trans decoded)
      obtain ⟨-, taken⟩ := loadState_ok boundary identified accepted
      have chips := congrArg (·.bus.cycles) taken
      have processor := congrArg (·.cpu.cycles) taken
      exact chips.trans (before.trans processor.symm)

/-- In a reached console the bus and the processor have counted the same cycles. -/
theorem Reached.counted {rom : Rom} (built : Cartridge.ofRom rom = .ok cart)
    (reached : Reached cart settings console) :
    console.system.cycles = console.machine.cpu.cycles := by
  induction reached with
  | powerOn =>
    have started := (Machine.reset_elapses { bus := System.powerOn cart settings }).cycles
    exact started
  | @perform console reached command keeps ih =>
    obtain ⟨boundary, rest⟩ := reached.sound built
    obtain ⟨-, elapsed, passes⟩ :=
      perform_passes ⟨rest, boundary.dmaPending, boundary.ready⟩ keeps
    rw [passes.uptime.cycles, passes.counted, ih]
  | load reached earlier ih saved => exact load_counted built reached earlier ih saved

/-- A write to the copying register copies a page in which memory or the cartridge answers: the
bytes seen there go to the current place of object memory and the ones behind it, around its end,
and nothing else changes but the byte on the bus. Between two steps, while no sample is played, an
instruction that writes there takes its own cycles, 513, and one more if the cycle of the write is
odd, counted in 64 bits from power-on on. Every console that a host reaches is in that state between
two steps, but for the sample. -/
theorem object_copy :
    (∀ (system : System) (page : UInt8), page < 0x20 ∨ 0x60 ≤ page →
      ∃ oam : Oam,
        system.write 0x4014 page =
          { system with
            ppu := { system.ppu with oam }
            openBus := system.peek (UInt16.ofNat (256 * page.toNat + 255))
            dmaPending := true } ∧
        ∀ place < 256, oam[(system.ppu.oamAddr.toNat + place) % 256]? =
          some (system.peek (UInt16.ofNat (256 * page.toNat + place)))) ∧
    (∀ machine : Machine System, machine.AtRest → machine.bus.cycles = machine.cpu.cycles →
      machine.bus.apu.state.dmc.active = false →
      (∃ page, .write 0x4014 page ∈ machine.recorded.step.2.bus.accesses) →
      ∃ opcode, machine.turn = .instruction opcode ∧
        machine.step.1.toNat = opcode.cycles.toNat + 513 +
          ((machine.cpu.cycles + opcode.cycles.toUInt64).toNat - 1) % 2) ∧
    ∀ (rom : Rom) (cart : Cartridge), Cartridge.ofRom rom = .ok cart →
      ∀ (settings : Settings) (console : Console), Reached cart settings console →
        console.machine.AtRest ∧ console.machine.bus.cycles = console.machine.cpu.cycles := by
  refine ⟨fun system page => System.oamDma_stored, ?_, ?_⟩
  · rintro machine rest counted silent ⟨page, asked⟩
    have ended : machine.bus.apu.state.dmc.bytesRemaining = 0 := by
      simpa [Dmc.active] using silent
    rw [← counted]
    exact rest.step_copy ended asked
  · intro rom cart built settings console reached
    exact ⟨(reached.sound built).2, reached.counted built⟩

/-- A machine about to store to the copying register, with the last place of object memory as the
current one. -/
def copying : Machine System where
  cpu := {}
  bus :=
    { (System.powerOn .idle {}).loadRam 0 [0x8D, 0x14, 0x40] with ppu := { oamAddr := 0xFF } }

/-- The program itself is copied, its first byte to the last place and the second to the first. -/
theorem object_copy_wraps :
    (∃ oam : Oam,
      copying.bus.write 0x4014 0 =
        { copying.bus with
          ppu := { copying.bus.ppu with oam }
          openBus := copying.bus.peek 0xFF
          dmaPending := true } ∧ oam[255]? = some 0x8D ∧ oam[0]? = some 0x14) ∧
    copying.AtRest ∧ copying.bus.cycles = copying.cpu.cycles ∧
    copying.bus.apu.state.dmc.active = false ∧
    (∃ page, .write 0x4014 page ∈ copying.recorded.step.2.bus.accesses) ∧
    copying.step.1.toNat = 4 + 513 + 1 ∧
    Reached .idle {} (powerOn .idle {}) ∧ (powerOn .idle {}).machine.AtRest := by
  obtain ⟨copies, costs, reached⟩ := object_copy
  obtain ⟨oam, written, bytes⟩ := copies copying.bus 0 (by decide)
  have rest : copying.AtRest := ⟨Dmc.validate_iff.mpr Apu.State.powerOn_bounded.dmc, rfl, rfl⟩
  have silent : copying.bus.apu.state.dmc.active = false := rfl
  have asked : .write 0x4014 0 ∈ copying.recorded.step.2.bus.accesses := by
    rw [Recorder.accesses, List.mem_reverse, Machine.step_recent rfl]
    decide +kernel
  obtain ⟨opcode, turn, cost⟩ := costs copying rest rfl silent ⟨0, asked⟩
  have stored : copying.turn = .instruction (Opcode.ofByte 0x8D) := by decide +kernel
  obtain rfl := Turn.instruction.inj (turn.symm.trans stored)
  refine ⟨⟨oam, written, ?_, ?_⟩, rest, rfl, silent, ⟨0, asked⟩, cost, .powerOn, ?_⟩
  · exact (bytes 0 (by decide)).trans (by decide +kernel)
  · exact (bytes 1 (by decide)).trans (by decide +kernel)
  · exact (reached .idle .idle Cartridge.ofRom_idle {} _ .powerOn).1

end Nes.Console
