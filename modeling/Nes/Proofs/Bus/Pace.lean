import Nes.Proofs.Bus.Elapsed
import Nes.Proofs.Video.Moment

/-!
How far a step moves the picture unit. Each cycle of the processor is three dots, and accesses leave
the unit where it stands.
-/

namespace Nes

namespace System

variable (system : System)

/-! ### Accesses -/

theorem read_moment (address : UInt16) :
    (system.read address).2.ppu.moment = system.ppu.moment := by
  have register := system.ppu.readRegister_moment system.cart address
  simp only [read]
  repeat' split
  all_goals first
    | rfl
    | exact register

theorem copyToOam_moment (page : UInt16) (count : Nat) :
    (system.copyToOam page count).ppu.moment = system.ppu.moment := by
  induction count with
  | zero => rfl
  | succ count ih =>
    have byte := (system.copyToOam page count).read_moment (page ||| UInt16.ofNat count)
    exact Eq.trans byte ih

theorem write_moment (address : UInt16) (data : UInt8) :
    (system.write address data).ppu.moment = system.ppu.moment := by
  have register := system.ppu.writeRegister_moment system.cart address data
  have copied := (system.drive data).copyToOam_moment (data.toUInt16 <<< 8) 256
  simp only [write]
  repeat' split
  all_goals first
    | rfl
    | exact register
    | exact copied

theorem Access.moment {system next : System} (access : system.Access next) :
    next.ppu.moment = system.ppu.moment := by
  cases access with
  | read address => exact system.read_moment address
  | write address data => exact system.write_moment address data
  | pollNmi => exact system.ppu.pollNmi_moment
  | takeStall | chargeDma => rfl

/-! ### Time -/

theorem cycle_passes : Ppu.Passes system.ppu.moment 3 system.cycle.ppu.moment := by
  have dot (system : System) : Ppu.Passes system.ppu.moment 1 system.stepPpu.ppu.moment :=
    system.ppu.step_moment system.cart
  have sounded : system.stepPpu.stepPpu.stepPpu.stepApu.ppu.moment =
      system.stepPpu.stepPpu.stepPpu.ppu.moment := by
    obtain ⟨fetched, apu, -, same⟩ := system.stepPpu.stepPpu.stepPpu.stepApu_eq
    rw [same]
  have dots := ((dot system).trans (dot system.stepPpu)).trans (dot system.stepPpu.stepPpu)
  have finished (system : System) : system.finish.ppu.moment = system.ppu.moment := rfl
  rw [cycle_eq, finished, sounded]
  exact dots

/-- Three dots go with each cycle, and accesses move nothing. -/
theorem Elapses.passes {start next : System} {count : Nat} (elapses : Elapses start count next) :
    Ppu.Passes start.ppu.moment (3 * count) next.ppu.moment := by
  induction elapses with
  | none => exact .none
  | access before access ih =>
    rw [access.moment]
    exact ih
  | @cycle count system before ih => exact ih.trans system.cycle_passes

end System

namespace Machine

variable {machine : Machine System}

/-- A step of a running processor lets exactly the cycles pass that it reports: at least two, and
at most 600 if nothing was owed. -/
theorem AtRest.step_passes (rest : machine.AtRest) (running : machine.cpu.halted = false) :
    ∃ elapsed : Nat, 2 ≤ elapsed ∧ elapsed ≤ 600 ∧ machine.step.1 = UInt64.ofNat elapsed ∧
      machine.step.2.cpu.cycles = machine.cpu.cycles + UInt64.ofNat elapsed ∧
      Ppu.Passes machine.bus.ppu.moment (3 * elapsed) machine.step.2.bus.ppu.moment := by
  obtain ⟨elapsed, least, most, reported, counted, passed⟩ := rest.step_elapses running
  exact ⟨elapsed, least, most, reported, counted, passed.passes⟩

end Machine

end Nes
