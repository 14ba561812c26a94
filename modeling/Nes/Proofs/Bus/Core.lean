import Nes.Proofs.Bus.Cycle
import Nes.Proofs.Cpu.Simulation
import Nes.Proofs.Video.Latch

/-!
The part of a system that decides what happens next. The host's side is taken away: the latch that
announces a picture, the volume, and the queue of samples. Systems with equal cores answer every
access alike and have equal cores after it, so processors on them run in step.
-/

namespace Nes

/-- The sound unit without what only the host hears of it. -/
def Apu.core (apu : Apu) : Apu := { apu with volume := 0, queue := SampleQueue.empty 1 }

theorem Apu.step_core (apu : Apu) (memory : UInt16 → UInt8) :
    (apu.core.step memory).1 = (apu.step memory).1 ∧
      (apu.core.step memory).2.core = (apu.step memory).2.core := by
  refine ⟨rfl, ?_⟩
  have phase : apu.core.cyclesPerSample = apu.cyclesPerSample := rfl
  have state : apu.core.state = apu.state := rfl
  simp only [step, sample, phase, state]
  split <;> rfl

namespace System

/-- The system without the host's side. -/
def core (system : System) : System :=
  { system with ppu := system.ppu.unlatched, apu := system.apu.core }

/-! ### Accesses -/

theorem readPpu_core (system : System) (address : UInt16) :
    system.core.readPpu address =
      ((system.readPpu address).1, (system.readPpu address).2.core) := by
  have read := system.ppu.readRegister_latched false system.cart address
  simp only [readPpu, core, Ppu.unlatched, read]

theorem read_core (system : System) (address : UInt16) :
    system.core.read address = ((system.read address).1, (system.read address).2.core) := by
  simp only [read]
  repeat' split
  all_goals first
    | rfl
    | exact system.readPpu_core address

theorem copyToOam_core (system : System) (page : UInt16) (count : Nat) :
    system.core.copyToOam page count = (system.copyToOam page count).core := by
  induction count with
  | zero => rfl
  | succ count ih =>
    simp only [copyToOam, ih, read_core]
    rfl

theorem write_core (system : System) (address : UInt16) (data : UInt8) :
    system.core.write address data = (system.write address data).core := by
  have driven : system.core.drive data = (system.drive data).core := rfl
  have register := system.ppu.writeRegister_latched false system.cart address data
  simp only [write, driven]
  repeat' split
  · rfl
  · simp only [core, drive, Ppu.unlatched, register]
  · rfl
  · simp only [oamDma, copyToOam_core]
    rfl
  · rfl
  · rfl
  · rfl

/-! ### Time -/

theorem stepPpu_core (system : System) : system.core.stepPpu.core = system.stepPpu.core := by
  obtain ⟨ppu, cart⟩ := system.ppu.step_latched false system.cart
  simp only [stepPpu, core]
  rw [← ppu, ← cart]
  rfl

theorem stepApu_core (system : System) : system.core.stepApu.core = system.stepApu.core := by
  obtain ⟨read, chip⟩ :=
    system.apu.step_core (sampleMemory system.ram system.cart system.openBus)
  obtain ⟨fetched, apu, stepped, sounded⟩ := system.stepApu_eq
  obtain ⟨coreFetched, coreApu, coreStepped, coreSounded⟩ := system.core.stepApu_eq
  have same : system.core.apu.step (sampleMemory system.core.ram system.core.cart
      system.core.openBus) = system.apu.core.step
        (sampleMemory system.ram system.cart system.openBus) := rfl
  rw [same] at coreStepped
  rw [coreStepped, stepped] at read chip
  obtain rfl : coreFetched = fetched := read
  have chip : coreApu.core = apu.core := chip
  rw [sounded, coreSounded]
  simp only [core, chip]
  rfl

theorem finish_core (system : System) : system.finish.core = system.core.finish := rfl

theorem cycle_core (system : System) : system.core.cycle.core = system.cycle.core := by
  have drawn (first second : System) (same : first.core = second.core) :
      first.stepPpu.core = second.stepPpu.core := by
    rw [← stepPpu_core, same, stepPpu_core]
  have sounded (first second : System) (same : first.core = second.core) :
      first.stepApu.core = second.stepApu.core := by
    rw [← stepApu_core, same, stepApu_core]
  have chips : system.core.stepPpu.stepPpu.stepPpu.stepApu.core =
      system.stepPpu.stepPpu.stepPpu.stepApu.core :=
    sounded _ _ (drawn _ _ (drawn _ _ (drawn _ _ rfl)))
  rw [cycle_eq, cycle_eq, finish_core, finish_core, chips]

theorem run_core (count : Nat) (system : System) :
    (run count system.core).core = (run count system).core := by
  induction count generalizing system with
  | zero => rfl
  | succ count ih => rw [run, run, ← ih system.core.cycle, cycle_core, ih system.cycle]

theorem tick_core (system : System) (cycles : UInt64) :
    (system.core.tick cycles).core = (system.tick cycles).core :=
  run_core cycles.toNat (system.chargeDma cycles)

theorem pollNmi_core (system : System) :
    system.core.pollNmi = (system.pollNmi.1, system.pollNmi.2.core) := by
  have polled := system.ppu.pollNmi_latched false
  simp only [pollNmi, core, Ppu.unlatched, polled]

/-- Systems with equal cores are the same to the processor. -/
theorem core_simulates : Bus.Simulates fun first second : System => first.core = second.core where
  read {first second} same address := by
    have answers := congrArg (read · address) same
    simp only [read_core] at answers
    exact Prod.mk.inj answers
  write {first second} same address data := by
    have written := congrArg (write · address data) same
    simp only [write_core] at written
    exact written
  tick {first second} same cycles := by
    have ticked := congrArg (fun system => (tick system cycles).core) same
    simp only [tick_core] at ticked
    exact ticked
  pollNmi {first second} same := by
    have polled := congrArg pollNmi same
    simp only [pollNmi_core] at polled
    exact Prod.mk.inj polled
  irqLine {first second} same :=
    (congrArg irqLine same : first.core.irqLine = second.core.irqLine)
  takeStall {first second} same := by
    have owed : first.core.stall = second.core.stall := congrArg stall same
    have paid := congrArg (fun system : System => { system with stall := 0 }) same
    exact ⟨owed, paid⟩

/-! ### Host actions and records -/

theorem reset_core (system : System) : system.core.reset.core = system.reset.core := rfl

theorem setButtons_core (system : System) (port : Nat) (buttons : UInt8) :
    (system.core.setButtons port buttons).core = (system.setButtons port buttons).core := by
  unfold setButtons
  split <;> rfl

end System

end Nes
