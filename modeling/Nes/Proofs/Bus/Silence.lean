import Nes.Proofs.Bus.Cycle

/-!
The sampler is heard by the host alone. A system without its sampler (the phase, the rate, the
volume and the queue of samples) answers every access as the whole system does and stays its silent
form, so processors on systems that differ only there run in step.
-/

namespace Nes

/-! ### The sound unit -/

namespace Apu.State

/-- The chip without the sampler's phase. -/
def unphased (apu : State) : State := { apu with samplePhase := {} }

theorem writeFrameCounter_unphased (apu : State) (data : UInt8) :
    apu.unphased.writeFrameCounter data = (apu.writeFrameCounter data).unphased := by
  unfold writeFrameCounter
  cases data &&& 0x80 != 0 <;> rfl

theorem write_unphased (apu : State) (address : UInt16) (data : UInt8) :
    apu.unphased.write address data = (apu.write address data).unphased := by
  simp only [write, apply_ite unphased, writeFrameCounter_unphased]
  rfl

theorem clockSequence_unphased (apu : State) :
    apu.unphased.clockSequence = apu.clockSequence.unphased := by
  simp only [clockSequence, apply_ite unphased]
  rfl

theorem clockFrameCounter_unphased (apu : State) :
    apu.unphased.clockFrameCounter = apu.clockFrameCounter.unphased := by
  have wrapped (apu : State) :
      (if apu.unphased.lastStep < apu.unphased.frameCycle then
        { apu.unphased with frameCycle := 0 } else apu.unphased) =
      (if apu.lastStep < apu.frameCycle then { apu with frameCycle := 0 } else apu).unphased := by
    rw [apply_ite unphased]
    rfl
  have counted : clockSequence { apu.unphased with frameCycle := apu.unphased.frameCycle + 1 } =
      (clockSequence { apu with frameCycle := apu.frameCycle + 1 }).unphased :=
    clockSequence_unphased { apu with frameCycle := apu.frameCycle + 1 }
  unfold clockFrameCounter
  dsimp only
  rw [counted]
  exact wrapped _

theorem clockTimers_unphased (apu : State) :
    apu.unphased.clockTimers = apu.clockTimers.unphased := by
  unfold clockTimers
  cases odd : apu.oddCycle with
  | true => simp only [unphased, odd, if_true]
  | false => simp only [unphased, odd, Bool.false_eq_true, if_false]

/-- The channels and the frame counter run without the sampler's phase as they do with it. -/
theorem clock_unphased (memory : UInt16 → UInt8) (apu : State) :
    apu.unphased.clock memory = ((apu.clock memory).1, (apu.clock memory).2.unphased) := by
  simp only [clock, clockFrameCounter_unphased, clockTimers_unphased]
  rfl

end Apu.State

namespace Apu

/-- The sound unit without its sampler. -/
def silent (apu : Apu) : Apu where
  state := apu.state.unphased
  cyclesPerSample := 0
  volume := 0
  queue := SampleQueue.empty 1

/-- Whether a sample is due, kept or dropped changes only the sampler. -/
theorem sample_silent (apu : Apu) : apu.sample.silent = apu.silent := by
  unfold sample
  dsimp only
  split <;> rfl

theorem step_silent (apu : Apu) (memory : UInt16 → UInt8) :
    (apu.silent.step memory).1 = (apu.step memory).1 ∧
      (apu.silent.step memory).2.silent = (apu.step memory).2.silent := by
  have clocked := apu.state.clock_unphased memory
  have answer : (apu.silent.step memory).1 = (apu.step memory).1 :=
    (congrArg Prod.fst clocked :)
  refine ⟨answer, ?_⟩
  simp only [step, sample_silent]
  change Apu.silent { apu.silent with state := (apu.state.unphased.clock memory).2 } = _
  rw [clocked]
  rfl

end Apu

namespace System

/-- The system without its sampler. -/
def silent (system : System) : System := { system with apu := system.apu.silent }

/-- Settings concern only the sampler. -/
theorem powerOn_silent (cart : Cartridge) (settings other : Settings) :
    (powerOn cart settings).silent = (powerOn cart other).silent := by
  simp only [silent, powerOn, Apu.silent, Apu.powerOn]

/-! ### Accesses -/

theorem read_silent (system : System) (address : UInt16) :
    system.silent.read address = ((system.read address).1, (system.read address).2.silent) := by
  simp only [read]
  repeat' split
  all_goals rfl

theorem copyToOam_silent (system : System) (page : UInt16) (count : Nat) :
    system.silent.copyToOam page count = (system.copyToOam page count).silent := by
  induction count with
  | zero => rfl
  | succ count ih =>
    simp only [copyToOam, ih, read_silent]
    rfl

theorem write_silent (system : System) (address : UInt16) (data : UInt8) :
    system.silent.write address data = (system.write address data).silent := by
  have driven : system.silent.drive data = (system.drive data).silent := rfl
  simp only [write, driven]
  repeat' split
  · rfl
  · rfl
  · rfl
  · simp only [oamDma, copyToOam_silent]
    rfl
  · rfl
  · have written := (system.drive data).apu.state.write_unphased address data
    simp only [silent, Apu.write, Apu.silent, written]
  · rfl

/-! ### Time -/

theorem stepApu_silent (system : System) :
    system.silent.stepApu.silent = system.stepApu.silent := by
  obtain ⟨read, chip⟩ :=
    system.apu.step_silent (sampleMemory system.ram system.cart system.openBus)
  obtain ⟨fetched, apu, stepped, sounded⟩ := system.stepApu_eq
  obtain ⟨silentFetched, silentApu, silentStepped, silentSounded⟩ := system.silent.stepApu_eq
  have same : system.silent.apu.step (sampleMemory system.silent.ram system.silent.cart
      system.silent.openBus) = system.apu.silent.step
        (sampleMemory system.ram system.cart system.openBus) := rfl
  rw [same] at silentStepped
  rw [silentStepped, stepped] at read chip
  obtain rfl : silentFetched = fetched := read
  have chip : silentApu.silent = apu.silent := chip
  rw [sounded, silentSounded]
  simp only [silent, chip]

theorem cycle_silent (system : System) : system.silent.cycle.silent = system.cycle.silent := by
  have finished (system : System) : system.finish.silent = system.silent.finish := rfl
  have drawn : system.silent.stepPpu.stepPpu.stepPpu = system.stepPpu.stepPpu.stepPpu.silent := rfl
  rw [cycle_eq, cycle_eq, finished, finished, drawn, stepApu_silent]

/-- Systems that differ only in their samplers differ only there after a cycle. -/
theorem cycle_alike {first second : System} (same : first.silent = second.silent) :
    first.cycle.silent = second.cycle.silent := by
  rw [← cycle_silent, same, cycle_silent]

/-! ### Host actions and records -/

theorem reset_silent (system : System) : system.reset.silent = system.silent.reset := rfl

theorem setButtons_silent (system : System) (port : Nat) (buttons : UInt8) :
    (system.setButtons port buttons).silent = system.silent.setButtons port buttons := by
  unfold setButtons
  split <;> rfl

end System

end Nes
