import Nes.Bus.System

/-!
A cycle as its parts: three dots, a cycle of the sound unit, and what is left of the cycle. What
each part preserves, a cycle does, and any number of cycles.
-/

namespace Nes.System

/-- What is left of a cycle after the picture and sound units. -/
def finish (system : System) : System :=
  { system.stepCart with cycles := system.cycles + 1 }

variable {holds : System → Prop} {system : System}

theorem cycle_eq (system : System) :
    system.cycle = system.stepPpu.stepPpu.stepPpu.stepApu.finish := by
  unfold cycle
  generalize system.stepPpu.stepPpu.stepPpu.stepApu = moved
  rfl

theorem cycle_preserves (dot : ∀ {system}, holds system → holds system.stepPpu)
    (sound : ∀ {system}, holds system → holds system.stepApu)
    (rest : ∀ {system}, holds system → holds system.finish) (held : holds system) :
    holds system.cycle := by
  rw [cycle_eq]
  exact rest (sound (dot (dot (dot held))))

theorem run_preserves (cycle : ∀ {system}, holds system → holds system.cycle) (count : Nat)
    (held : holds system) : holds (run count system) := by
  induction count generalizing system with
  | zero => exact held
  | succ count ih => exact ih (cycle held)

/-! ### Parts -/

/-- The byte in a cycle of the sound unit comes from memory, and costs what a read costs. -/
theorem stepApu_eq (system : System) :
    ∃ fetched apu,
      system.apu.step (sampleMemory system.ram system.cart system.openBus) = (fetched, apu) ∧
        system.stepApu =
          { system with
            apu
            stall := if fetched.isSome then system.stall + Dmc.stallCycles else system.stall } := by
  rcases stepped : system.apu.step (sampleMemory system.ram system.cart system.openBus) with
    ⟨fetched, apu⟩
  refine ⟨fetched, apu, rfl, ?_⟩
  unfold stepApu
  rw [stepped]
  cases fetched <;> rfl

theorem run_dmaPending (count : Nat) (system : System) :
    (run count system).dmaPending = system.dmaPending := by
  apply @run_preserves fun moved => moved.dmaPending = system.dmaPending
  · intro moved same
    apply @cycle_preserves fun moved => moved.dmaPending = system.dmaPending
    · exact id
    · intro moved same
      obtain ⟨fetched, apu, -, sounded⟩ := moved.stepApu_eq
      rw [sounded]
      exact same
    · exact id
    · exact same
  · rfl

/-- Once cycles have passed no copy of object memory waits to be charged. -/
theorem tick_dmaPending (system : System) (cycles : UInt64) :
    (system.tick cycles).dmaPending = false :=
  run_dmaPending _ _

end Nes.System
