import Nes.Proofs.Audio.Samples
import Nes.Proofs.Bus.Cycle

/-!
What the processor can come to owe while time passes. Each cycle of debt is counted as much as 108
cycles that pass: a read of a sample byte adds four cycles to the debt and spends the credit of 432,
so debt and credit together grow no faster than time.
-/

namespace Nes

/-! ### The sample channel behind the unit's registers -/

namespace Apu.State

variable {apu : State}

theorem clockFrameCounter_dmc (apu : State) : apu.clockFrameCounter.dmc = apu.dmc := by
  simp only [clockFrameCounter, clockSequence]
  repeat' split
  all_goals rfl

theorem clockTimers_dmc (apu : State) : apu.clockTimers.dmc = apu.dmc := by
  simp only [clockTimers]
  split <;> rfl

theorem clock_dmc (apu : State) (memory : UInt16 → UInt8) :
    (apu.clock memory).1 = (apu.dmc.step memory).1 ∧
      (apu.clock memory).2.dmc = (apu.dmc.step memory).2 := by
  simp only [clock, clockDmc, clockTimers_dmc, clockFrameCounter_dmc, and_self]

theorem writeFrameCounter_dmc (apu : State) (data : UInt8) :
    (apu.writeFrameCounter data).dmc = apu.dmc := by
  simp only [writeFrameCounter]
  split <;> rfl

theorem write_dmc (bounded : apu.dmc.Bounded) (address : UInt16) (data : UInt8) :
    (apu.write address data).dmc.Bounded := by
  unfold State.write
  repeat' split
  all_goals first
    | exact bounded
    | exact bounded.write address data
    | exact bounded.setEnabled _
    | exact (apu.writeFrameCounter_dmc data).symm ▸ bounded

end Apu.State

theorem Apu.step_dmc (apu : Apu) (memory : UInt16 → UInt8) :
    (apu.step memory).1 = (apu.state.dmc.step memory).1 ∧
      (apu.step memory).2.state.dmc = (apu.state.dmc.step memory).2 := by
  obtain ⟨fetched, dmc⟩ := apu.state.clock_dmc memory
  refine ⟨fetched, ?_⟩
  simp only [step, sample]
  split <;> exact dmc

namespace System

/-! ### Accesses -/

/-- The sample channel is within its bounds and nothing is owed. -/
structure Settled (system : System) : Prop where
  dmc : system.apu.state.dmc.Bounded
  stall : system.stall = 0

variable {system : System}

theorem Settled.read (settled : system.Settled) (address : UInt16) :
    (system.read address).2.Settled := by
  obtain ⟨dmc, stall⟩ := settled
  simp only [System.read]
  repeat' split
  all_goals exact ⟨dmc, stall⟩

theorem Settled.copyToOam (settled : system.Settled) (page : UInt16) (count : Nat) :
    (system.copyToOam page count).Settled := by
  induction count with
  | zero => exact settled
  | succ count ih =>
    have byte := ih.read (page ||| UInt16.ofNat count)
    exact ⟨byte.dmc, byte.stall⟩

theorem Settled.write (settled : system.Settled) (address : UInt16) (data : UInt8) :
    (system.write address data).Settled := by
  have driven : (system.drive data).Settled := ⟨settled.dmc, settled.stall⟩
  have copied := driven.copyToOam (data.toUInt16 <<< 8) 256
  obtain ⟨dmc, stall⟩ := driven
  simp only [System.write]
  repeat' split
  all_goals first
    | exact ⟨dmc, stall⟩
    | exact ⟨copied.dmc, copied.stall⟩
    | exact ⟨Apu.State.write_dmc dmc address data, stall⟩

theorem Settled.pollNmi (settled : system.Settled) : system.pollNmi.2.Settled :=
  ⟨settled.dmc, settled.stall⟩

/-! ### Time -/

/-- Cycles that are owed, each as much as 108, and what the sample channel can add to them. -/
def debt (system : System) : Nat := 108 * system.stall.toNat + system.apu.state.dmc.credit

theorem stepPpu_apu (system : System) : system.stepPpu.apu = system.apu := rfl

theorem stepPpu_debt (system : System) : system.stepPpu.debt = system.debt := rfl

theorem finish_apu (system : System) : system.finish.apu = system.apu := rfl

theorem finish_debt (system : System) : system.finish.debt = system.debt := rfl

theorem stepApu_debt (bounded : system.apu.state.dmc.Bounded)
    (room : system.debt + 1 < 108 * UInt64.size) :
    system.stepApu.apu.state.dmc.Bounded ∧ system.stepApu.debt ≤ system.debt + 1 := by
  have next := bounded.step (sampleMemory system.ram system.cart system.openBus)
  have spent := bounded.step_credit (sampleMemory system.ram system.cart system.openBus)
  obtain ⟨read, channel⟩ :=
    system.apu.step_dmc (sampleMemory system.ram system.cart system.openBus)
  obtain ⟨fetched, apu, stepped, sounded⟩ := system.stepApu_eq
  rw [← read, ← channel, stepped] at spent
  rw [← channel, stepped] at next
  rw [sounded]
  refine ⟨next, ?_⟩
  unfold debt at room ⊢
  cases fetched with
  | some address =>
    simp only [Option.isSome_some, if_true, Dmc.spacing] at spent ⊢
    have added : (system.stall + Dmc.stallCycles).toNat = system.stall.toNat + 4 := by
      rw [UInt64.toNat_add]
      change (system.stall.toNat + 4) % UInt64.size = _
      rw [Nat.mod_eq_of_lt (by omega)]
    omega
  | none =>
    simp only [Option.isSome_none, Bool.false_eq_true, if_false] at spent ⊢
    omega

theorem cycle_debt (bounded : system.apu.state.dmc.Bounded)
    (room : system.debt + 1 < 108 * UInt64.size) :
    system.cycle.apu.state.dmc.Bounded ∧ system.cycle.debt ≤ system.debt + 1 := by
  have drawn : system.stepPpu.stepPpu.stepPpu.debt = system.debt := by
    simp only [stepPpu_debt]
  rw [← drawn] at room ⊢
  rw [cycle_eq, finish_apu, finish_debt]
  exact stepApu_debt (by simpa only [stepPpu_apu] using bounded) room

/-- Over any number of cycles the debt grows by at most that number. -/
theorem run_debt {count : Nat} (bounded : system.apu.state.dmc.Bounded)
    (room : system.debt + count < 108 * UInt64.size) :
    (run count system).apu.state.dmc.Bounded ∧ (run count system).debt ≤ system.debt + count := by
  induction count generalizing system with
  | zero => exact ⟨bounded, Nat.le_refl _⟩
  | succ count ih =>
    obtain ⟨next, grown⟩ := cycle_debt bounded (by omega)
    obtain ⟨last, total⟩ := ih next (by omega)
    exact ⟨last, by simp only [run]; omega⟩

/-- A copy of object memory costs at most 514 cycles. -/
theorem dmaDebt_le (system : System) (cycles : UInt64) : (system.dmaDebt cycles).toNat ≤ 514 := by
  have parity (cycle : UInt64) : (oamDmaCycles + (cycle &&& 1)).toNat ≤ 514 := by
    have bit : (cycle &&& 1).toNat ≤ 1 := by
      rw [UInt64.toNat_and]
      exact Nat.and_le_right
    rw [UInt64.toNat_add]
    change (513 + (cycle &&& 1).toNat) % 2 ^ 64 ≤ 514
    omega
  simp only [dmaDebt]
  split
  · exact parity _
  · exact Nat.zero_le 514

/-- Cycles that pass with nothing owed bring a bounded debt, and no copy waits to be charged. -/
theorem Settled.tick_debt (settled : system.Settled) (cycles : UInt64) :
    (system.tick cycles).apu.state.dmc.Bounded ∧ (system.tick cycles).dmaPending = false ∧
      (system.tick cycles).debt ≤
        108 * (system.dmaDebt cycles).toNat + system.apu.state.dmc.credit + cycles.toNat := by
  have charged : (system.chargeDma cycles).debt =
      108 * (system.dmaDebt cycles).toNat + system.apu.state.dmc.credit := by
    simp only [debt, chargeDma, settled.stall, UInt64.zero_add]
  have few := system.dmaDebt_le cycles
  have credit := system.apu.state.dmc.credit_le
  have long := cycles.toNat_lt
  have bounded : (system.chargeDma cycles).apu.state.dmc.Bounded := settled.dmc
  obtain ⟨next, total⟩ := @run_debt _ cycles.toNat bounded (by rw [UInt64.size]; omega)
  refine ⟨next, tick_dmaPending _ _, ?_⟩
  rw [tick, ← charged]
  exact total

/-! ### Silence -/

/-- The sample has ended, so that time adds nothing to the cycles that are owed. -/
structure Ended (system : System) (owed : UInt64) : Prop where
  dmc : system.apu.state.dmc.Bounded
  ended : system.apu.state.dmc.bytesRemaining = 0
  stall : system.stall = owed

variable {owed : UInt64}

theorem Ended.stepApu (played : system.Ended owed) : system.stepApu.Ended owed := by
  have next := played.dmc.step (sampleMemory system.ram system.cart system.openBus)
  obtain ⟨unread, silent⟩ :=
    Dmc.step_ended played.ended (sampleMemory system.ram system.cart system.openBus)
  obtain ⟨read, channel⟩ :=
    system.apu.step_dmc (sampleMemory system.ram system.cart system.openBus)
  obtain ⟨fetched, apu, stepped, sounded⟩ := system.stepApu_eq
  rw [← read, stepped] at unread
  rw [← channel, stepped] at next silent
  obtain rfl : fetched = none := unread
  rw [sounded]
  exact ⟨next, silent, played.stall⟩

theorem Ended.run (played : system.Ended owed) (count : Nat) : (run count system).Ended owed := by
  apply @run_preserves fun moved => moved.Ended owed
  · intro moved played
    apply @cycle_preserves fun moved => moved.Ended owed
    · exact fun drawn => ⟨drawn.dmc, drawn.ended, drawn.stall⟩
    · exact Ended.stepApu
    · exact fun left => ⟨left.dmc, left.ended, left.stall⟩
    · exact played
  · exact played

/-- Only a copy of object memory that waits to be charged comes to be owed. -/
theorem Ended.tick (played : system.Ended owed) (cycles : UInt64) :
    (system.tick cycles).Ended (owed + system.dmaDebt cycles) := by
  have charged : (system.chargeDma cycles).Ended (owed + system.dmaDebt cycles) :=
    ⟨played.dmc, played.ended, congrArg (· + system.dmaDebt cycles) played.stall⟩
  exact charged.run _

/-- Nothing is owed and nothing can come to be owed: the sample has ended and no copy of object
memory waits to be charged. -/
structure Quiet (system : System) : Prop extends Settled system where
  ended : system.apu.state.dmc.bytesRemaining = 0
  dmaPending : system.dmaPending = false

theorem Quiet.read (quiet : system.Quiet) (address : UInt16) : (system.read address).2.Quiet := by
  obtain ⟨⟨dmc, stall⟩, ended, pending⟩ := quiet
  simp only [System.read]
  repeat' split
  all_goals exact ⟨⟨dmc, stall⟩, ended, pending⟩

/-- Time that passes leaves a quiet system quiet. -/
theorem Quiet.tick (quiet : system.Quiet) (cycles : UInt64) : (system.tick cycles).Quiet := by
  have free : system.dmaDebt cycles = 0 := by
    simp only [dmaDebt, quiet.dmaPending, Bool.false_eq_true, if_false]
  have played : system.Ended 0 := ⟨quiet.dmc, quiet.ended, quiet.stall⟩
  obtain ⟨dmc, ended, stall⟩ := played.tick cycles
  rw [free, UInt64.add_zero] at stall
  exact ⟨⟨dmc, stall⟩, ended, tick_dmaPending _ _⟩

/-- The reset line ends the sample and forgives what is owed. -/
theorem reset_quiet (bounded : system.apu.state.dmc.Bounded) : system.reset.Quiet :=
  ⟨⟨bounded.setEnabled false, rfl⟩, rfl, rfl⟩

end System

end Nes
