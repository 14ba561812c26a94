import Nes.Proofs.Bus.Debt
import Nes.Proofs.Cpu.Cost
import Nes.Proofs.Cpu.Simulation

/-!
The end of a step, where owed cycles are spent while spending them may bring new ones. What is left
after a round is less than a hundredth of what was owed, up to the credit of the sample channel, so
the rounds come to an end whatever the debt is.
-/

namespace Nes

namespace Machine

variable {β : Type} [Bus β]

/-- Spending owed cycles comes to an end: either none are owed, or spending them all and then what
is owed afterwards does. -/
inductive Settles : Machine β → Machine β → Prop where
  | done {machine : Machine β} (paid : machine.takeStall.1 = 0) :
    Settles machine machine.takeStall.2
  | round {machine final : Machine β} (owed : machine.takeStall.1 ≠ 0)
    (rest : Settles ((machine.takeStall.2.charge machine.takeStall.1).tick machine.takeStall.1)
      final) : Settles machine final

/-- The machine once the cycles of what came next have passed, before owed cycles are spent. -/
def served (machine : Machine β) : Machine β :=
  let done := machine.latchNmi.serve
  done.tick (done.cpu.cycles - machine.cpu.cycles)

/-- Between two and eight cycles pass, and what was requested stays owed. -/
theorem served_eq (machine : Machine β) :
    ∃ cycles : UInt64, 2 ≤ cycles.toNat ∧ cycles.toNat ≤ 8 ∧
      machine.latchNmi.serve.cpu.clock = (machine.cpu.cycles + cycles, machine.cpu.stall) ∧
      machine.served = machine.latchNmi.serve.tick cycles := by
  obtain ⟨cycles, least, most, clock⟩ := machine.latchNmi.serve_spends
  have counted : machine.latchNmi.serve.cpu.cycles = machine.cpu.cycles + cycles :=
    congrArg Prod.fst clock
  refine ⟨cycles, least, most, clock, ?_⟩
  rw [served]
  simp only [counted]
  rw [UInt64.add_comm, UInt64.add_sub_cancel]

theorem stepWithin_halted (machine : Machine β) (halted : machine.cpu.halted = true)
    (rounds : Nat) : machine.stepWithin rounds = (0, machine) := by
  simp only [stepWithin, halted, if_true]

/-- A halted processor stays as it is. -/
theorem step_halted (machine : Machine β) (halted : machine.cpu.halted = true) :
    machine.step = (0, machine) :=
  machine.stepWithin_halted halted settleRounds

theorem stepWithin_eq (machine : Machine β) (running : machine.cpu.halted = false)
    (rounds : Nat) :
    machine.stepWithin rounds = ((machine.served.settle rounds).cpu.cycles - machine.cpu.cycles,
      machine.served.settle rounds) := by
  simp only [stepWithin, running, Bool.false_eq_true, if_false]
  rfl

theorem step_eq (machine : Machine β) (running : machine.cpu.halted = false) :
    machine.step = ((machine.served.settle settleRounds).cpu.cycles - machine.cpu.cycles,
      machine.served.settle settleRounds) :=
  machine.stepWithin_eq running settleRounds

/-- Where spending comes to an end, it does so in a number of rounds. -/
theorem Settles.exists_settle {machine final : Machine β} (settles : Settles machine final) :
    ∃ rounds, machine.settle rounds = final := by
  induction settles with
  | @done machine paid => exact ⟨1, by simp only [settle, paid, beq_self_eq_true, if_true]⟩
  | @round machine final owed rest ih =>
    obtain ⟨rounds, same⟩ := ih
    refine ⟨rounds + 1, ?_⟩
    simp only [settle, beq_false_of_ne owed, Bool.false_eq_true, if_false]
    exact same

end Machine

namespace Machine

variable {machine final : Machine System}

/-- Cycles that are owed, by request and by the bus, each as much as 108, and the credit of the
sample channel. -/
def debt (machine : Machine System) : Nat :=
  108 * machine.takeStall.1.toNat + machine.bus.apu.state.dmc.credit

/-- The sample channel is within its bounds and no copy of object memory waits to be charged. -/
structure Charged (machine : Machine System) : Prop where
  dmc : machine.bus.apu.state.dmc.Bounded
  dmaPending : machine.bus.dmaPending = false

/-- The machine after one round of spending. -/
def spend (machine : Machine System) : Machine System :=
  (machine.takeStall.2.charge machine.takeStall.1).tick machine.takeStall.1

/-- A round leaves no more debt than the cycles it spent and the credit it found. -/
theorem Charged.spend_debt (charged : machine.Charged) :
    machine.spend.Charged ∧
      machine.spend.debt ≤ machine.takeStall.1.toNat + machine.bus.apu.state.dmc.credit := by
  have settled : machine.takeStall.2.bus.Settled := ⟨charged.dmc, rfl⟩
  obtain ⟨dmc, pending, total⟩ := settled.tick_debt machine.takeStall.1
  have free : machine.takeStall.2.bus.dmaDebt machine.takeStall.1 = 0 := by
    have pending : machine.takeStall.2.bus.dmaPending = false := charged.dmaPending
    simp only [System.dmaDebt, pending, Bool.false_eq_true, if_false]
  have owed : machine.spend.takeStall.1 =
      (machine.takeStall.2.bus.tick machine.takeStall.1).stall := UInt64.zero_add _
  rw [free, UInt64.toNat_zero, Nat.mul_zero, Nat.zero_add, Nat.add_comm] at total
  refine ⟨⟨dmc, pending⟩, ?_⟩
  rw [debt, owed]
  exact total

/-- Debt that one round and a number of others are sure to settle: small debts shrink by a constant
in each round, large ones to a quarter. -/
def settleable : Nat → Nat
  | 0 => 107
  | rounds + 1 =>
    if settleable rounds < 900 then settleable rounds + 107 else 4 * settleable rounds

theorem settleable_round {rounds owed credit : Nat} (positive : 0 < owed) (few : credit ≤ 863)
    (within : 108 * owed + credit ≤ settleable (rounds + 1)) :
    owed + credit ≤ settleable rounds := by
  rw [settleable] at within
  split at within <;> omega

/-- Enough rounds settle the debt: the counted loop ends where the uncounted one does. -/
theorem Charged.settles (charged : machine.Charged) {rounds : Nat}
    (within : machine.debt ≤ settleable rounds) :
    Settles machine (machine.settle (rounds + 1)) := by
  induction rounds generalizing machine with
  | zero =>
    have paid : machine.takeStall.1 = 0 := by
      apply UInt64.toNat_inj.mp
      rw [settleable, debt] at within
      rw [UInt64.toNat_zero]
      omega
    simp only [settle, paid, beq_self_eq_true, if_true]
    exact .done paid
  | succ rounds ih =>
    by_cases paid : machine.takeStall.1 = 0
    · simp only [settle, paid, beq_self_eq_true, if_true]
      exact .done paid
    · obtain ⟨next, left⟩ := charged.spend_debt
      have positive : 0 < machine.takeStall.1.toNat :=
        Nat.pos_of_ne_zero fun zero => paid (UInt64.toNat_inj.mp zero)
      have shrunk := settleable_round positive machine.bus.apu.state.dmc.credit_le within
      have unpaid : (machine.takeStall.1 == 0) = false := beq_false_of_ne paid
      rw [settle]
      simp only [unpaid, Bool.false_eq_true, if_false]
      exact .round paid (ih next (Nat.le_trans left shrunk))

/-- The number of rounds that the machine allows settles every debt. -/
theorem Charged.settles_settle (charged : machine.Charged) :
    Settles machine (machine.settle settleRounds) := by
  have owed := machine.takeStall.1.toNat_lt
  have credit := machine.bus.apu.state.dmc.credit_le
  have room : 108 * 2 ^ 64 + 863 ≤ settleable 63 := by decide +kernel
  exact @settles machine charged 63 (by unfold debt; omega)

/-- Settling spends no more than the debt allows, and leaves nothing owed. -/
theorem Settles.spent_le (settles : Settles machine final) (charged : machine.Charged) :
    ∃ spent : Nat, final.cpu.cycles = machine.cpu.cycles + UInt64.ofNat spent ∧
      107 * spent ≤ machine.debt ∧ final.Charged ∧ final.bus.stall = 0 ∧ final.cpu.stall = 0 := by
  induction settles with
  | done paid =>
    exact ⟨0, (UInt64.add_zero _).symm, Nat.zero_le _, ⟨charged.dmc, charged.dmaPending⟩, rfl, rfl⟩
  | @round machine final owed rest ih =>
    obtain ⟨next, left⟩ := charged.spend_debt
    obtain ⟨spent, cycles, within, last⟩ := ih next
    refine ⟨machine.takeStall.1.toNat + spent, ?_, ?_, last⟩
    · rw [cycles, UInt64.ofNat_add, UInt64.ofNat_toNat, ← UInt64.add_assoc]
      rfl
    · have total : 107 * spent ≤ machine.takeStall.1.toNat + machine.bus.apu.state.dmc.credit :=
        Nat.le_trans within left
      unfold debt
      omega

/-! ### Steps -/

/-- Between two steps: the sample channel passes its own check and no cycles are owed. -/
structure AtRest (machine : Machine System) : Prop where
  dmc : machine.bus.apu.state.dmc.validate = .ok ()
  bus : machine.bus.stall = 0
  cpu : machine.cpu.stall = 0

/-- What comes next takes up to eight cycles, and leaves at most a copy of object memory and the
reads of the sample channel to be paid for. -/
theorem AtRest.served (rest : machine.AtRest) :
    machine.served.Charged ∧ ∃ cycles : UInt64, 2 ≤ cycles.toNat ∧ cycles.toNat ≤ 8 ∧
      machine.served.cpu.cycles = machine.cpu.cycles + cycles ∧
      machine.served.debt ≤ 108 * 514 + 863 + cycles.toNat := by
  have latched : machine.latchNmi.bus.Settled :=
    System.Settled.pollNmi ⟨Dmc.validate_iff.mp rest.dmc, rest.bus⟩
  have settled : machine.latchNmi.serve.bus.Settled :=
    serve_preserves System.Settled.read System.Settled.write latched
  obtain ⟨cycles, least, most, clock, same⟩ := machine.served_eq
  obtain ⟨counted, requested⟩ := Prod.mk.inj clock
  have owed : machine.latchNmi.serve.cpu.stall = 0 := requested.trans rest.cpu
  obtain ⟨dmc, pending, total⟩ := settled.tick_debt cycles
  have copy := machine.latchNmi.serve.bus.dmaDebt_le cycles
  have credit := machine.latchNmi.serve.bus.apu.state.dmc.credit_le
  have stall : (machine.latchNmi.serve.tick cycles).takeStall.1 =
      (machine.latchNmi.serve.bus.tick cycles).stall := by
    change machine.latchNmi.serve.cpu.stall + _ = _
    rw [owed]
    exact UInt64.zero_add _
  rw [same]
  refine ⟨⟨dmc, pending⟩, cycles, least, most, counted, ?_⟩
  have total : 108 * (machine.latchNmi.serve.bus.tick cycles).stall.toNat +
      (machine.latchNmi.serve.bus.tick cycles).apu.state.dmc.credit ≤ _ := total
  rw [debt, stall]
  exact Nat.le_trans total (by omega)

/-- From a machine at rest the loop that spends owed cycles ends, the whole step takes at most 600
cycles, and the machine is at rest again. -/
theorem AtRest.step_sound (rest : machine.AtRest) :
    (machine.cpu.halted = true ∨ Settles machine.served machine.step.2) ∧
      machine.step.1.toNat ≤ 600 ∧ machine.step.2.AtRest := by
  cases halted : machine.cpu.halted with
  | true =>
    rw [step_halted machine halted]
    exact ⟨.inl rfl, Nat.zero_le _, rest⟩
  | false =>
    rw [step_eq machine halted]
    obtain ⟨charged, cycles, least, most, counted, owed⟩ := rest.served
    have settles := charged.settles_settle
    obtain ⟨spent, total, within, last, bus, cpu⟩ := settles.spent_le charged
    refine ⟨.inr settles, ?_, Dmc.validate_iff.mpr last.dmc, bus, cpu⟩
    have elapsed : (machine.served.settle settleRounds).cpu.cycles - machine.cpu.cycles =
        cycles + UInt64.ofNat spent := by
      rw [total, counted, UInt64.add_assoc, UInt64.add_comm, UInt64.add_sub_cancel]
    rw [elapsed, UInt64.toNat_add, UInt64.toNat_ofNat']
    omega

end Machine

end Nes
