import Nes.Cpu.Machine
import Nes.Proofs.Bytes

/-!
What an instruction or an interrupt entry costs: between two and eight cycles, counted before the
bus learns of them. Cycles owed by request are not touched, so they are spent only at the end of a
step.
-/

namespace Nes

/-- The counters that only the passing of time should change. -/
def Cpu.clock (cpu : Cpu) : UInt64 × UInt64 := (cpu.cycles, cpu.stall)

/-! ### Operations -/

/-- The effects of an operation leave the counters alone. -/
def Operation.Timeless : Operation → Prop
  | .registers effect => ∀ cpu, (effect cpu).clock = cpu.clock
  | .read effect => ∀ cpu value, (effect cpu value).clock = cpu.clock
  | .modify change after =>
    (∀ cpu value, (change cpu value).2.clock = cpu.clock) ∧
      ∀ cpu value, (after cpu value).clock = cpu.clock
  | .storeHigh prepare _ _ => ∀ cpu, (prepare cpu).clock = cpu.clock
  | .pull effect => ∀ cpu value, (effect cpu value).clock = cpu.clock
  | _ => True

theorem Mnemonic.operation_timeless (mnemonic : Mnemonic) : mnemonic.operation.Timeless := by
  cases mnemonic <;> first
    | exact trivial
    | exact fun _ => rfl
    | exact fun _ _ => rfl
    | exact ⟨fun _ _ => rfl, fun _ _ => rfl⟩

/-- The operation may go elsewhere, for up to two more cycles. -/
def Operation.isBranch : Operation → Bool
  | .branch _ => true
  | _ => false

/-! ### The table -/

/-- Every instruction takes two to eight cycles with its page crossing, and a branch takes two. -/
theorem Opcode.ofByte_cycles (byte : UInt8) :
    2 ≤ (ofByte byte).cycles.toNat ∧
      (ofByte byte).cycles.toNat + (ofByte byte).pageCycles.toNat ≤ 8 ∧
      ((ofByte byte).mnemonic.operation.isBranch = true →
        (ofByte byte).cycles = 2 ∧ (ofByte byte).mode = .relative) := by
  apply byte_all fun byte => 2 ≤ (ofByte byte).cycles.toNat ∧
    (ofByte byte).cycles.toNat + (ofByte byte).pageCycles.toNat ≤ 8 ∧
    ((ofByte byte).mnemonic.operation.isBranch = true →
      (ofByte byte).cycles = 2 ∧ (ofByte byte).mode = .relative)
  decide +kernel

namespace Machine

variable {β : Type} (machine : Machine β)

/-- A taken branch costs one cycle more, or two into another page. -/
theorem branch_clock (condition : Bool) (target : UInt16) :
    ∃ extra : UInt64, extra.toNat ≤ 2 ∧
      (machine.branch condition target).cpu.clock =
        (machine.cpu.cycles + extra, machine.cpu.stall) := by
  unfold branch
  split
  · refine ⟨if crossesPage machine.cpu.pc target then 2 else 1, ?_, rfl⟩
    split <;> decide
  · exact ⟨0, by decide, by rw [UInt64.add_zero]; rfl⟩

/-! ### Counters -/

variable [Bus β]

theorem indexed_clock (opcode : Opcode) (base : UInt16) (index : UInt8) :
    (machine.indexed opcode base index).2.cpu.clock = machine.cpu.clock := by
  simp only [indexed]
  split <;> rfl

theorem operand_clock (opcode : Opcode) :
    (machine.operand opcode).2.cpu.clock = machine.cpu.clock := by
  unfold operand
  split <;> first
    | rfl
    | exact indexed_clock _ _ _ _

/-- The operand of a branch never crosses a page; a taken branch is charged for that instead. -/
theorem operand_relative {opcode : Opcode} (relative : opcode.mode = .relative) :
    (machine.operand opcode).1.crossed = false := by
  simp only [operand, relative]

/-- Carrying out an operation is free unless it is a branch. -/
theorem perform_clock {opcode : Opcode} (operand : Operand)
    (straight : opcode.mnemonic.operation.isBranch = false) :
    (machine.perform opcode operand).cpu.clock = machine.cpu.clock := by
  have timeless := opcode.mnemonic.operation_timeless
  unfold perform
  cases operation : opcode.mnemonic.operation <;> rw [operation] at timeless straight
  case registers effect => exact timeless _
  case read effect => exact timeless _ _
  case modify change after =>
    simp only
    split
    · exact timeless.1 _ _
    · exact (timeless.2 _ _).trans (timeless.1 _ _)
  case storeHigh prepare index value => exact timeless _
  case branch condition => cases straight
  case pull effect => exact timeless _ _
  case nothing =>
    simp only
    split <;> rfl
  all_goals rfl

/-! ### Entries and instructions -/

/-- The second machine has counted some more cycles, between two and eight, and owes the same. -/
def Spends (first second : Machine β) : Prop :=
  ∃ cycles : UInt64, 2 ≤ cycles.toNat ∧ cycles.toNat ≤ 8 ∧
    second.cpu.clock = (first.cpu.cycles + cycles, first.cpu.stall)

theorem baseCycles_toNat {opcode : Opcode} (operand : Operand)
    (few : opcode.cycles.toNat + opcode.pageCycles.toNat ≤ 8) :
    opcode.cycles.toNat ≤ (baseCycles opcode operand).toNat ∧
      (baseCycles opcode operand).toNat ≤ 8 := by
  unfold baseCycles
  split
  · rw [UInt64.toNat_add, UInt8.toNat_toUInt64, UInt8.toNat_toUInt64]
    omega
  · rw [UInt64.add_zero, UInt8.toNat_toUInt64]
    omega

theorem execute_spends : machine.Spends machine.execute := by
  obtain ⟨least, most, branching⟩ := Opcode.ofByte_cycles machine.fetchByte.1
  generalize found : Opcode.ofByte machine.fetchByte.1 = opcode at least most branching
  obtain ⟨cycles, stall⟩ := Prod.mk.inj (machine.fetchByte.2.operand_clock opcode)
  have uncrossed (relative : opcode.mode = .relative) :=
    machine.fetchByte.2.operand_relative relative
  have base := baseCycles_toNat (machine.fetchByte.2.operand opcode).1 most
  unfold Spends execute
  simp only [found]
  generalize machine.fetchByte.2.operand opcode = resolved at cycles stall uncrossed base
  have charged : (resolved.2.charge (baseCycles opcode resolved.1)).cpu.clock =
      (machine.cpu.cycles + baseCycles opcode resolved.1, machine.cpu.stall) :=
    Prod.ext (congrArg (· + _) cycles) stall
  cases kind : opcode.mnemonic.operation with
  | branch condition =>
    obtain ⟨two, relative⟩ := branching (by rw [kind]; rfl)
    have short : baseCycles opcode resolved.1 = 2 := by
      simp only [baseCycles, uncrossed relative, two]
      rfl
    obtain ⟨counted, owed⟩ := Prod.mk.inj charged
    obtain ⟨extra, few, taken⟩ := branch_clock (resolved.2.charge (baseCycles opcode resolved.1))
      (condition (resolved.2.charge (baseCycles opcode resolved.1)).cpu) resolved.1.address
    rw [counted, owed, short, UInt64.add_assoc] at taken
    have sum : (2 + extra).toNat = 2 + extra.toNat := by
      rw [UInt64.toNat_add]
      change (2 + extra.toNat) % 2 ^ 64 = _
      omega
    refine ⟨2 + extra, by omega, by omega, ?_⟩
    simp only [perform, kind, short]
    exact taken
  | _ =>
    have straight : opcode.mnemonic.operation.isBranch = false := by rw [kind]; rfl
    refine ⟨baseCycles opcode resolved.1, by omega, base.2, ?_⟩
    exact (perform_clock _ resolved.1 straight).trans charged

theorem interrupt_spends (vector : UInt16) : machine.Spends (machine.interrupt vector) :=
  ⟨7, by decide, by decide, rfl⟩

/-- What comes next costs between two and eight cycles and leaves requested ones for later. -/
theorem serve_spends : machine.Spends machine.serve := by
  unfold serve
  split
  · exact interrupt_spends (machine.mapCpu fun cpu => { cpu with nmiPending := false }) nmiVector
  · exact interrupt_spends machine irqVector
  · exact execute_spends machine

end Machine

end Nes
