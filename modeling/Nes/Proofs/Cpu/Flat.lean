import Nes.Bus.Flat
import Nes.Proofs.Cpu.Run

/-!
A processor on a bus with nothing but memory behind it: reads and writes are those of 64 KiB, and
neither time nor polls touch them; what the lines of such a bus say is free. What the processor does
there within a step it does on the memory alone.
-/

namespace Nes

namespace FlatMemory

theorem read_write_self (memory : FlatMemory) (address : UInt16) (data : UInt8) :
    (memory.write address data).read address = data := by
  simp [read, write]

theorem read_write_of_ne (memory : FlatMemory) {address other : UInt16} (apart : other ≠ address)
    (data : UInt8) : (memory.write address data).read other = memory.read other := by
  have places : address.toNat ≠ other.toNat := fun same => apart (UInt16.toNat_inj.mp same.symm)
  simp [read, write, Vector.getElem_set_ne, places]

/-- Two bytes in a row as a word, low byte first. -/
def word (memory : FlatMemory) (address : UInt16) : UInt16 :=
  Machine.wordOf (memory.read address) (memory.read (address + 1))

end FlatMemory

/-- Nothing but memory stands behind the bus. -/
structure Bus.Flat {β : Type} [Bus β] (memory : β → FlatMemory) : Prop where
  read : ∀ bus address, (Bus.read bus address).1 = (memory bus).read address
  readKeeps : ∀ bus address, memory (Bus.read bus address).2 = memory bus
  write : ∀ bus address data,
    memory (Bus.write bus address data) = (memory bus).write address data
  peek : ∀ bus address, Bus.peek bus address = (memory bus).read address
  tick : ∀ bus cycles, memory (Bus.tick bus cycles) = memory bus
  pollNmi : ∀ bus, memory (Bus.pollNmi bus).2 = memory bus
  takeStall : ∀ bus, memory (Bus.takeStall bus).2 = memory bus

theorem FlatMemory.flat : Bus.Flat fun memory : FlatMemory => memory where
  read _ _ := rfl
  readKeeps _ _ := rfl
  write _ _ _ := rfl
  peek _ _ := rfl
  tick _ _ := rfl
  pollNmi _ := rfl
  takeStall _ := rfl

theorem FlatBus.flat : Bus.Flat FlatBus.memory where
  read _ _ := rfl
  readKeeps _ _ := rfl
  write _ _ _ := rfl
  peek _ _ := rfl
  tick _ _ := rfl
  pollNmi _ := rfl
  takeStall _ := rfl

namespace Machine

theorem Matches.resolved {β γ : Type} [Bus β] [Bus γ] {related : β → γ → Prop}
    (respects : Bus.Respects related) {first : Machine β} {second : Machine γ}
    (same : Matches related first second) :
    Agrees related first.resolved second.resolved := by
  have byte := same.fetchByte respects
  have decoded : first.decoded = second.decoded := congrArg Opcode.ofByte byte.answer
  rw [Machine.resolved, Machine.resolved, decoded]
  exact byte.machine.operand respects _

variable {β : Type} {memory : β → FlatMemory}

/-- The processor with the memory alone. -/
def bare (memory : β → FlatMemory) (machine : Machine β) : Machine FlatMemory :=
  { cpu := machine.cpu, bus := memory machine.bus }

theorem bare_eq {machine : Machine β} {other : Machine FlatMemory}
    (same : Matches (fun bus bytes => memory bus = bytes) machine other) :
    machine.bare memory = other := by
  obtain ⟨cpu, bytes⟩ := other
  obtain ⟨rfl, rfl⟩ := same
  rfl

variable [Bus β] (flat : Bus.Flat memory) (machine : Machine β)
include flat

theorem respects_bare : Bus.Respects fun (bus : β) bytes => memory bus = bytes where
  read := by
    rintro bus _ rfl address
    exact ⟨flat.read bus address, flat.readKeeps bus address⟩
  write := by
    rintro bus _ rfl address data
    exact flat.write bus address data

theorem execute_bare : machine.execute.bare memory = (machine.bare memory).execute :=
  bare_eq (Matches.execute (respects_bare flat) ⟨rfl, rfl⟩)

theorem interrupt_bare (vector : UInt16) :
    (machine.interrupt vector).bare memory = (machine.bare memory).interrupt vector :=
  bare_eq (Matches.interrupt (respects_bare flat) ⟨rfl, rfl⟩ vector)

theorem settle_memory (rounds : Nat) :
    memory (machine.settle rounds).bus = memory machine.bus := by
  induction rounds generalizing machine with
  | zero => rfl
  | succ rounds ih =>
    simp only [settle]
    split
    · exact flat.takeStall machine.bus
    · rw [ih]
      exact (flat.tick _ _).trans (flat.takeStall machine.bus)

/-- The processor with the memory alone and no edge waiting. -/
def quiet (memory : β → FlatMemory) (machine : Machine β) : Machine FlatMemory :=
  (machine.bare memory).mapCpu fun cpu => { cpu with nmiPending := false }

variable {machine}

/-- The end of a step leaves the memory alone, and the processor up to its counters. -/
theorem step_bare (running : machine.cpu.halted = false) (rounds : Nat) :
    ((machine.stepWithin rounds).2.bare memory).mapCpu Cpu.timeless =
      (machine.latchNmi.serve.bare memory).mapCpu Cpu.timeless := by
  have same : memory (machine.stepWithin rounds).2.bus = memory machine.latchNmi.serve.bus := by
    rw [stepWithin_eq machine running]
    exact (settle_memory flat _ _).trans (flat.tick _ _)
  simp only [bare, mapCpu, same, step_timeless running]

theorem latchNmi_bare (settled : machine.latchNmi.cpu.nmiPending = false) :
    machine.latchNmi.bare memory = machine.quiet memory := by
  have same : memory machine.latchNmi.bus = memory machine.bus := flat.pollNmi machine.bus
  have cpu : machine.latchNmi.cpu =
      { machine.cpu with nmiPending := machine.latchNmi.cpu.nmiPending } := rfl
  simp only [bare, quiet, mapCpu, same]
  rw [cpu, settled]

/-- The memory holds the instruction of the next step. -/
theorem quiet_decoded {opcode : Opcode} (turn : machine.turn = .instruction opcode) :
    (machine.quiet memory).decoded = opcode := by
  obtain ⟨-, next, decoded⟩ := turn_eq_instruction_iff.mp turn
  have fetched := flat.read machine.latchNmi.bus machine.cpu.pc
  rw [← latchNmi_bare flat (next_eq_instruction_iff.mp next).1, ← decoded]
  exact congrArg Opcode.ofByte fetched.symm

theorem step_nmi_bare (turn : machine.turn = .nmi) (rounds : Nat) :
    ((machine.stepWithin rounds).2.bare memory).mapCpu Cpu.timeless =
      ((machine.quiet memory).interrupt nmiVector).mapCpu Cpu.timeless := by
  have same : memory machine.latchNmi.bus = memory machine.bus := flat.pollNmi machine.bus
  rw [step_bare flat (turn_eq_nmi_iff.mp turn).1, serve_nmi turn, interrupt_bare flat]
  simp only [bare, mapCpu, quiet, same]
  rfl

theorem step_irq_bare (turn : machine.turn = .irq) (rounds : Nat) :
    ((machine.stepWithin rounds).2.bare memory).mapCpu Cpu.timeless =
      ((machine.quiet memory).interrupt irqVector).mapCpu Cpu.timeless := by
  obtain ⟨running, settled, -⟩ := turn_eq_irq_iff.mp turn
  rw [step_bare flat running, serve_irq turn, interrupt_bare flat, latchNmi_bare flat settled]

theorem step_instruction_bare {opcode : Opcode} (turn : machine.turn = .instruction opcode)
    (rounds : Nat) : ((machine.stepWithin rounds).2.bare memory).mapCpu Cpu.timeless =
      (machine.quiet memory).execute.mapCpu Cpu.timeless := by
  obtain ⟨running, next, -⟩ := turn_eq_instruction_iff.mp turn
  rw [step_bare flat running, serve_instruction turn, execute_bare flat,
    latchNmi_bare flat (next_eq_instruction_iff.mp next).1]

end Machine

end Nes
