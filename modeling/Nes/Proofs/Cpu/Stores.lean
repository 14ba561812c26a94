import Nes.Console.Notices
import Nes.Proofs.Cpu.Run

/-!
Where an instruction writes. Besides the stack there is at most one address, and only the operations
that store have one; they cost what the table says, whether indexing leaves a page or not.
-/

namespace Nes

/-- The operation writes to an address of its own. -/
def Operation.stores : Operation → Bool
  | .modify _ _ | .store _ | .storeHigh _ _ _ => true
  | _ => false

/-- An instruction that stores does not pay for the page of its operand. -/
theorem Opcode.ofByte_stores (byte : UInt8)
    (stores : (ofByte byte).mnemonic.operation.stores = true) : (ofByte byte).pageCycles = 0 :=
  byte_all (fun byte =>
    (ofByte byte).mnemonic.operation.stores = true → (ofByte byte).pageCycles = 0)
    (by decide +kernel) byte stores

namespace Machine

variable {β : Type} {machine : Machine β}

/-- The address that an operation writes to besides the stack. -/
def destination (machine : Machine β) (opcode : Opcode) (operand : Operand) : Option UInt16 :=
  match opcode.mnemonic.operation with
  | .modify _ _ => if opcode.mode = .accumulator then none else some operand.address
  | .store _ => some operand.address
  | .storeHigh prepare index value =>
    let cpu := prepare machine.cpu
    let base := operand.address - (index cpu).toUInt16
    some (highTarget operand (value cpu &&& ((base >>> 8).toUInt8 + 1)))
  | _ => none

theorem stores_of_destination {opcode : Opcode} {operand : Operand} {address : UInt16}
    (writes : machine.destination opcode operand = some address) :
    opcode.mnemonic.operation.stores = true := by
  unfold destination at writes
  cases operation : opcode.mnemonic.operation <;> rw [operation] at writes
  case modify | store | storeHigh => rfl
  all_goals cases writes

theorem toNat_stackAddress (sp : UInt8) : (stackAddress sp).toNat = 256 + sp.toNat := by
  revert sp
  refine byte_all _ ?_
  decide +kernel

variable [Bus β]

/-- The address that the instruction at the program counter writes to besides the stack. -/
def writesTo (machine : Machine β) : Option UInt16 :=
  machine.readied.destination machine.decoded machine.resolved.1

/-! ### What an instruction keeps -/

section Keeps

variable {holds : β → Prop}
variable (read : ∀ {bus : β}, holds bus → ∀ address, holds (Bus.read bus address).2)

include read

theorem indexed_keeps (held : holds machine.bus) (opcode : Opcode) (base : UInt16)
    (index : UInt8) : holds (machine.indexed opcode base index).2.bus := by
  simp only [indexed]
  split
  · exact read held _
  · exact held

theorem operand_keeps (held : holds machine.bus) (opcode : Opcode) :
    holds (machine.operand opcode).2.bus := by
  have byte : holds machine.fetchByte.2.bus := read held _
  have word : holds machine.fetchWord.2.bus := read byte _
  unfold operand
  split
  case h_1 | h_2 | h_3 => exact held
  case h_4 | h_5 | h_6 | h_13 => exact byte
  case h_7 => exact word
  case h_8 | h_9 => exact indexed_keeps read word _ _ _
  case h_10 => exact read (read word _) _
  case h_11 => exact read (read byte _) _
  case h_12 => exact indexed_keeps read (read (read byte _) _) _ _ _

theorem readied_keeps (held : holds machine.bus) : holds machine.readied.bus :=
  operand_keeps read (read held _) _

theorem pull_keeps (held : holds machine.bus) : holds machine.pull.2.bus := read held _

theorem pullWord_keeps (held : holds machine.bus) : holds machine.pullWord.2.bus :=
  pull_keeps read (pull_keeps read held)

omit read

variable (push : ∀ {bus : β}, holds bus → ∀ sp data, holds (Bus.write bus (stackAddress sp) data))

include push

theorem push_keeps (held : holds machine.bus) (value : UInt8) : holds (machine.push value).bus :=
  push held _ _

theorem pushWord_keeps (held : holds machine.bus) (value : UInt16) :
    holds (machine.pushWord value).bus :=
  push_keeps push (push_keeps push held _) _

include read

theorem enter_keeps (held : holds machine.bus) (status : UInt8) (vector : UInt16) :
    holds (machine.enter status vector).bus := by
  have pushed := push_keeps push (pushWord_keeps push held machine.cpu.pc) status
  exact read (read pushed vector) (vector + 1)

theorem interrupt_keeps (held : holds machine.bus) (vector : UInt16) :
    holds (machine.interrupt vector).bus := by
  have entered := enter_keeps read push held machine.cpu.interruptStatus vector
  exact entered

/-- What is kept by reads, by pushes and by writes to the destination is kept by an operation. -/
theorem perform_keeps {opcode : Opcode} {operand : Operand}
    (write : ∀ address, machine.destination opcode operand = some address →
      ∀ {bus : β}, holds bus → ∀ data, holds (Bus.write bus address data))
    (held : holds machine.bus) : holds (machine.perform opcode operand).bus := by
  unfold destination at write
  unfold perform
  cases operation : opcode.mnemonic.operation <;> rw [operation] at write
  case registers effect => exact held
  case read effect => exact read held _
  case modify change after =>
    dsimp only at write ⊢
    split
    · exact held
    · rename_i memory
      have writes : ∀ {bus : β}, holds bus → ∀ data, holds (Bus.write bus operand.address data) :=
        write operand.address (if_neg memory)
      exact writes (writes (read held _) _) _
  case store value => exact write operand.address rfl held _
  case storeHigh prepare index value => exact write _ rfl held _
  case branch condition =>
    simp only [branch]
    split <;> exact held
  case push value => exact push_keeps push held _
  case pull effect => exact pull_keeps read held
  case jump => exact held
  case call => exact pushWord_keeps push held _
  case returnFromCall => exact pullWord_keeps read held
  case returnFromInterrupt =>
    dsimp only
    have pulled : holds (machine.pull.2.mapCpu fun cpu => cpu.restoreStatus machine.pull.1).bus :=
      pull_keeps read held
    exact pullWord_keeps read pulled
  case softwareInterrupt =>
    have jumped : holds (machine.jump (machine.cpu.pc + 1)).bus := held
    exact enter_keeps read push jumped _ irqVector
  case nothing =>
    dsimp only
    split
    · exact held
    · exact read held _
  case jam => exact held

theorem execute_keeps
    (write : ∀ address, machine.writesTo = some address →
      ∀ {bus : β}, holds bus → ∀ data, holds (Bus.write bus address data))
    (held : holds machine.bus) : holds machine.execute.bus := by
  rw [execute_eq]
  exact perform_keeps read push write (readied_keeps read held)

end Keeps

/-! ### Recorded writes -/

/-- Every write that has been recorded went to the stack or to one other address. -/
def WritesOnly (address : Option UInt16) (recorder : Recorder β) : Prop :=
  ∀ place data, .write place data ∈ recorder.recent →
    (∃ sp, place = stackAddress sp) ∨ address = some place

theorem WritesOnly.read {address : Option UInt16} {recorder : Recorder β}
    (only : WritesOnly address recorder) (place : UInt16) :
    WritesOnly address (Bus.read recorder place).2 := by
  intro other data member
  rcases List.mem_cons.mp member with now | before
  · cases now
  · exact only other data before

theorem WritesOnly.write {address : Option UInt16} {recorder : Recorder β}
    (only : WritesOnly address recorder) {place : UInt16}
    (allowed : (∃ sp, place = stackAddress sp) ∨ address = some place) (data : UInt8) :
    WritesOnly address (Bus.write recorder place data) := by
  intro other value member
  rcases List.mem_cons.mp member with now | before
  · cases now
    exact allowed
  · exact only other value before

theorem WritesOnly.push {address : Option UInt16} {recorder : Recorder β}
    (only : WritesOnly address recorder) (sp data : UInt8) :
    WritesOnly address (Bus.write recorder (stackAddress sp) data) :=
  only.write (.inl ⟨sp, rfl⟩) data

/-- Whatever comes next, it writes to the stack and to the destination of the instruction, if it is
one. -/
theorem serve_writesOnly (machine : Machine (Recorder β)) (fresh : machine.bus.recent = []) :
    WritesOnly (if machine.next = .instruction then machine.writesTo else none)
      machine.serve.bus := by
  have start (address : Option UInt16) : WritesOnly address machine.bus := by
    intro place data member
    rw [fresh] at member
    cases member
  unfold serve
  cases next : machine.next with
  | nmi =>
    exact @interrupt_keeps _ (machine.mapCpu fun cpu => { cpu with nmiPending := false }) _ _
      WritesOnly.read WritesOnly.push (start _) nmiVector
  | irq => exact interrupt_keeps WritesOnly.read WritesOnly.push (start _) irqVector
  | instruction =>
    rw [if_pos rfl]
    refine execute_keeps WritesOnly.read WritesOnly.push ?_ (start _)
    exact fun address writes _ only data => only.write (.inr writes) data

/-- A bus and the record of it are the same to the processor. -/
theorem recorder_simulates :
    Bus.Simulates fun (recorder : Recorder β) bus => recorder.bus = bus where
  read := by
    rintro recorder _ rfl address
    exact ⟨rfl, rfl⟩
  write := by
    rintro recorder _ rfl address data
    rfl
  tick := by
    rintro recorder _ rfl cycles
    rfl
  pollNmi := by
    rintro recorder _ rfl
    exact ⟨rfl, rfl⟩
  irqLine := by
    rintro recorder _ rfl
    rfl
  takeStall := by
    rintro recorder _ rfl
    exact ⟨rfl, rfl⟩

/-- The machine with its accesses recorded, when what comes next is done but has taken no time. -/
theorem recorded_serve (machine : Machine β) :
    machine.recorded.latchNmi.serve.cpu = machine.latchNmi.serve.cpu ∧
      machine.recorded.latchNmi.serve.bus.bus = machine.latchNmi.serve.bus := by
  have same : Matches (fun (recorder : Recorder β) bus => recorder.bus = bus) machine.recorded
      machine := ⟨rfl, rfl⟩
  have latched := same.latchNmi recorder_simulates
  have line := recorder_simulates.irqLine latched.bus
  have served := latched.serve recorder_simulates.toRespects line
  exact ⟨served.cpu, served.bus⟩

theorem settle_recent (machine : Machine (Recorder β)) (rounds : Nat) :
    (machine.settle rounds).bus.recent = machine.bus.recent := by
  induction rounds generalizing machine with
  | zero => rfl
  | succ rounds ih =>
    simp only [settle]
    split
    · rfl
    · exact ih _

/-- What a step has accessed is what came next; time that passes accesses nothing. -/
theorem step_recent {machine : Machine (Recorder β)} (running : machine.cpu.halted = false) :
    machine.step.2.bus.recent = machine.latchNmi.serve.bus.recent := by
  rw [step_eq machine running]
  exact settle_recent _ _

/-- A step that writes outside the stack is an instruction, and writes where the instruction
does. -/
theorem written_by_instruction {machine : Machine β} {address : UInt16} {data : UInt8}
    (member : .write address data ∈ machine.recorded.step.2.bus.accesses)
    (outside : ∀ sp, address ≠ stackAddress sp) :
    machine.turn = .instruction machine.latchNmi.decoded ∧
      machine.recorded.latchNmi.writesTo = some address ∧
      .write address data ∈ machine.recorded.latchNmi.serve.bus.recent := by
  rw [Recorder.accesses, List.mem_reverse] at member
  cases running : machine.cpu.halted with
  | true =>
    have still : machine.recorded.cpu.halted = true := running
    rw [step_halted _ still] at member
    cases member
  | false =>
    rw [step_recent running] at member
    rcases serve_writesOnly machine.recorded.latchNmi rfl address data member with ⟨sp, stack⟩ | own
    · exact absurd stack (outside sp)
    · split at own
      · rename_i next
        exact ⟨turn_eq_instruction_iff.mpr ⟨running, next, rfl⟩, own, member⟩
      · cases own

/-! ### Cost -/

/-- An instruction that stores costs what the table says. -/
theorem execute_clock (stores : machine.decoded.mnemonic.operation.stores = true) :
    machine.execute.cpu.clock =
      (machine.cpu.cycles + machine.decoded.cycles.toUInt64, machine.cpu.stall) := by
  have straight : machine.decoded.mnemonic.operation.isBranch = false := by
    cases operation : machine.decoded.mnemonic.operation <;> rw [operation] at stores
    case modify | store | storeHigh => rfl
    all_goals cases stores
  have base : baseCycles machine.decoded machine.resolved.1 = machine.decoded.cycles.toUInt64 := by
    have free : machine.decoded.pageCycles.toUInt64 = 0 :=
      congrArg UInt8.toUInt64 (Opcode.ofByte_stores _ stores)
    rw [baseCycles, free, ite_self, UInt64.add_zero]
  obtain ⟨cycles, stall⟩ := Prod.mk.inj (machine.fetchByte.2.operand_clock machine.decoded)
  have charged : machine.readied.cpu.clock =
      (machine.cpu.cycles + machine.decoded.cycles.toUInt64, machine.cpu.stall) := by
    rw [← base]
    exact Prod.ext (congrArg (· + baseCycles machine.decoded machine.resolved.1) cycles) stall
  rw [execute_eq]
  exact (machine.readied.perform_clock machine.resolved.1 straight).trans charged

end Machine

end Nes
