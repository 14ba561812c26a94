import Nes.Console.Notices
import Nes.Proofs.Cpu.Flat

/-!
The lines of a trace and the instructions they announce. A line is made from a view of the bus, by a
decoder of its own; on flat memory the processor then fetches the bytes that the line shows and
resolves the operand that it shows.
-/

namespace Nes

open Machine (wordOf nextInPage)

/-! ### Instructions that go straight on -/

/-- Whether a branch is taken is up to the flags. -/
theorem Mnemonic.operation_leaves (mnemonic : Mnemonic) {first second : Cpu}
    (same : first.status = second.status) :
    mnemonic.operation.leaves first = mnemonic.operation.leaves second := by
  cases mnemonic <;> simp [operation, Operation.leaves, Cpu.has, same]

/-- No effect is on the program counter. -/
theorem Mnemonic.operation_pc (mnemonic : Mnemonic) (address : UInt16) :
    mnemonic.operation.Preserves fun cpu => cpu.pc = address := by
  cases mnemonic <;> first
    | exact trivial
    | exact fun _ same => same
    | exact fun _ _ same => same
    | exact ⟨fun _ _ same => same, fun _ _ same => same⟩

namespace Machine

variable {β : Type} [Bus β] {machine : Machine β}

/-- An instruction that goes straight on moves the program counter behind its bytes. -/
theorem execute_pc (straight : machine.decoded.mnemonic.operation.leaves machine.cpu = false) :
    machine.execute.cpu.pc = machine.cpu.pc + UInt16.ofNat machine.decoded.mode.size := by
  have readied := machine.readied_cpu
  have pc : machine.readied.cpu.pc = machine.cpu.pc + UInt16.ofNat machine.decoded.mode.size :=
    (congrArg Cpu.pc readied :)
  have status : machine.readied.cpu.status = machine.cpu.status :=
    (congrArg Cpu.status readied :)
  rw [← machine.decoded.mnemonic.operation_leaves status] at straight
  rw [← pc]
  exact machine.readied.perform_preserves machine.resolved.1
    (machine.decoded.mnemonic.operation_pc machine.readied.cpu.pc) (fun _ _ _ held => held)
    (fun _ _ held => held) straight rfl

end Machine

/-! ### Operands -/

/-- Among the accesses a word is read from two places, low byte first. -/
def ReadsWord (accesses : List Access) (first second word : UInt16) : Prop :=
  ∃ low high, [.read first low, .read second high] <:+: accesses ∧ wordOf low high = word

theorem ReadsWord.mono {early late : List Access} {first second word : UInt16}
    (reads : ReadsWord early first second word) (more : early <+: late) :
    ReadsWord late first second word := by
  obtain ⟨low, high, within, same⟩ := reads
  exact ⟨low, high, within.trans more.isInfix, same⟩

section Shows

variable (cpu : Cpu) (memory : FlatMemory) (accesses : List Access) (address : UInt16)
variable (mnemonic : Mnemonic)

/-- What a line shows of an operand in each mode. The address or target is the one given, and the
byte is what the memory holds there; the other addresses are where the accesses lead from the bytes
of the instruction to it. -/
inductive OperandView.Shows : Mode → OperandView → Prop
  | implied : Shows .implied .none
  | accumulator : Shows .accumulator .accumulator
  | immediate (goal : cpu.pc + 1 = address) : Shows .immediate (.immediate (memory.read address))
  | zeroPage (short : UInt8) (fetched : .read (cpu.pc + 1) short ∈ accesses)
    (goal : short.toUInt16 = address) :
    Shows .zeroPage (.zeroPage short (memory.read address))
  | zeroPageX (base short : UInt8) (fetched : .read (cpu.pc + 1) base ∈ accesses)
    (indexed : base + cpu.x = short) (goal : short.toUInt16 = address) :
    Shows .zeroPageX (.zeroPageIndexed base "X" short (memory.read address))
  | zeroPageY (base short : UInt8) (fetched : .read (cpu.pc + 1) base ∈ accesses)
    (indexed : base + cpu.y = short) (goal : short.toUInt16 = address) :
    Shows .zeroPageY (.zeroPageIndexed base "Y" short (memory.read address))
  | target (jumps : mnemonic = .jmp ∨ mnemonic = .jsr)
    (fetched : ReadsWord accesses (cpu.pc + 1) (cpu.pc + 2) address) :
    Shows .absolute (.target address)
  | absolute (stays : ¬(mnemonic = .jmp ∨ mnemonic = .jsr))
    (fetched : ReadsWord accesses (cpu.pc + 1) (cpu.pc + 2) address) :
    Shows .absolute (.absolute address (memory.read address))
  | absoluteX (base : UInt16) (fetched : ReadsWord accesses (cpu.pc + 1) (cpu.pc + 2) base)
    (indexed : base + cpu.x.toUInt16 = address) :
    Shows .absoluteX (.absoluteIndexed base "X" address (memory.read address))
  | absoluteY (base : UInt16) (fetched : ReadsWord accesses (cpu.pc + 1) (cpu.pc + 2) base)
    (indexed : base + cpu.y.toUInt16 = address) :
    Shows .absoluteY (.absoluteIndexed base "Y" address (memory.read address))
  | indirect (pointer : UInt16)
    (fetched : ReadsWord accesses (cpu.pc + 1) (cpu.pc + 2) pointer)
    (followed : ReadsWord accesses pointer (nextInPage pointer) address) :
    Shows .indirect (.indirect pointer address)
  | indirectX (base pointer : UInt8) (fetched : .read (cpu.pc + 1) base ∈ accesses)
    (indexed : base + cpu.x = pointer)
    (followed : ReadsWord accesses pointer.toUInt16 (nextInPage pointer.toUInt16) address) :
    Shows .indirectX (.indirectX base pointer address (memory.read address))
  | indirectY (pointer : UInt8) (base : UInt16) (fetched : .read (cpu.pc + 1) pointer ∈ accesses)
    (followed : ReadsWord accesses pointer.toUInt16 (nextInPage pointer.toUInt16) base)
    (indexed : base + cpu.y.toUInt16 = address) :
    Shows .indirectY (.indirectY pointer base address (memory.read address))
  | relative : Shows .relative (.target address)

end Shows

namespace Machine

/-- The accesses that fetch an instruction and resolve its operand. -/
def accesses {β : Type} [Bus β] (machine : Machine β) : List Access :=
  machine.recorded.resolved.2.bus.accesses

section indexed

variable {β : Type} [Bus β]

theorem indexed_address (machine : Machine β) (opcode : Opcode) (base : UInt16) (index : UInt8) :
    (machine.indexed opcode base index).1.address = base + index.toUInt16 := by
  simp only [indexed]
  split <;> rfl

/-- Indexing adds at most one access. -/
theorem indexed_accesses (machine : Machine (Recorder β)) (opcode : Opcode) (base : UInt16)
    (index : UInt8) :
    machine.bus.accesses <+: (machine.indexed opcode base index).2.bus.accesses := by
  simp only [indexed]
  split
  · exact ⟨[_], (List.reverse_cons ..).symm⟩
  · exact List.prefix_rfl

end indexed

/-- The two decoders agree on the memory alone. -/
theorem bare_shows (machine : Machine FlatMemory) :
    machine.viewOperand.Shows machine.cpu machine.bus machine.accesses machine.resolved.1.address
      machine.decoded.mnemonic machine.decoded.mode := by
  have fetched : machine.recorded.decoded = machine.decoded := rfl
  have peeked : machine.peekOpcode = machine.decoded := rfl
  have behind : machine.cpu.pc + 1 + 1 = machine.cpu.pc + 2 := UInt16.add_assoc ..
  have word : ReadsWord machine.recorded.fetchByte.2.fetchWord.2.bus.accesses
      (machine.cpu.pc + 1) (machine.cpu.pc + 2) machine.fetchByte.2.fetchWord.1 :=
    behind ▸ ⟨_, _, ⟨[_], [], rfl⟩, rfl⟩
  simp only [viewOperand, accesses, resolved, operand, peeked, fetched]
  -- The accesses are the code, the bytes behind it and then the pointer; indexing may add one more.
  cases mode : machine.decoded.mode <;> simp only
  case implied => exact .implied
  case accumulator => exact .accumulator
  case immediate => exact .immediate rfl
  case zeroPage => exact .zeroPage _ (.tail _ (.head _)) rfl
  case zeroPageX => exact .zeroPageX _ _ (.tail _ (.head _)) rfl rfl
  case zeroPageY => exact .zeroPageY _ _ (.tail _ (.head _)) rfl rfl
  case absolute =>
    split
    case isTrue jumps => exact .target jumps word
    case isFalse stays => exact .absolute stays word
  case absoluteX =>
    rw [indexed_address]
    exact .absoluteX _ (word.mono (indexed_accesses _ _ _ _)) rfl
  case absoluteY =>
    rw [indexed_address]
    exact .absoluteY _ (word.mono (indexed_accesses _ _ _ _)) rfl
  case indirect =>
    exact .indirect _ (behind ▸ ⟨_, _, ⟨[_], [_, _], rfl⟩, rfl⟩) ⟨_, _, ⟨[_, _, _], [], rfl⟩, rfl⟩
  case indirectX => exact .indirectX _ _ (.tail _ (.head _)) rfl ⟨_, _, ⟨[_, _], [], rfl⟩, rfl⟩
  case indirectY =>
    rw [indexed_address]
    have more := indexed_accesses (machine.recorded.fetchByte.2.fetchByte.2.readWordInPage
      machine.fetchByte.2.fetchByte.1.toUInt16).2 machine.decoded
      (machine.fetchByte.2.fetchByte.2.readWordInPage
        machine.fetchByte.2.fetchByte.1.toUInt16).1 machine.cpu.y
    have followed : ReadsWord (machine.recorded.fetchByte.2.fetchByte.2.readWordInPage
        machine.fetchByte.2.fetchByte.1.toUInt16).2.bus.accesses _ _ _ :=
      ⟨_, _, ⟨[_, _], [], rfl⟩, rfl⟩
    exact .indirectY _ _ (more.subset (.tail _ (.head _))) (followed.mono more) rfl
  case relative =>
    rw [← behind]
    exact .relative

/-- The same accesses to the same memory have been recorded. -/
def SameAccesses {β : Type} (memory : β → FlatMemory) (first : Recorder β)
    (second : Recorder FlatMemory) : Prop :=
  memory first.bus = second.bus ∧ first.recent = second.recent

/-! ### Lines -/

section flat

variable {β : Type} [Bus β] {memory : β → FlatMemory} (flat : Bus.Flat memory)
variable (machine : Machine β)
include flat

theorem decoded_bare : machine.decoded = (machine.bare memory).decoded :=
  congrArg Opcode.ofByte (flat.read machine.bus machine.cpu.pc)

/-- The memory alone resolves the same operand, -/
theorem resolved_bare : machine.resolved.1 = (machine.bare memory).resolved.1 := by
  have same : Matches (fun bus bytes => memory bus = bytes) machine (machine.bare memory) :=
    ⟨rfl, rfl⟩
  exact (same.resolved (respects_bare flat)).answer

/-- by the same accesses. -/
theorem accesses_bare : machine.accesses = (machine.bare memory).accesses := by
  have respects : Bus.Respects (SameAccesses memory) := by
    constructor
    · rintro ⟨bus, recent⟩ ⟨_, _⟩ ⟨rfl, rfl⟩ address
      have answer := flat.read bus address
      exact ⟨answer, flat.readKeeps bus address, congrArg (Access.read address · :: recent) answer⟩
    · rintro ⟨bus, recent⟩ ⟨_, _⟩ ⟨rfl, rfl⟩ address data
      exact ⟨flat.write bus address data, rfl⟩
  have same : Matches (SameAccesses memory) machine.recorded (machine.bare memory).recorded :=
    ⟨rfl, rfl, rfl⟩
  exact congrArg List.reverse (same.resolved respects).machine.bus.2

/-- A line is written from the memory alone. -/
theorem viewOperand_bare : machine.viewOperand = (machine.bare memory).viewOperand := by
  have peek (address : UInt16) : machine.peek address = (machine.bare memory).peek address :=
    flat.peek machine.bus address
  simp only [viewOperand, viewZeroPage, viewAbsolute, peekOpcode, peekWord, peekWordInPage, peek]
  rfl

/-- A line shows the instruction that is decoded, -/
theorem traceLine_opcode : machine.traceLine.opcode = machine.decoded := by
  rw [decoded_bare flat]
  exact congrArg Opcode.ofByte (flat.peek machine.bus machine.cpu.pc)

/-- its bytes in memory, -/
theorem traceLine_bytes :
    machine.traceLine.bytes = (List.range machine.decoded.mode.size).map fun i =>
      (memory machine.bus).read (machine.cpu.pc + UInt16.ofNat i) := by
  rw [← traceLine_opcode flat]
  exact List.map_congr_left fun i _ => flat.peek machine.bus _

/-- and the operand that is resolved. -/
theorem traceLine_shows :
    machine.traceLine.operand.Shows machine.cpu (memory machine.bus) machine.accesses
      machine.resolved.1.address machine.decoded.mnemonic machine.decoded.mode := by
  have shown : machine.traceLine.operand = (machine.bare memory).viewOperand :=
    viewOperand_bare flat machine
  rw [accesses_bare flat, resolved_bare flat, decoded_bare flat, shown]
  exact bare_shows (machine.bare memory)

end flat

end Machine

end Nes
