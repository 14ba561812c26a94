import Nes.Proofs.Cpu.Flat
import Nes.Proofs.Cpu.Masking
import Nes.Proofs.Cpu.Status
import Nes.Proofs.Cpu.Stores

/-!
Handlers and routines that only return. On flat memory the entry of an interrupt and the return from
it cancel, and so do a call and the return from it: nothing is left but the bytes on the stack.
-/

namespace Nes

/-! ### The stack -/

namespace Machine

/-- The halves of a word make it up again. -/
theorem wordOf_halves (value : UInt16) : wordOf value.toUInt8 (value >>> 8).toUInt8 = value := by
  apply UInt16.toNat_inj.mp
  have bound := value.toNat_lt
  have high : (value >>> 8).toUInt8.toNat = value.toNat / 2 ^ 8 := by
    rw [UInt16.toNat_toUInt8, UInt16.toNat_shiftRight]
    change value.toNat >>> 8 % 2 ^ 8 = _
    rw [Nat.shiftRight_eq_div_pow, Nat.mod_eq_of_lt (by omega)]
  rw [wordOf, UInt16.toNat_or, UInt16.toNat_shiftLeft, UInt8.toNat_toUInt16, UInt8.toNat_toUInt16,
    high, UInt16.toNat_toUInt8]
  change (value.toNat / 2 ^ 8) <<< 8 % 2 ^ 16 ||| _ = _
  have low : value.toNat % 2 ^ 8 < 2 ^ 8 := Nat.mod_lt _ (by decide)
  rw [Nat.shiftLeft_eq, Nat.mod_eq_of_lt (by omega), Nat.mul_comm,
    ← Nat.two_pow_add_eq_or_of_lt low]
  omega

end Machine

open Machine

/-- The places that a number of pushed bytes take. -/
def stackPlaces (sp : UInt8) (count : Nat) : List UInt16 :=
  (List.range count).map fun i => stackAddress (sp - UInt8.ofNat i)

theorem mem_stackPlaces_iff {sp : UInt8} {count : Nat} {place : UInt16} :
    place ∈ stackPlaces sp count ↔ ∃ i < count, stackAddress (sp - UInt8.ofNat i) = place := by
  simp [stackPlaces]

theorem stackPlaces_succ (sp : UInt8) (count : Nat) :
    stackPlaces sp (count + 1) = stackAddress sp :: stackPlaces (sp - 1) count := by
  have below (i : Nat) : sp - (UInt8.ofNat i + 1) = sp - 1 - UInt8.ofNat i := by grind
  simp [stackPlaces, List.range_succ_eq_map, Function.comp_def, below]

/-- The stack does not leave its page. -/
theorem lt_of_mem_stackPlaces {sp : UInt8} {count : Nat} {place : UInt16}
    (member : place ∈ stackPlaces sp count) : place.toNat < 0x200 := by
  obtain ⟨i, -, rfl⟩ := mem_stackPlaces_iff.mp member
  have bound := (sp - UInt8.ofNat i).toNat_lt
  rw [toNat_stackAddress]
  omega

/-- The places below another one come around to it after a whole page only. -/
theorem notMem_stackPlaces_sub_one {sp : UInt8} {count : Nat} (few : count < 256) :
    stackAddress sp ∉ stackPlaces (sp - 1) count := by
  intro member
  obtain ⟨i, below, same⟩ := mem_stackPlaces_iff.mp member
  have same := congrArg UInt16.toNat same
  rw [toNat_stackAddress, toNat_stackAddress, UInt8.toNat_sub, UInt8.toNat_sub,
    UInt8.toNat_ofNat', UInt8.toNat_one] at same
  have bound := sp.toNat_lt
  omega

/-- The bytes of a word as they are pushed. -/
def pushedWord (value : UInt16) : List UInt8 := [(value >>> 8).toUInt8, value.toUInt8]

namespace FlatMemory

/-- The memory with bytes pushed one after the other. -/
def pushed (memory : FlatMemory) (sp : UInt8) : List UInt8 → FlatMemory
  | [] => memory
  | byte :: rest => (memory.write (stackAddress sp) byte).pushed (sp - 1) rest

variable (memory : FlatMemory) (sp : UInt8)

/-- Pushing changes the places on the stack only. -/
theorem read_pushed_of_notMem {bytes : List UInt8} {place : UInt16}
    (apart : place ∉ stackPlaces sp bytes.length) :
    (memory.pushed sp bytes).read place = memory.read place := by
  induction bytes generalizing memory sp with
  | nil => rfl
  | cons byte rest ih =>
    rw [List.length_cons, stackPlaces_succ, List.mem_cons, not_or] at apart
    rw [pushed, ih _ _ apart.2, memory.read_write_of_ne apart.1]

/-- The first of up to a page of pushed bytes reads back. -/
theorem read_pushed_cons (byte : UInt8) {rest : List UInt8} (few : rest.length < 256) :
    (memory.pushed sp (byte :: rest)).read (stackAddress sp) = byte := by
  rw [pushed, read_pushed_of_notMem _ _ (notMem_stackPlaces_sub_one few),
    memory.read_write_self]

/-- A pushed word reads back, whatever is pushed behind it within the page. -/
theorem wordOf_pushed (value : UInt16) {rest : List UInt8} (few : rest.length < 255) :
    wordOf ((memory.pushed sp (pushedWord value ++ rest)).read (stackAddress (sp - 1)))
      ((memory.pushed sp (pushedWord value ++ rest)).read (stackAddress sp)) = value := by
  have high : (memory.pushed sp (pushedWord value ++ rest)).read (stackAddress sp) =
      (value >>> 8).toUInt8 :=
    memory.read_pushed_cons sp _ (Nat.succ_lt_succ few)
  have low : (memory.pushed sp (pushedWord value ++ rest)).read (stackAddress (sp - 1)) =
      value.toUInt8 :=
    (memory.write (stackAddress sp) _).read_pushed_cons (sp - 1) _ (Nat.lt_succ_of_lt few)
  rw [high, low, wordOf_halves]

/-- What lies outside the stack's page reads as before. -/
theorem word_pushed {bytes : List UInt8} {address : UInt16}
    (beyond : 0x200 ≤ address.toNat) (fits : address.toNat < 0xFFFF) :
    (memory.pushed sp bytes).word address = memory.word address := by
  have next : (address + 1).toNat = address.toNat + 1 := by
    rw [UInt16.toNat_add, UInt16.toNat_one]
    omega
  have here : address ∉ stackPlaces sp bytes.length := fun member =>
    absurd (lt_of_mem_stackPlaces member) (by omega)
  have behind : address + 1 ∉ stackPlaces sp bytes.length := fun member =>
    absurd (lt_of_mem_stackPlaces member) (by omega)
  rw [word, word, read_pushed_of_notMem _ _ here, read_pushed_of_notMem _ _ behind]

end FlatMemory

/-! ### Entries -/

/-- The ways into an interrupt handler. -/
inductive Entry where
  | nmi
  | irq
  | brk
  deriving DecidableEq

namespace Entry

def turn : Entry → Turn
  | nmi => .nmi
  | irq => .irq
  | brk => .instruction (Opcode.ofByte 0x00)

/-- Where the address of the handler is. -/
def vector : Entry → UInt16
  | nmi => nmiVector
  | irq | brk => irqVector

/-- Where the program goes on: at the instruction that the interrupt came before, or behind the byte
that follows the instruction for it. -/
def returns (cpu : Cpu) : Entry → UInt16
  | nmi | irq => cpu.pc
  | brk => cpu.pc + 2

/-- The status on the stack, where the instruction is marked. -/
def pushes (cpu : Cpu) : Entry → UInt8
  | nmi | irq => cpu.status
  | brk => cpu.status ||| Flag.pushed.mask

end Entry

/-- The copies on the stack differ in the mark only, and give the status back. -/
theorem Cpu.Regular.pushes {cpu : Cpu} (regular : cpu.Regular) (entry : Entry) :
    cpu.interruptStatus = cpu.status ∧ cpu.pushedStatus = cpu.status ||| Flag.pushed.mask ∧
      (cpu.restoreStatus (entry.pushes cpu)).status = cpu.status := by
  have all (status : UInt8) : status &&& 0x30 = 0x20 →
      (status &&& ~~~Flag.pushed.mask) ||| Flag.unused.mask = status ∧
        status ||| Flag.pushed.mask ||| Flag.unused.mask = status ||| Flag.pushed.mask ∧
        ((status ||| Flag.pushed.mask) &&& ~~~Flag.pushed.mask) ||| Flag.unused.mask = status := by
    revert status
    refine byte_all _ ?_
    decide +kernel
  obtain ⟨plain, marked, restored⟩ := all cpu.status regular
  refine ⟨plain, marked, ?_⟩
  cases entry with
  | nmi | irq => exact plain
  | brk => exact restored

/-- Only the instruction leaves the mark. -/
theorem Cpu.Regular.marked_iff {cpu : Cpu} (regular : cpu.Regular) (entry : Entry) :
    entry.pushes cpu &&& Flag.pushed.mask ≠ 0 ↔ entry = .brk := by
  have all (status : UInt8) : status &&& 0x30 = 0x20 →
      status &&& Flag.pushed.mask = 0 ∧
        (status ||| Flag.pushed.mask) &&& Flag.pushed.mask ≠ 0 := by
    revert status
    refine byte_all _ ?_
    decide +kernel
  obtain ⟨clear, marked⟩ := all cpu.status regular
  cases entry <;> simp [Entry.pushes, clear, marked]

/-! ### Going and coming back -/

/-- A processor goes on at an address with the registers of another. -/
structure Cpu.Resumes (before : Cpu) (address : UInt16) (after : Cpu) : Prop where
  a : after.a = before.a
  x : after.x = before.x
  y : after.y = before.y
  sp : after.sp = before.sp
  status : after.status = before.status
  pc : after.pc = address

theorem Cpu.Resumes.of_timeless {before after other : Cpu} {address : UInt16}
    (resumes : before.Resumes address after) (same : other.timeless = after.timeless) :
    before.Resumes address other :=
  ⟨(congrArg Cpu.a same :).trans resumes.a, (congrArg Cpu.x same :).trans resumes.x,
    (congrArg Cpu.y same :).trans resumes.y, (congrArg Cpu.sp same :).trans resumes.sp,
    (congrArg Cpu.status same :).trans resumes.status, (congrArg Cpu.pc same :).trans resumes.pc⟩

namespace Machine

/-- The program has gone elsewhere with bytes pushed; of the status nothing is said. -/
structure Detour (start : Machine FlatMemory) (bytes : List UInt8) (target : UInt16)
    (there : Machine FlatMemory) : Prop where
  a : there.cpu.a = start.cpu.a
  x : there.cpu.x = start.cpu.x
  y : there.cpu.y = start.cpu.y
  sp : there.cpu.sp = start.cpu.sp - UInt8.ofNat bytes.length
  pc : there.cpu.pc = target
  halted : there.cpu.halted = start.cpu.halted
  bus : there.bus = start.bus.pushed start.cpu.sp bytes

/-! ### On memory alone -/

section bare

theorem fetchByte_bare (machine : Machine FlatMemory) : machine.fetchByte =
    (machine.bus.read machine.cpu.pc, machine.mapCpu fun cpu => cpu.skip 1) := rfl

theorem fetchWord_bare (machine : Machine FlatMemory) : machine.fetchWord =
    (machine.bus.word machine.cpu.pc, machine.mapCpu fun cpu => cpu.skip 2) := by
  have both : machine.cpu.skip 2 = (machine.cpu.skip 1).skip 1 :=
    (machine.cpu.skip_skip 1 1).symm
  rw [mapCpu, both]
  rfl

theorem pushWord_bare (machine : Machine FlatMemory) (value : UInt16) :
    machine.pushWord value =
      { cpu := { machine.cpu with sp := machine.cpu.sp - 1 - 1 }
        bus := machine.bus.pushed machine.cpu.sp (pushedWord value) } := rfl

theorem pull_bare (machine : Machine FlatMemory) : machine.pull =
    (machine.bus.read (stackAddress (machine.cpu.sp + 1)),
      machine.mapCpu fun cpu => { cpu with sp := cpu.sp + 1 }) := rfl

theorem pullWord_bare (machine : Machine FlatMemory) : machine.pullWord =
    (wordOf (machine.bus.read (stackAddress (machine.cpu.sp + 1)))
        (machine.bus.read (stackAddress (machine.cpu.sp + 1 + 1))),
      machine.mapCpu fun cpu => { cpu with sp := cpu.sp + 1 + 1 }) := rfl

theorem enter_detour (machine : Machine FlatMemory) (status : UInt8) (vector : UInt16)
    (beyond : 0x200 ≤ vector.toNat) (fits : vector.toNat < 0xFFFF) :
    Detour machine (pushedWord machine.cpu.pc ++ [status]) (machine.bus.word vector)
      (machine.enter status vector) := by
  have bus : (machine.enter status vector).bus =
      machine.bus.pushed machine.cpu.sp (pushedWord machine.cpu.pc ++ [status]) := rfl
  have cpu : (machine.enter status vector).cpu =
      { machine.cpu.withFlag .interruptDisable true with
        sp := machine.cpu.sp - 1 - 1 - 1
        pc := (machine.enter status vector).bus.word vector } := rfl
  have sp : machine.cpu.sp - 1 - 1 - 1 = machine.cpu.sp - 3 := by grind
  rw [bus, machine.bus.word_pushed _ beyond fits, sp] at cpu
  refine ⟨?_, ?_, ?_, ?_, ?_, ?_, bus⟩ <;> rw [cpu] <;> rfl

theorem interrupt_detour (machine : Machine FlatMemory) (vector : UInt16)
    (beyond : 0x200 ≤ vector.toNat) (fits : vector.toNat < 0xFFFF) :
    Detour machine (pushedWord machine.cpu.pc ++ [machine.cpu.interruptStatus])
      (machine.bus.word vector) (machine.interrupt vector) := by
  have entered := enter_detour machine machine.cpu.interruptStatus vector beyond fits
  exact ⟨entered.a, entered.x, entered.y, entered.sp, entered.pc, entered.halted, entered.bus⟩

variable {machine : Machine FlatMemory} {opcode : Opcode}

/-- An instruction of one byte. -/
theorem execute_implied (decoded : machine.decoded = opcode) (mode : opcode.mode = .implied)
    (prompt : opcode.mnemonic.delaysMask = false) :
    machine.execute =
      (((machine.mapCpu fun cpu => cpu.skip 1).charge (baseCycles opcode { address := 0 })).perform
        opcode { address := 0 }).mapCpu
          fun cpu => { cpu with irqInhibit := cpu.has .interruptDisable } := by
  have operand : machine.fetchByte.2.operand opcode = ({ address := 0 }, machine.fetchByte.2) := by
    simp only [Machine.operand, mode]
  subst decoded
  rw [execute_eq, readied, resolved, operand, prompt]
  rfl

theorem execute_brk (decoded : machine.decoded = opcode) (mode : opcode.mode = .implied)
    (brk : opcode.mnemonic = .brk) :
    Detour machine (pushedWord (machine.cpu.pc + 2) ++ [machine.cpu.pushedStatus])
      (machine.bus.word irqVector) machine.execute := by
  have operation : opcode.mnemonic.operation = .softwareInterrupt := by
    rw [brk]
    rfl
  have padded : machine.cpu.pc + 1 + 1 = machine.cpu.pc + 2 := UInt16.add_assoc ..
  have entered := enter_detour (((machine.mapCpu fun cpu => cpu.skip 1).charge
    (baseCycles opcode { address := 0 })).jump (machine.cpu.pc + 1 + 1))
    machine.cpu.pushedStatus irqVector (by decide) (by decide)
  rw [execute_implied decoded mode (by rw [brk]; rfl), perform, operation, ← padded]
  exact ⟨entered.a, entered.x, entered.y, entered.sp, entered.pc, entered.halted, entered.bus⟩

theorem execute_jsr (decoded : machine.decoded = opcode) (mode : opcode.mode = .absolute)
    (jsr : opcode.mnemonic = .jsr) :
    machine.execute =
      { cpu := { machine.cpu with
          sp := machine.cpu.sp - 2
          pc := machine.bus.word (machine.cpu.pc + 1)
          cycles := machine.cpu.cycles +
            baseCycles opcode { address := machine.bus.word (machine.cpu.pc + 1) }
          irqInhibit := machine.cpu.has .interruptDisable }
        bus := machine.bus.pushed machine.cpu.sp (pushedWord (machine.cpu.pc + 2)) } := by
  have operation : opcode.mnemonic.operation = .call := by
    rw [jsr]
    rfl
  have prompt : opcode.mnemonic.delaysMask = false := by
    rw [jsr]
    rfl
  have operand : machine.fetchByte.2.operand opcode =
      ({ address := machine.bus.word (machine.cpu.pc + 1) },
        machine.mapCpu fun cpu => cpu.skip 3) := by
    simp only [Machine.operand, mode, fetchByte_bare, fetchWord_bare, mapCpu, Cpu.skip_skip]
    rfl
  have last : machine.cpu.pc + UInt16.ofNat 3 - 1 = machine.cpu.pc + 2 := by grind
  have sp : machine.cpu.sp - 1 - 1 = machine.cpu.sp - 2 := by grind
  subst decoded
  rw [execute_eq, readied, resolved, operand, perform, operation, prompt, ← last]
  simp only [pushWord_bare, mapCpu, charge, jump, Cpu.skip, sp]
  rfl

/-- The return from an interrupt takes back what the entry has left on the stack. -/
theorem execute_rti (decoded : machine.decoded = opcode) (mode : opcode.mode = .implied)
    (rti : opcode.mnemonic = .rti) {start : Machine FlatMemory} {address target : UInt16}
    {status : UInt8} (detour : Detour start (pushedWord address ++ [status]) target machine) :
    (start.cpu.restoreStatus status).Resumes address machine.execute.cpu ∧
      machine.execute.bus = machine.bus := by
  have operation : opcode.mnemonic.operation = .returnFromInterrupt := by
    rw [rti]
    rfl
  have lowered : machine.cpu.sp = start.cpu.sp - 3 := detour.sp
  have newest : machine.cpu.sp + 1 = start.cpu.sp - 1 - 1 := by grind
  have marked : machine.bus.read (stackAddress (start.cpu.sp - 1 - 1)) = status := by
    rw [detour.bus]
    exact ((start.bus.write _ _).write _ _).read_pushed_cons _ status (by decide : 0 < 256)
  have returned : wordOf (machine.bus.read (stackAddress (start.cpu.sp - 1)))
      (machine.bus.read (stackAddress start.cpu.sp)) = address := by
    rw [detour.bus]
    exact start.bus.wordOf_pushed _ address (by decide : 1 < 255)
  rw [execute_implied decoded mode (by rw [rti]; rfl), perform, operation]
  simp only [pull_bare, pullWord_bare, mapCpu, charge, jump, Cpu.skip, Cpu.restoreStatus, newest,
    UInt8.sub_add_cancel, marked, returned]
  exact ⟨⟨detour.a, detour.x, detour.y, rfl, rfl, rfl⟩, trivial⟩

/-- So does the return from a call. -/
theorem execute_rts (decoded : machine.decoded = opcode) (mode : opcode.mode = .implied)
    (rts : opcode.mnemonic = .rts) {start : Machine FlatMemory} {address target : UInt16}
    (detour : Detour start (pushedWord address) target machine)
    (kept : machine.cpu.status = start.cpu.status) :
    start.cpu.Resumes (address + 1) machine.execute.cpu ∧ machine.execute.bus = machine.bus := by
  have operation : opcode.mnemonic.operation = .returnFromCall := by
    rw [rts]
    rfl
  have lowered : machine.cpu.sp = start.cpu.sp - 2 := detour.sp
  have newest : machine.cpu.sp + 1 = start.cpu.sp - 1 := by grind
  have returned : wordOf (machine.bus.read (stackAddress (start.cpu.sp - 1)))
      (machine.bus.read (stackAddress start.cpu.sp)) = address := by
    rw [detour.bus]
    exact start.bus.wordOf_pushed _ address (by decide : 0 < 255)
  rw [execute_implied decoded mode (by rw [rts]; rfl), perform, operation]
  simp only [pullWord_bare, mapCpu, charge, jump, Cpu.skip, newest, UInt8.sub_add_cancel, returned]
  exact ⟨⟨detour.a, detour.x, detour.y, rfl, kept, rfl⟩, trivial⟩

end bare

/-! ### Steps -/

section flat

variable {β : Type} {memory : β → FlatMemory} {machine : Machine β}
variable {start there other : Machine FlatMemory} {bytes : List UInt8} {target : UInt16}

theorem Detour.of_timeless (detour : Detour start bytes target there)
    (same : other.mapCpu Cpu.timeless = there.mapCpu Cpu.timeless) :
    Detour start bytes target other := by
  have cpu : other.cpu.timeless = there.cpu.timeless := congrArg Machine.cpu same
  exact ⟨(congrArg Cpu.a cpu :).trans detour.a, (congrArg Cpu.x cpu :).trans detour.x,
    (congrArg Cpu.y cpu :).trans detour.y, (congrArg Cpu.sp cpu :).trans detour.sp,
    (congrArg Cpu.pc cpu :).trans detour.pc, (congrArg Cpu.halted cpu :).trans detour.halted,
    (congrArg Machine.bus same :).trans detour.bus⟩

/-- A waiting edge does not matter where a detour begins, -/
theorem Detour.of_quiet (detour : Detour (machine.quiet memory) bytes target there) :
    Detour (machine.bare memory) bytes target there :=
  ⟨detour.a, detour.x, detour.y, detour.sp, detour.pc, detour.halted, detour.bus⟩

/-- nor where it leads. -/
theorem Detour.quiet (detour : Detour start bytes target (machine.bare memory)) :
    Detour start bytes target (machine.quiet memory) :=
  ⟨detour.a, detour.x, detour.y, detour.sp, detour.pc, detour.halted, detour.bus⟩

variable [Bus β] (flat : Bus.Flat memory)
include flat

theorem step_entry (regular : machine.cpu.Regular) {entry : Entry}
    (turn : machine.turn = entry.turn) (rounds : Nat) :
    Detour (machine.bare memory)
      (pushedWord (entry.returns machine.cpu) ++ [entry.pushes machine.cpu])
      ((memory machine.bus).word entry.vector) ((machine.stepWithin rounds).2.bare memory) := by
  obtain ⟨plain, marked, -⟩ := regular.pushes entry
  cases entry with
  | nmi =>
    have entered := interrupt_detour (machine.quiet memory) nmiVector (by decide) (by decide)
    have same : (machine.quiet memory).cpu.interruptStatus = machine.cpu.status := plain
    rw [same] at entered
    exact (entered.of_timeless (step_nmi_bare flat turn rounds)).of_quiet
  | irq =>
    have entered := interrupt_detour (machine.quiet memory) irqVector (by decide) (by decide)
    have same : (machine.quiet memory).cpu.interruptStatus = machine.cpu.status := plain
    rw [same] at entered
    exact (entered.of_timeless (step_irq_bare flat turn rounds)).of_quiet
  | brk =>
    have entered := execute_brk (quiet_decoded flat turn) rfl rfl
    have same : (machine.quiet memory).cpu.pushedStatus =
        machine.cpu.status ||| Flag.pushed.mask := marked
    rw [same] at entered
    exact (entered.of_timeless (step_instruction_bare flat turn rounds)).of_quiet

/-- The return of a step takes back what an entry has left on the stack. -/
theorem step_rti (turn : machine.turn = .instruction (Opcode.ofByte 0x40)) {address : UInt16}
    {status : UInt8}
    (detour : Detour start (pushedWord address ++ [status]) target (machine.bare memory))
    (rounds : Nat) :
    (start.cpu.restoreStatus status).Resumes address (machine.stepWithin rounds).2.cpu ∧
      memory (machine.stepWithin rounds).2.bus = memory machine.bus := by
  obtain ⟨resumes, kept⟩ := execute_rti (quiet_decoded flat turn) rfl rfl detour.quiet
  have same := step_instruction_bare flat turn rounds
  exact ⟨resumes.of_timeless (congrArg Machine.cpu same),
    (congrArg Machine.bus same :).trans kept⟩

theorem step_jsr (turn : machine.turn = .instruction (Opcode.ofByte 0x20)) (rounds : Nat) :
    Detour (machine.bare memory) (pushedWord (machine.cpu.pc + 2))
        ((memory machine.bus).word (machine.cpu.pc + 1))
        ((machine.stepWithin rounds).2.bare memory) ∧
      (machine.stepWithin rounds).2.cpu.status = machine.cpu.status := by
  have same := step_instruction_bare flat turn rounds
  rw [execute_jsr (quiet_decoded flat turn) rfl rfl] at same
  have status : (machine.stepWithin rounds).2.cpu.status = machine.cpu.status :=
    congrArg (fun after => after.cpu.status) same
  refine ⟨(Detour.of_timeless ?_ same).of_quiet, status⟩
  exact ⟨rfl, rfl, rfl, rfl, rfl, rfl, rfl⟩

theorem step_rts (turn : machine.turn = .instruction (Opcode.ofByte 0x60)) {address : UInt16}
    (detour : Detour start (pushedWord address) target (machine.bare memory))
    (kept : machine.cpu.status = start.cpu.status) (rounds : Nat) :
    start.cpu.Resumes (address + 1) (machine.stepWithin rounds).2.cpu ∧
      memory (machine.stepWithin rounds).2.bus = memory machine.bus := by
  obtain ⟨resumes, unchanged⟩ := execute_rts (quiet_decoded flat turn) rfl rfl detour.quiet kept
  have same := step_instruction_bare flat turn rounds
  exact ⟨resumes.of_timeless (congrArg Machine.cpu same),
    (congrArg Machine.bus same :).trans unchanged⟩

/-- A processor that runs and takes no interrupt carries out what the memory holds. -/
theorem turn_eq_instruction (running : machine.cpu.halted = false) (noNmi : machine.turn ≠ .nmi)
    (noIrq : machine.turn ≠ .irq) :
    machine.turn = .instruction (Opcode.ofByte ((memory machine.bus).read machine.cpu.pc)) := by
  cases turn : machine.turn with
  | rest => cases running.symm.trans (turn_eq_rest_iff.mp turn)
  | nmi => exact absurd turn noNmi
  | irq => exact absurd turn noIrq
  | instruction opcode => rw [← quiet_decoded flat turn]; rfl

/-- An entry and the return behind it. -/
theorem step_entry_rti (regular : machine.cpu.Regular) {entry : Entry} {first : Nat}
    (turn : machine.turn = entry.turn)
    (rti : (memory machine.bus).read ((memory machine.bus).word entry.vector) = 0x40)
    (apart : (memory machine.bus).word entry.vector ∉ stackPlaces machine.cpu.sp 3)
    (noNmi : (machine.receive (.step first)).turn ≠ .nmi) (second : Nat) :
    machine.cpu.Resumes (entry.returns machine.cpu)
        (follow machine [.step first, .step second]).cpu ∧
      memory (follow machine [.step first, .step second]).bus =
        (memory machine.bus).pushed machine.cpu.sp
          (pushedWord (entry.returns machine.cpu) ++ [entry.pushes machine.cpu]) := by
  have detour := step_entry flat regular turn first
  have masks : machine.cpu.halted = false ∧ machine.Masks (.step first) := by
    cases entry with
    | nmi => exact ⟨(turn_eq_nmi_iff.mp turn).1, .inl turn⟩
    | irq => exact ⟨(turn_eq_irq_iff.mp turn).1, .inr (.inl turn)⟩
    | brk => exact ⟨(turn_eq_instruction_iff.mp turn).1, .inr (.inr ⟨_, turn, rfl⟩)⟩
  -- The mask is set at once, so that the line cannot come before the handler.
  have noIrq : (machine.receive (.step first)).turn ≠ .irq := fun irq => by
    cases masks.2.shielded.2.symm.trans (turn_eq_irq_iff.mp irq).2.2.1
  have running : (machine.receive (.step first)).cpu.halted = false := detour.halted.trans masks.1
  have next := turn_eq_instruction flat running noNmi noIrq
  have bus : memory (machine.receive (.step first)).bus =
      (memory machine.bus).pushed machine.cpu.sp
        (pushedWord (entry.returns machine.cpu) ++ [entry.pushes machine.cpu]) := detour.bus
  have pc : (machine.receive (.step first)).cpu.pc = (memory machine.bus).word entry.vector :=
    detour.pc
  rw [bus, pc, FlatMemory.read_pushed_of_notMem _ _ apart, rti] at next
  obtain ⟨resumes, kept⟩ := step_rti flat next detour second
  refine ⟨⟨resumes.a, resumes.x, resumes.y, resumes.sp, ?_, resumes.pc⟩, kept.trans bus⟩
  exact resumes.status.trans (regular.pushes entry).2.2

/-- A call and the return behind it. -/
theorem step_jsr_rts {first : Nat} (turn : machine.turn = .instruction (Opcode.ofByte 0x20))
    (rts : (memory machine.bus).read ((memory machine.bus).word (machine.cpu.pc + 1)) = 0x60)
    (apart : (memory machine.bus).word (machine.cpu.pc + 1) ∉ stackPlaces machine.cpu.sp 2)
    (noNmi : (machine.receive (.step first)).turn ≠ .nmi)
    (noIrq : (machine.receive (.step first)).turn ≠ .irq) (second : Nat) :
    machine.cpu.Resumes (machine.cpu.pc + 3) (follow machine [.step first, .step second]).cpu ∧
      memory (follow machine [.step first, .step second]).bus =
        (memory machine.bus).pushed machine.cpu.sp (pushedWord (machine.cpu.pc + 2)) := by
  obtain ⟨detour, status⟩ := step_jsr flat turn first
  have running : (machine.receive (.step first)).cpu.halted = false :=
    detour.halted.trans (turn_eq_instruction_iff.mp turn).1
  have next := turn_eq_instruction flat running noNmi noIrq
  have bus : memory (machine.receive (.step first)).bus =
      (memory machine.bus).pushed machine.cpu.sp (pushedWord (machine.cpu.pc + 2)) := detour.bus
  have pc : (machine.receive (.step first)).cpu.pc =
      (memory machine.bus).word (machine.cpu.pc + 1) := detour.pc
  rw [bus, pc, FlatMemory.read_pushed_of_notMem _ _ apart, rts] at next
  obtain ⟨resumes, kept⟩ := step_rts flat next detour status second
  have behind : machine.cpu.pc + 2 + 1 = machine.cpu.pc + 3 := UInt16.add_assoc ..
  rw [behind] at resumes
  exact ⟨resumes, kept.trans bus⟩

end flat

variable {β : Type} [Bus β]

/-- The two bits of the status that exist only on the stack never show in the register. And on flat
memory interrupts and calls are transparent: when the handler is a lone return that the pushed bytes
leave alone, and no edge follows, the program goes on as if nothing had happened, with these bytes
in memory; and so with a routine that only returns. It does not matter in how many rounds the two
steps spend what is owed. -/
theorem interrupt_transparent :
    (∀ (bus : β) stimuli, (after bus stimuli).cpu.Regular) ∧
    ∀ memory : β → FlatMemory, Bus.Flat memory →
      ∀ (machine : Machine β) (first second : Nat), machine.cpu.Regular →
        (∀ entry : Entry, machine.turn = entry.turn →
          (memory machine.bus).read ((memory machine.bus).word entry.vector) = 0x40 →
          (memory machine.bus).word entry.vector ∉ stackPlaces machine.cpu.sp 3 →
          (machine.receive (.step first)).turn ≠ .nmi →
            machine.cpu.Resumes (entry.returns machine.cpu)
                (follow machine [.step first, .step second]).cpu ∧
              memory (follow machine [.step first, .step second]).bus =
                (memory machine.bus).pushed machine.cpu.sp
                  (pushedWord (entry.returns machine.cpu) ++ [entry.pushes machine.cpu]) ∧
              (entry.pushes machine.cpu &&& Flag.pushed.mask ≠ 0 ↔ entry = .brk)) ∧
        (machine.turn = .instruction (Opcode.ofByte 0x20) →
          (memory machine.bus).read ((memory machine.bus).word (machine.cpu.pc + 1)) = 0x60 →
          (memory machine.bus).word (machine.cpu.pc + 1) ∉ stackPlaces machine.cpu.sp 2 →
          (machine.receive (.step first)).turn ≠ .nmi →
          (machine.receive (.step first)).turn ≠ .irq →
            machine.cpu.Resumes (machine.cpu.pc + 3)
                (follow machine [.step first, .step second]).cpu ∧
              memory (follow machine [.step first, .step second]).bus =
                (memory machine.bus).pushed machine.cpu.sp (pushedWord (machine.cpu.pc + 2))) := by
  refine ⟨after_regular, fun memory flat machine first second regular => ⟨?_, ?_⟩⟩
  · intro entry turn rti apart noNmi
    obtain ⟨resumes, pushed⟩ := step_entry_rti flat regular turn rti apart noNmi second
    exact ⟨resumes, pushed, regular.marked_iff entry⟩
  · intro turn rts apart noNmi noIrq
    exact step_jsr_rts flat turn rts apart noNmi noIrq second

/-- No line is connected to the memory alone. -/
theorem turn_ne_interrupt {machine : Machine FlatMemory}
    (settled : machine.cpu.nmiPending = false) : machine.turn ≠ .nmi ∧ machine.turn ≠ .irq := by
  have latched : machine.latchNmi.cpu.nmiPending = false := by
    rw [← settled]
    exact Bool.or_false _
  refine ⟨fun turn => ?_, fun turn => ?_⟩
  · cases latched.symm.trans (turn_eq_nmi_iff.mp turn).2
  · cases (turn_eq_irq_iff.mp turn).2.2.2

theorem step_jsr_settled {machine : Machine FlatMemory}
    (turn : machine.turn = .instruction (Opcode.ofByte 0x20)) (rounds : Nat) :
    (machine.receive (.step rounds)).cpu.nmiPending = false := by
  have same := step_instruction_bare FlatMemory.flat turn rounds
  rw [execute_jsr (quiet_decoded FlatMemory.flat turn) rfl rfl] at same
  exact congrArg (fun after => after.cpu.nmiPending) same

/-- Empty memory but for one byte at its beginning, which all of it points to, and another one
further on, where the program is. -/
def pointed (target instruction : UInt8) : Machine FlatMemory where
  cpu := { pc := 0x8000 }
  bus := (FlatMemory.write {} 0 target).write 0x8000 instruction

theorem pointed_read (target instruction : UInt8) {address : UInt16} (here : address ≠ 0x8000) :
    (pointed target instruction).bus.read address = if address = 0 then target else 0 := by
  rw [pointed, FlatMemory.read_write_of_ne _ here]
  by_cases first : address = 0
  · rw [first, FlatMemory.read_write_self, if_pos rfl]
  · rw [FlatMemory.read_write_of_ne _ first, if_neg first]
    simp [FlatMemory.read]

/-- An edge and a call, each with the return behind it. -/
theorem interrupt_transparent_pointed :
    ((pointed 0x40 0x00).requestNmi.turn = Entry.nmi.turn ∧
      (pointed 0x40 0x00).requestNmi.cpu.Resumes 0x8000
        (follow (pointed 0x40 0x00).requestNmi [.step settleRounds, .step settleRounds]).cpu) ∧
    (pointed 0x60 0x20).turn = .instruction (Opcode.ofByte 0x20) ∧
      (pointed 0x60 0x20).cpu.Resumes 0x8003
        (follow (pointed 0x60 0x20) [.step settleRounds, .step settleRounds]).cpu := by
  obtain ⟨-, transparent⟩ := @interrupt_transparent FlatMemory _
  constructor
  · have word : (pointed 0x40 0x00).bus.word nmiVector = 0 := by
      rw [FlatMemory.word, pointed_read _ _ (by decide), pointed_read _ _ (by decide)]
      decide
    have rti : (pointed 0x40 0x00).bus.read 0 = 0x40 := pointed_read _ _ (by decide)
    have turn : (pointed 0x40 0x00).requestNmi.turn = .nmi := rfl
    have settled : ((pointed 0x40 0x00).requestNmi.receive
        (.step settleRounds)).cpu.nmiPending = false :=
      congrArg (fun after => after.cpu.nmiPending)
        (step_nmi_bare FlatMemory.flat turn settleRounds)
    rw [← word] at rti
    have apart : (pointed 0x40 0x00).bus.word nmiVector ∉ stackPlaces 0 3 := by
      rw [word]
      decide
    exact ⟨turn, ((transparent _ FlatMemory.flat (pointed 0x40 0x00).requestNmi settleRounds
      settleRounds rfl).1 .nmi turn rti apart (turn_ne_interrupt settled).1).1⟩
  · have word : (pointed 0x60 0x20).bus.word 0x8001 = 0 := by
      rw [FlatMemory.word, pointed_read _ _ (by decide), pointed_read _ _ (by decide)]
      decide
    have rts : (pointed 0x60 0x20).bus.read 0 = 0x60 := pointed_read _ _ (by decide)
    have jsr : (pointed 0x60 0x20).bus.read 0x8000 = 0x20 := FlatMemory.read_write_self _ _ _
    have turn : (pointed 0x60 0x20).turn = .instruction (Opcode.ofByte 0x20) :=
      turn_eq_instruction_iff.mpr ⟨rfl, rfl, congrArg Opcode.ofByte jsr⟩
    have settled := step_jsr_settled turn settleRounds
    rw [← word] at rts
    have apart : (pointed 0x60 0x20).bus.word 0x8001 ∉ stackPlaces 0 2 := by
      rw [word]
      decide
    exact ⟨turn, ((transparent _ FlatMemory.flat (pointed 0x60 0x20) settleRounds settleRounds
      rfl).2 turn rts apart (turn_ne_interrupt settled).1 (turn_ne_interrupt settled).2).1⟩

end Machine

end Nes
