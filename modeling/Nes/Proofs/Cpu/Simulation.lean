import Nes.Cpu.Machine

/-!
The processor sees a bus only through its operations. If two buses stay related while both are read
and written alike, and reads agree, then processors with equal registers on them stay equal through
whole instructions and interrupt entries. A relation to itself gives invariants of a single run.
-/

namespace Nes

variable {α β γ : Type}

/-- Related buses answer reads alike, and stay related through reads and writes. -/
structure Bus.Respects [Bus β] [Bus γ] (related : β → γ → Prop) : Prop where
  read : ∀ {first second}, related first second → ∀ address,
    (Bus.read first address).1 = (Bus.read second address).1 ∧
      related (Bus.read first address).2 (Bus.read second address).2
  write : ∀ {first second}, related first second → ∀ address data,
    related (Bus.write first address data) (Bus.write second address data)

namespace Machine

/-- Equal registers on related buses. -/
structure Matches (related : β → γ → Prop) (first : Machine β) (second : Machine γ) : Prop where
  cpu : first.cpu = second.cpu
  bus : related first.bus second.bus

/-- Equal answers, and machines that match afterwards. -/
structure Agrees (related : β → γ → Prop) (first : α × Machine β) (second : α × Machine γ) :
    Prop where
  answer : first.1 = second.1
  machine : Matches related first.2 second.2

variable {related : β → γ → Prop} {first : Machine β} {second : Machine γ}

/-! ### Bus access -/

theorem Matches.mapCpu (same : Matches related first second) (effect : Cpu → Cpu) :
    Matches related (first.mapCpu effect) (second.mapCpu effect) :=
  ⟨congrArg effect same.cpu, same.bus⟩

theorem Matches.jump (same : Matches related first second) (address : UInt16) :
    Matches related (first.jump address) (second.jump address) :=
  same.mapCpu _

theorem Matches.charge (same : Matches related first second) (cycles : UInt64) :
    Matches related (first.charge cycles) (second.charge cycles) :=
  same.mapCpu _

variable [Bus β] [Bus γ] (respects : Bus.Respects related)
include respects

theorem Matches.read (same : Matches related first second) (address : UInt16) :
    Agrees related (first.read address) (second.read address) := by
  obtain ⟨answer, bus⟩ := respects.read same.bus address
  exact ⟨answer, same.cpu, bus⟩

theorem Matches.write (same : Matches related first second) (address : UInt16) (data : UInt8) :
    Matches related (first.write address data) (second.write address data) :=
  ⟨same.cpu, respects.write same.bus address data⟩

theorem Matches.readWord (same : Matches related first second) (address : UInt16) :
    Agrees related (first.readWord address) (second.readWord address) := by
  have low := same.read respects address
  have high := low.machine.read respects (address + 1)
  exact ⟨congr (congrArg wordOf low.answer) high.answer, high.machine⟩

theorem Matches.readWordInPage (same : Matches related first second) (address : UInt16) :
    Agrees related (first.readWordInPage address) (second.readWordInPage address) := by
  have low := same.read respects address
  have high := low.machine.read respects (nextInPage address)
  exact ⟨congr (congrArg wordOf low.answer) high.answer, high.machine⟩

theorem Matches.fetchByte (same : Matches related first second) :
    Agrees related first.fetchByte second.fetchByte := by
  have byte := same.read respects first.cpu.pc
  simp only [Machine.fetchByte, ← same.cpu]
  exact ⟨byte.answer, byte.machine.mapCpu fun cpu => { cpu with pc := cpu.pc + 1 }⟩

theorem Matches.fetchWord (same : Matches related first second) :
    Agrees related first.fetchWord second.fetchWord := by
  have low := same.fetchByte respects
  have high := low.machine.fetchByte respects
  exact ⟨congr (congrArg wordOf low.answer) high.answer, high.machine⟩

theorem Matches.push (same : Matches related first second) (value : UInt8) :
    Matches related (first.push value) (second.push value) := by
  rw [Machine.push, Machine.push, ← same.cpu]
  exact (same.write respects _ value).mapCpu _

theorem Matches.pull (same : Matches related first second) :
    Agrees related first.pull second.pull := by
  have moved := same.mapCpu fun cpu => { cpu with sp := cpu.sp + 1 }
  simp only [Machine.pull, ← moved.cpu]
  exact moved.read respects _

theorem Matches.pushWord (same : Matches related first second) (value : UInt16) :
    Matches related (first.pushWord value) (second.pushWord value) :=
  (same.push respects _).push respects _

theorem Matches.pullWord (same : Matches related first second) :
    Agrees related first.pullWord second.pullWord := by
  have low := same.pull respects
  have high := low.machine.pull respects
  exact ⟨congr (congrArg wordOf low.answer) high.answer, high.machine⟩

/-! ### Operands -/

theorem Matches.indexed (same : Matches related first second) (opcode : Opcode) (base : UInt16)
    (index : UInt8) :
    Agrees related (first.indexed opcode base index) (second.indexed opcode base index) := by
  simp only [Machine.indexed]
  split
  · exact ⟨rfl, (same.read respects _).machine⟩
  · exact ⟨rfl, same⟩

theorem Matches.operand (same : Matches related first second) (opcode : Opcode) :
    Agrees related (first.operand opcode) (second.operand opcode) := by
  have byte := same.fetchByte respects
  have word := same.fetchWord respects
  unfold Machine.operand
  split
  · exact ⟨rfl, same⟩
  · exact ⟨rfl, same⟩
  · rw [← same.cpu]
    exact ⟨rfl, same.jump _⟩
  · simp only [byte.answer]
    exact ⟨rfl, byte.machine⟩
  · simp only [byte.answer, byte.machine.cpu]
    exact ⟨rfl, byte.machine⟩
  · simp only [byte.answer, byte.machine.cpu]
    exact ⟨rfl, byte.machine⟩
  · simp only [word.answer]
    exact ⟨rfl, word.machine⟩
  · simp only [word.answer, word.machine.cpu]
    exact word.machine.indexed respects opcode _ _
  · simp only [word.answer, word.machine.cpu]
    exact word.machine.indexed respects opcode _ _
  · simp only [word.answer]
    have target := word.machine.readWordInPage respects second.fetchWord.1
    simp only [target.answer]
    exact ⟨rfl, target.machine⟩
  · simp only [byte.answer, byte.machine.cpu]
    have target := byte.machine.readWordInPage respects
      (second.fetchByte.1 + second.fetchByte.2.cpu.x).toUInt16
    simp only [target.answer]
    exact ⟨rfl, target.machine⟩
  · simp only [byte.answer]
    have base := byte.machine.readWordInPage respects second.fetchByte.1.toUInt16
    simp only [base.answer, base.machine.cpu]
    exact base.machine.indexed respects opcode _ _
  · simp only [byte.answer, byte.machine.cpu]
    exact ⟨rfl, byte.machine⟩

/-! ### Instructions -/

theorem Matches.modify (same : Matches related first second) (address : UInt16)
    (change : Cpu → UInt8 → UInt8 × Cpu) (after : Cpu → UInt8 → Cpu) :
    Matches related (first.modify address change after) (second.modify address change after) := by
  have old := same.read respects address
  have back := old.machine.write respects address (second.read address).1
  simp only [Machine.modify, old.answer, back.cpu]
  apply Matches.mapCpu
  apply Matches.write respects
  exact ⟨rfl, back.bus⟩

theorem Matches.storeHigh (same : Matches related first second) (operand : Operand)
    (index value : UInt8) :
    Matches related (first.storeHigh operand index value)
      (second.storeHigh operand index value) :=
  same.write respects _ _

theorem Matches.enter (same : Matches related first second) (status : UInt8) (vector : UInt16) :
    Matches related (first.enter status vector) (second.enter status vector) := by
  have pushed := (same.pushWord respects first.cpu.pc).push respects status
  have masked := pushed.mapCpu fun cpu => cpu.withFlag .interruptDisable true
  have target := masked.readWord respects vector
  rw [same.cpu] at target
  simp only [Machine.enter, same.cpu, target.answer]
  exact target.machine.jump _

theorem Matches.perform (same : Matches related first second) (opcode : Opcode)
    (operand : Operand) :
    Matches related (first.perform opcode operand) (second.perform opcode operand) := by
  unfold Machine.perform
  cases opcode.mnemonic.operation with
  | registers effect => exact same.mapCpu effect
  | read effect =>
    have value := same.read respects operand.address
    simp only [value.answer]
    exact value.machine.mapCpu _
  | modify change after =>
    simp only
    split
    · exact same.mapCpu _
    · exact same.modify respects _ _ _
  | store value =>
    simp only [same.cpu]
    exact same.write respects _ _
  | storeHigh prepare index value =>
    have prepared := same.mapCpu prepare
    simp only [prepared.cpu]
    exact prepared.storeHigh respects _ _ _
  | branch condition =>
    simp only [Machine.branch, same.cpu]
    split
    · exact (same.charge _).jump _
    · exact same
  | push value =>
    simp only [same.cpu]
    exact same.push respects _
  | pull effect =>
    have value := same.pull respects
    simp only [value.answer]
    exact value.machine.mapCpu _
  | jump => exact same.jump _
  | call =>
    simp only [same.cpu]
    exact (same.pushWord respects _).jump _
  | returnFromCall =>
    have address := same.pullWord respects
    simp only [address.answer]
    exact address.machine.jump _
  | returnFromInterrupt =>
    have status := same.pull respects
    have restored := status.machine.mapCpu fun cpu => cpu.restoreStatus second.pull.1
    have address := restored.pullWord respects
    simp only [status.answer, address.answer]
    exact address.machine.jump _
  | softwareInterrupt =>
    have resumed := same.jump (second.cpu.pc + 1)
    simp only [same.cpu, resumed.cpu]
    exact resumed.enter respects _ _
  | nothing =>
    simp only
    split
    · exact same
    · exact (same.read respects _).machine
  | jam => exact same.mapCpu _

theorem Matches.execute (same : Matches related first second) :
    Matches related first.execute second.execute := by
  have byte := same.fetchByte respects
  have operand := byte.machine.operand respects (Opcode.ofByte second.fetchByte.1)
  have charged := operand.machine.charge (baseCycles (Opcode.ofByte second.fetchByte.1)
    (second.fetchByte.2.operand (Opcode.ofByte second.fetchByte.1)).1)
  simp only [Machine.execute, byte.answer, operand.answer, charged.cpu]
  apply Matches.mapCpu
  exact charged.perform respects _ _

theorem Matches.interrupt (same : Matches related first second) (vector : UInt16) :
    Matches related (first.interrupt vector) (second.interrupt vector) := by
  simp only [Machine.interrupt, same.cpu]
  exact (same.enter respects _ vector).mapCpu _

/-- Whatever comes next leaves both machines matching, if their interrupt lines agree. -/
theorem Matches.serve (same : Matches related first second)
    (line : Bus.irqLine first.bus = Bus.irqLine second.bus) :
    Matches related first.serve second.serve := by
  have next : first.next = second.next := by
    simp only [Machine.next, same.cpu, line]
  unfold Machine.serve
  rw [next]
  cases second.next with
  | nmi => exact (same.mapCpu _).interrupt respects _
  | irq => exact same.interrupt respects _
  | instruction => exact same.execute respects

end Machine

/-! ### Steps -/

/-- Related buses stay related as time passes too, and make the processor see the same. -/
structure Bus.Simulates [Bus β] [Bus γ] (related : β → γ → Prop) : Prop
    extends Bus.Respects related where
  tick : ∀ {first second}, related first second → ∀ cycles,
    related (Bus.tick first cycles) (Bus.tick second cycles)
  pollNmi : ∀ {first second}, related first second →
    (Bus.pollNmi first).1 = (Bus.pollNmi second).1 ∧
      related (Bus.pollNmi first).2 (Bus.pollNmi second).2
  irqLine : ∀ {first second}, related first second → Bus.irqLine first = Bus.irqLine second
  takeStall : ∀ {first second}, related first second →
    (Bus.takeStall first).1 = (Bus.takeStall second).1 ∧
      related (Bus.takeStall first).2 (Bus.takeStall second).2

namespace Machine

variable {related : β → γ → Prop} {first : Machine β} {second : Machine γ}
variable [Bus β] [Bus γ] (simulates : Bus.Simulates related)
include simulates

theorem Matches.tick (same : Matches related first second) (cycles : UInt64) :
    Matches related (first.tick cycles) (second.tick cycles) :=
  ⟨same.cpu, simulates.tick same.bus cycles⟩

theorem Matches.latchNmi (same : Matches related first second) :
    Matches related first.latchNmi second.latchNmi := by
  obtain ⟨edge, bus⟩ := simulates.pollNmi same.bus
  refine ⟨?_, bus⟩
  simp only [Machine.latchNmi, same.cpu, edge]

theorem Matches.takeStall (same : Matches related first second) :
    Agrees related first.takeStall second.takeStall := by
  obtain ⟨owed, bus⟩ := simulates.takeStall same.bus
  refine ⟨?_, ?_, bus⟩
  · simp only [Machine.takeStall, same.cpu, owed]
  · simp only [Machine.takeStall, same.cpu]

theorem Matches.settle (same : Matches related first second) (rounds : Nat) :
    Matches related (first.settle rounds) (second.settle rounds) := by
  induction rounds generalizing first second with
  | zero => exact same
  | succ rounds ih =>
    have taken := same.takeStall simulates
    simp only [Machine.settle, taken.answer]
    split
    · exact taken.machine
    · exact ih ((taken.machine.charge _).tick simulates _)

/-- A step takes the same time on both machines and leaves them matching. -/
theorem Matches.step (same : Matches related first second) :
    Agrees related first.step second.step := by
  have served := (same.latchNmi simulates).serve simulates.toRespects
    (simulates.irqLine (same.latchNmi simulates).bus)
  have settled := (served.tick simulates (second.latchNmi.serve.cpu.cycles - second.cpu.cycles)
    ).settle simulates settleRounds
  unfold Machine.step Machine.stepWithin
  rw [same.cpu]
  split
  · exact ⟨rfl, same⟩
  · simp only [served.cpu]
    exact ⟨congrArg (fun cpu => cpu.cycles - second.cpu.cycles) settled.cpu, settled⟩

theorem Matches.reset (same : Matches related first second) :
    Matches related first.reset second.reset := by
  have masked := same.mapCpu fun cpu =>
    { cpu.withFlag .interruptDisable true with sp := cpu.sp - 3, irqInhibit := true }
  have target := masked.readWord simulates.toRespects resetVector
  simp only [Machine.reset, target.answer]
  exact (target.machine.mapCpu _).tick simulates _

end Machine

/-! ### Invariants of one run -/

namespace Machine

variable [Bus β] {holds : β → Prop} {machine : Machine β}
variable (read : ∀ {bus : β}, holds bus → ∀ address, holds (Bus.read bus address).2)
variable (write : ∀ {bus : β}, holds bus → ∀ address data, holds (Bus.write bus address data))
include read write

private theorem respects_self : Bus.Respects fun first second : β => first = second ∧ holds first where
  read := by
    rintro first _ ⟨rfl, held⟩ address
    exact ⟨rfl, rfl, read held address⟩
  write := by
    rintro first _ ⟨rfl, held⟩ address data
    exact ⟨rfl, write held address data⟩

/-- What reads and writes preserve holds after an instruction or an interrupt entry. -/
theorem serve_preserves (held : holds machine.bus) : holds machine.serve.bus :=
  (Matches.serve (respects_self read write) ⟨rfl, rfl, held⟩ rfl).bus.2

theorem readWord_preserves (held : holds machine.bus) (address : UInt16) :
    holds (machine.readWord address).2.bus :=
  (Matches.readWord (respects_self read write) ⟨rfl, rfl, held⟩ address).machine.bus.2

end Machine

end Nes
