import Mathlib.Data.List.Induction
import Nes.Proofs.Bus.Settling

/-!
Runs of a processor on any bus: steps, resets and requests in any order. What a step does is decided
at its beginning; the cycles that pass at its end, in however many rounds, change nothing but the
counters.
-/

namespace Nes

/-- What can be done to a processor. -/
inductive Stimulus where
  /-- A step, with a number of rounds for what is owed at its end; the machine itself allows
  `settleRounds`. -/
  | step (rounds : Nat)
  | reset
  | requestNmi
  | requestStall (cycles : UInt64)
  deriving DecidableEq

/-- The stimulus only asks for something that the next step does. -/
def Stimulus.isRequest : Stimulus → Bool
  | .requestNmi | .requestStall _ => true
  | .step _ | .reset => false

/-- What a step does. -/
inductive Turn where
  /-- Nothing, as the processor is halted. -/
  | rest
  | nmi
  | irq
  | instruction (opcode : Opcode)
  deriving DecidableEq

/-- The processor without its counters. -/
def Cpu.timeless (cpu : Cpu) : Cpu := { cpu with cycles := 0, stall := 0 }

/-- The processor with its program counter behind a number of bytes. -/
def Cpu.skip (cpu : Cpu) (count : Nat) : Cpu := { cpu with pc := cpu.pc + UInt16.ofNat count }

theorem Cpu.skip_zero (cpu : Cpu) : cpu.skip 0 = cpu := by
  simp [skip]

theorem Cpu.skip_skip (cpu : Cpu) (first second : Nat) :
    (cpu.skip first).skip second = cpu.skip (first + second) := by
  simp only [skip, UInt16.ofNat_add, UInt16.add_assoc]

namespace Operation

/-- The program goes elsewhere or stops: a jump, a call, a return, a software interrupt, a branch
that is taken, or an instruction that halts. -/
def leaves (cpu : Cpu) : Operation → Bool
  | .branch condition => condition cpu
  | .jump | .call | .returnFromCall | .returnFromInterrupt | .softwareInterrupt | .jam => true
  | _ => false

/-- What holds of the processor is not affected by the effects of an operation. -/
def Preserves (holds : Cpu → Prop) : Operation → Prop
  | .registers effect => ∀ cpu, holds cpu → holds (effect cpu)
  | .read effect => ∀ cpu value, holds cpu → holds (effect cpu value)
  | .modify change after =>
    (∀ cpu value, holds cpu → holds (change cpu value).2) ∧
      ∀ cpu value, holds cpu → holds (after cpu value)
  | .storeHigh prepare _ _ => ∀ cpu, holds cpu → holds (prepare cpu)
  | .pull effect => ∀ cpu value, holds cpu → holds (effect cpu value)
  | _ => True

end Operation

namespace Machine

variable {β : Type} [Bus β] (machine : Machine β)

/-! ### Runs -/

def receive (machine : Machine β) : Stimulus → Machine β
  | .step rounds => (machine.stepWithin rounds).2
  | .reset => machine.reset
  | .requestNmi => machine.requestNmi
  | .requestStall cycles => machine.requestStall cycles

/-- A step that goes on until nothing is owed any more ends after a number of rounds. -/
theorem receive_settles {machine final : Machine β} (running : machine.cpu.halted = false)
    (settles : Settles machine.served final) :
    ∃ rounds, machine.receive (.step rounds) = final := by
  obtain ⟨rounds, same⟩ := settles.exists_settle
  exact ⟨rounds, (congrArg Prod.snd (machine.stepWithin_eq running rounds)).trans same⟩

/-- The machine after a list of stimuli. -/
def follow (start : Machine β) (stimuli : List Stimulus) : Machine β := stimuli.foldl receive start

/-- The machine after stimuli since power-on. -/
def after (bus : β) (stimuli : List Stimulus) : Machine β := follow { bus } stimuli

theorem follow_append (start : Machine β) (early late : List Stimulus) :
    follow start (early ++ late) = follow (follow start early) late :=
  List.foldl_append

theorem follow_snoc (start : Machine β) (stimuli : List Stimulus) (stimulus : Stimulus) :
    follow start (stimuli ++ [stimulus]) = (follow start stimuli).receive stimulus :=
  follow_append start stimuli [stimulus]

theorem after_append (bus : β) (early late : List Stimulus) :
    after bus (early ++ late) = follow (after bus early) late :=
  follow_append _ early late

theorem after_snoc (bus : β) (stimuli : List Stimulus) (stimulus : Stimulus) :
    after bus (stimuli ++ [stimulus]) = (after bus stimuli).receive stimulus :=
  after_append bus stimuli [stimulus]

/-- What the next step does. -/
def turn (machine : Machine β) : Turn :=
  if machine.cpu.halted then .rest
  else
    match machine.latchNmi.next with
    | .nmi => .nmi
    | .irq => .irq
    | .instruction => .instruction (Opcode.ofByte machine.latchNmi.fetchByte.1)

/-! ### Instructions -/

@[simp] theorem fetchByte_cpu : machine.fetchByte.2.cpu = machine.cpu.skip 1 := rfl

@[simp] theorem fetchWord_cpu : machine.fetchWord.2.cpu = machine.cpu.skip 2 :=
  machine.cpu.skip_skip 1 1

@[simp] theorem readWordInPage_cpu (address : UInt16) :
    (machine.readWordInPage address).2.cpu = machine.cpu := rfl

@[simp] theorem indexed_cpu (opcode : Opcode) (base : UInt16) (index : UInt8) :
    (machine.indexed opcode base index).2.cpu = machine.cpu := by
  simp only [indexed]
  split <;> rfl

/-- Resolving an operand changes no register but the program counter, which passes the rest of the
instruction. -/
theorem operand_cpu (opcode : Opcode) :
    (machine.operand opcode).2.cpu = machine.cpu.skip (opcode.mode.size - 1) := by
  unfold operand
  cases opcode.mode <;>
    simp only [Mode.size, fetchByte_cpu, fetchWord_cpu, readWordInPage_cpu, indexed_cpu,
      Nat.add_one_sub_one]
  case implied | accumulator => exact machine.cpu.skip_zero.symm
  case immediate => rfl

/-- The instruction at the program counter. -/
def decoded (machine : Machine β) : Opcode := Opcode.ofByte machine.fetchByte.1

/-- The operand of the instruction at the program counter, and the machine that has read it. -/
def resolved (machine : Machine β) : Operand × Machine β :=
  machine.fetchByte.2.operand machine.decoded

/-- The machine when its instruction is read and paid for, and nothing else is done yet. -/
def readied (machine : Machine β) : Machine β :=
  machine.resolved.2.charge (baseCycles machine.decoded machine.resolved.1)

theorem execute_eq :
    machine.execute =
      (machine.readied.perform machine.decoded machine.resolved.1).mapCpu fun cpu =>
        { cpu with
          irqInhibit :=
            if machine.decoded.mnemonic.delaysMask then machine.readied.cpu.has .interruptDisable
            else cpu.has .interruptDisable } := rfl

/-- All that an instruction has changed before it is carried out is the program counter. -/
theorem readied_cpu :
    machine.readied.cpu.timeless = (machine.cpu.skip machine.decoded.mode.size).timeless := by
  have size : 1 + (machine.decoded.mode.size - 1) = machine.decoded.mode.size := by
    cases machine.decoded.mode <;> rfl
  have resolved : machine.resolved.2.cpu = machine.cpu.skip machine.decoded.mode.size := by
    rw [resolved, operand_cpu, fetchByte_cpu, Cpu.skip_skip, size]
  have charged : machine.readied.cpu.timeless = machine.resolved.2.cpu.timeless := rfl
  rw [charged, resolved]

/-- Where the program goes straight on, what the effects preserve stays, if it is not about the
registers that are written besides. -/
theorem perform_preserves {holds : Cpu → Prop} {opcode : Opcode} (operand : Operand)
    (effects : opcode.mnemonic.operation.Preserves holds)
    (registers : ∀ (cpu : Cpu) a sp, holds cpu → holds { cpu with a := a, sp := sp })
    (flags : ∀ (cpu : Cpu) value, holds cpu → holds (cpu.withResult value))
    (straight : opcode.mnemonic.operation.leaves machine.cpu = false) (held : holds machine.cpu) :
    holds (machine.perform opcode operand).cpu := by
  unfold perform
  cases operation : opcode.mnemonic.operation <;> rw [operation] at effects straight
  case registers effect => exact effects _ held
  case read effect => exact effects _ _ held
  case modify change after =>
    simp only
    split
    · exact registers _ _ _ (effects.1 _ machine.cpu.a held)
    · exact effects.2 _ _ (flags _ _ (effects.1 _ _ held))
  case storeHigh prepare index value => exact effects _ held
  case branch condition =>
    have untaken : condition machine.cpu = false := straight
    simp only [branch, untaken, Bool.false_eq_true, if_false]
    exact held
  case push value => exact registers _ machine.cpu.a _ held
  case pull effect => exact effects _ _ (registers _ machine.cpu.a _ held)
  case store value => exact held
  case nothing =>
    simp only
    split <;> exact held
  all_goals cases straight

/-! ### Steps -/

theorem settle_timeless (rounds : Nat) :
    (machine.settle rounds).cpu.timeless = machine.cpu.timeless := by
  induction rounds generalizing machine with
  | zero => rfl
  | succ rounds ih =>
    simp only [settle]
    split
    · rfl
    · exact ih _

variable {machine}

theorem step_timeless (running : machine.cpu.halted = false) (rounds : Nat) :
    (machine.stepWithin rounds).2.cpu.timeless = machine.latchNmi.serve.cpu.timeless := by
  rw [stepWithin_eq machine running]
  exact settle_timeless _ _

theorem turn_eq_rest_iff : machine.turn = .rest ↔ machine.cpu.halted = true := by
  unfold turn
  cases machine.cpu.halted <;> cases machine.latchNmi.next <;> simp

theorem turn_eq_nmi_iff :
    machine.turn = .nmi ↔
      machine.cpu.halted = false ∧ machine.latchNmi.cpu.nmiPending = true := by
  unfold turn next
  cases machine.cpu.halted <;> cases machine.latchNmi.cpu.nmiPending <;>
    cases machine.latchNmi.cpu.irqInhibit <;> cases Bus.irqLine machine.latchNmi.bus <;> simp

theorem turn_eq_irq_iff :
    machine.turn = .irq ↔
      machine.cpu.halted = false ∧ machine.latchNmi.cpu.nmiPending = false ∧
        machine.cpu.irqInhibit = false ∧ Bus.irqLine machine.latchNmi.bus = true := by
  have inhibit : machine.latchNmi.cpu.irqInhibit = machine.cpu.irqInhibit := rfl
  unfold turn next
  rw [inhibit]
  cases machine.cpu.halted <;> cases machine.latchNmi.cpu.nmiPending <;>
    cases machine.cpu.irqInhibit <;> cases Bus.irqLine machine.latchNmi.bus <;> simp

theorem turn_eq_instruction_iff {opcode : Opcode} :
    machine.turn = .instruction opcode ↔
      machine.cpu.halted = false ∧ machine.latchNmi.next = .instruction ∧
        machine.latchNmi.decoded = opcode := by
  unfold turn decoded
  cases machine.cpu.halted <;> cases machine.latchNmi.next <;> simp

/-- The program goes on when no interrupt is in its way. -/
theorem next_eq_instruction_iff :
    machine.next = .instruction ↔
      machine.cpu.nmiPending = false ∧
        (machine.cpu.irqInhibit = true ∨ Bus.irqLine machine.bus = false) := by
  unfold next
  cases machine.cpu.nmiPending <;> cases machine.cpu.irqInhibit <;>
    cases Bus.irqLine machine.bus <;> simp

theorem step_rest (turn : machine.turn = .rest) (rounds : Nat) :
    (machine.stepWithin rounds).2 = machine := by
  rw [stepWithin_halted machine (turn_eq_rest_iff.mp turn)]

/-- The edge is taken when its interrupt is entered. -/
theorem serve_nmi (turn : machine.turn = .nmi) :
    machine.latchNmi.serve =
      (machine.latchNmi.mapCpu fun cpu => { cpu with nmiPending := false }).interrupt
        nmiVector := by
  have next : machine.latchNmi.next = .nmi := by
    simp only [next, (turn_eq_nmi_iff.mp turn).2, if_true]
  simp only [serve, next]

theorem serve_irq (turn : machine.turn = .irq) :
    machine.latchNmi.serve = machine.latchNmi.interrupt irqVector := by
  obtain ⟨-, quiet, unmasked, line⟩ := turn_eq_irq_iff.mp turn
  have inhibit : machine.latchNmi.cpu.irqInhibit = false := unmasked
  have next : machine.latchNmi.next = .irq := by
    simp only [next, quiet, inhibit, line, Bool.false_eq_true, if_false, Bool.not_false,
      Bool.and_self, if_true]
  simp only [serve, next]

theorem serve_instruction {opcode : Opcode} (turn : machine.turn = .instruction opcode) :
    machine.latchNmi.serve = machine.latchNmi.execute := by
  simp only [serve, (turn_eq_instruction_iff.mp turn).2.1]

end Machine

end Nes
