import Nes.Proofs.Cpu.Run

/-!
The two bits of the status that exist only in copies on the stack. In the register itself they are
fixed: no instruction, interrupt or reset changes how they read.
-/

namespace Nes

/-- Bit 5 is set and bit 4 is clear. -/
def Cpu.Regular (cpu : Cpu) : Prop := cpu.status &&& 0x30 = 0x20

namespace Cpu

/-- Only the status counts. -/
@[simp] theorem mk_regular (cpu : Cpu) (a x y sp : UInt8) (pc : UInt16) (cycles : UInt64)
    (halted : Bool) (stall : UInt64) (nmiPending irqInhibit : Bool) :
    (Cpu.mk a x y sp pc cpu.status cycles halted stall nmiPending irqInhibit).Regular ↔
      cpu.Regular :=
  Iff.rfl

/-- Switching any other flag leaves the two bits alone. -/
@[simp] theorem withFlag_regular {flag : Flag} (stored : flag ≠ .pushed) (own : flag ≠ .unused)
    (cpu : Cpu) (on : Bool) : (cpu.withFlag flag on).Regular ↔ cpu.Regular := by
  have all (status : UInt8) :
      (if on then status ||| flag.mask else status &&& ~~~flag.mask) &&& 0x30 =
        status &&& 0x30 := by
    revert status
    cases flag <;> cases on
    case pushed.false | pushed.true => contradiction
    case unused.false | unused.true => contradiction
    all_goals
      refine byte_all _ ?_
      decide +kernel
  exact Eq.congr_left (all cpu.status)

variable (cpu : Cpu) (value : UInt8)

@[simp] theorem withResult_regular : (cpu.withResult value).Regular ↔ cpu.Regular := by
  simp [withResult]

@[simp] theorem withA_regular : (cpu.withA value).Regular ↔ cpu.Regular :=
  withResult_regular _ _

@[simp] theorem withX_regular : (cpu.withX value).Regular ↔ cpu.Regular :=
  withResult_regular _ _

@[simp] theorem withY_regular : (cpu.withY value).Regular ↔ cpu.Regular :=
  withResult_regular _ _

@[simp] theorem add_regular : (cpu.add value).Regular ↔ cpu.Regular := by
  simp [add]

@[simp] theorem compare_regular (register : UInt8) :
    (compare register cpu value).Regular ↔ cpu.Regular := by
  simp [compare]

/-- A status that comes from the stack gets the two bits back. -/
theorem restoreStatus_regular : (cpu.restoreStatus value).Regular := by
  have all (byte : UInt8) :
      ((byte &&& ~~~Flag.pushed.mask) ||| Flag.unused.mask) &&& 0x30 = 0x20 := by
    revert byte
    refine byte_all _ ?_
    decide +kernel
  exact all value

end Cpu

theorem Mnemonic.operation_regular (mnemonic : Mnemonic) :
    mnemonic.operation.Preserves Cpu.Regular := by
  cases mnemonic
  case plp => exact fun cpu value _ => cpu.restoreStatus_regular value
  all_goals
    simp [Operation.Preserves, operation, Cpu.subtract, Cpu.testBits,
      Cpu.shiftLeft, Cpu.shiftRight, Cpu.rotateLeft, Cpu.rotateRight, Cpu.increment, Cpu.decrement,
      Cpu.and, Cpu.or, Cpu.exclusiveOr, Cpu.loadBoth, Cpu.andSign, Cpu.andShift, Cpu.andRotate,
      Cpu.unstableTransfer, Cpu.unstableLoad, Cpu.subtractMasked, Cpu.loadStack, only]

namespace Cpu

variable {cpu other : Cpu}

theorem Regular.of_status (regular : cpu.Regular) (same : other.status = cpu.status) :
    other.Regular := by
  rw [Regular, same]
  exact regular

theorem Regular.masked (regular : cpu.Regular) :
    (cpu.withFlag .interruptDisable true).Regular :=
  (withFlag_regular (by decide) (by decide) _ _).mpr regular

end Cpu

/-! ### Runs -/

namespace Machine

variable {β : Type} [Bus β] {machine : Machine β}

theorem perform_regular (regular : machine.cpu.Regular) (opcode : Opcode) (operand : Operand) :
    (machine.perform opcode operand).cpu.Regular := by
  cases straight : opcode.mnemonic.operation.leaves machine.cpu with
  | false =>
    exact machine.perform_preserves operand opcode.mnemonic.operation_regular
      (fun _ _ _ held => held) (fun cpu value => (cpu.withResult_regular value).mpr) straight regular
  | true =>
    unfold perform
    cases operation : opcode.mnemonic.operation <;> rw [operation] at straight
    case branch condition =>
      have taken : condition machine.cpu = true := straight
      simp only [branch, taken, if_true]
      exact regular.of_status rfl
    case returnFromInterrupt => exact (machine.cpu.restoreStatus_regular _).of_status rfl
    case softwareInterrupt => exact regular.masked.of_status rfl
    case jump | call | returnFromCall | jam => exact regular.of_status rfl
    all_goals cases straight

theorem execute_regular (regular : machine.cpu.Regular) : machine.execute.cpu.Regular := by
  have readied : machine.readied.cpu.Regular :=
    regular.of_status (congrArg Cpu.status machine.readied_cpu :)
  have performed := perform_regular readied machine.decoded machine.resolved.1
  rw [execute_eq]
  exact performed.of_status rfl

theorem serve_regular (regular : machine.cpu.Regular) : machine.serve.cpu.Regular := by
  unfold serve
  split
  · exact regular.masked.of_status rfl
  · exact regular.masked.of_status rfl
  · exact execute_regular regular

theorem step_regular (regular : machine.cpu.Regular) (rounds : Nat) :
    (machine.stepWithin rounds).2.cpu.Regular := by
  cases halted : machine.cpu.halted with
  | true =>
    rw [step_rest (turn_eq_rest_iff.mpr halted)]
    exact regular
  | false =>
    have latched : machine.latchNmi.cpu.Regular := regular.of_status rfl
    exact (serve_regular latched).of_status (congrArg Cpu.status (step_timeless halted rounds) :)

theorem receive_regular (regular : machine.cpu.Regular) (stimulus : Stimulus) :
    (machine.receive stimulus).cpu.Regular := by
  cases stimulus with
  | step rounds => exact step_regular regular rounds
  | reset => exact regular.masked.of_status rfl
  | requestNmi | requestStall => exact regular.of_status rfl

/-- The two bits are fixed in every run. -/
theorem after_regular (bus : β) (stimuli : List Stimulus) : (after bus stimuli).cpu.Regular := by
  induction stimuli using List.reverseRecOn with
  | nil => exact (by decide : (0x24 : UInt8) &&& 0x30 = 0x20)
  | append_singleton stimuli stimulus ih =>
    rw [after_snoc]
    exact receive_regular ih stimulus

end Machine

end Nes
