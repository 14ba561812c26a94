import Nes.Cpu.Basic
import Nes.Cpu.Opcode

/-!
What each instruction does, as one of a few ways to use the bus with an effect on the registers.
-/

namespace Nes

/-- A way to use the bus, and the effect on the registers. -/
inductive Operation where
  /-- Works on the registers alone. -/
  | registers (effect : Cpu → Cpu)
  /-- Reads the operand. -/
  | read (effect : Cpu → UInt8 → Cpu)
  /-- Replaces the operand, then goes on with its new value. -/
  | modify (change : Cpu → UInt8 → UInt8 × Cpu) (after : Cpu → UInt8 → Cpu)
  /-- Stores a value at the operand. -/
  | store (value : Cpu → UInt8)
  /-- Stores a value under the high byte of the address, one higher. -/
  | storeHigh (prepare : Cpu → Cpu) (index value : Cpu → UInt8)
  /-- Goes to the operand if the condition holds. -/
  | branch (condition : Cpu → Bool)
  /-- Pushes a value. -/
  | push (value : Cpu → UInt8)
  /-- Pulls a value. -/
  | pull (effect : Cpu → UInt8 → Cpu)
  | jump
  | call
  | returnFromCall
  | returnFromInterrupt
  | softwareInterrupt
  /-- Does nothing, though it reads an operand in memory. -/
  | nothing
  | jam

namespace Mnemonic

/-- A replacement after which nothing else happens. -/
def only (cpu : Cpu) (_ : UInt8) : Cpu := cpu

def operation : Mnemonic → Operation
  | lda => .read Cpu.withA
  | ldx => .read Cpu.withX
  | ldy => .read Cpu.withY
  | sta => .store Cpu.a
  | stx => .store Cpu.x
  | sty => .store Cpu.y
  | tax => .registers fun cpu => cpu.withX cpu.a
  | tay => .registers fun cpu => cpu.withY cpu.a
  | txa => .registers fun cpu => cpu.withA cpu.x
  | tya => .registers fun cpu => cpu.withA cpu.y
  | tsx => .registers fun cpu => cpu.withX cpu.sp
  | txs => .registers fun cpu => { cpu with sp := cpu.x }
  | pha => .push Cpu.a
  | php => .push Cpu.pushedStatus
  | pla => .pull Cpu.withA
  | plp => .pull Cpu.restoreStatus
  | and => .read Cpu.and
  | ora => .read Cpu.or
  | eor => .read Cpu.exclusiveOr
  | adc => .read Cpu.add
  | sbc => .read Cpu.subtract
  | cmp => .read fun cpu => cpu.compare cpu.a
  | cpx => .read fun cpu => cpu.compare cpu.x
  | cpy => .read fun cpu => cpu.compare cpu.y
  | bit => .read Cpu.testBits
  | inc => .modify Cpu.increment only
  | dec => .modify Cpu.decrement only
  | inx => .registers fun cpu => cpu.withX (cpu.x + 1)
  | iny => .registers fun cpu => cpu.withY (cpu.y + 1)
  | dex => .registers fun cpu => cpu.withX (cpu.x - 1)
  | dey => .registers fun cpu => cpu.withY (cpu.y - 1)
  | asl => .modify Cpu.shiftLeft only
  | lsr => .modify Cpu.shiftRight only
  | rol => .modify Cpu.rotateLeft only
  | ror => .modify Cpu.rotateRight only
  | jmp => .jump
  | jsr => .call
  | rts => .returnFromCall
  | rti => .returnFromInterrupt
  | brk => .softwareInterrupt
  | bcc => .branch fun cpu => !cpu.has .carry
  | bcs => .branch fun cpu => cpu.has .carry
  | bne => .branch fun cpu => !cpu.has .zero
  | beq => .branch fun cpu => cpu.has .zero
  | bpl => .branch fun cpu => !cpu.has .negative
  | bmi => .branch fun cpu => cpu.has .negative
  | bvc => .branch fun cpu => !cpu.has .overflow
  | bvs => .branch fun cpu => cpu.has .overflow
  | clc => .registers fun cpu => cpu.withFlag .carry false
  | sec => .registers fun cpu => cpu.withFlag .carry true
  | cli => .registers fun cpu => cpu.withFlag .interruptDisable false
  | sei => .registers fun cpu => cpu.withFlag .interruptDisable true
  | cld => .registers fun cpu => cpu.withFlag .decimal false
  | sed => .registers fun cpu => cpu.withFlag .decimal true
  | clv => .registers fun cpu => cpu.withFlag .overflow false
  | nop => .nothing
  | slo => .modify Cpu.shiftLeft Cpu.or
  | rla => .modify Cpu.rotateLeft Cpu.and
  | sre => .modify Cpu.shiftRight Cpu.exclusiveOr
  | rra => .modify Cpu.rotateRight Cpu.add
  | dcp => .modify Cpu.decrement fun cpu => cpu.compare cpu.a
  | isb => .modify Cpu.increment Cpu.subtract
  | sax => .store fun cpu => cpu.a &&& cpu.x
  | lax => .read Cpu.loadBoth
  | anc => .read Cpu.andSign
  | alr => .read Cpu.andShift
  | arr => .read Cpu.andRotate
  | xaa => .read Cpu.unstableTransfer
  | lxa => .read Cpu.unstableLoad
  | axs => .read Cpu.subtractMasked
  | las => .read Cpu.loadStack
  | sha => .storeHigh id Cpu.y fun cpu => cpu.a &&& cpu.x
  | shx => .storeHigh id Cpu.y Cpu.x
  | shy => .storeHigh id Cpu.x Cpu.y
  | tas => .storeHigh (fun cpu => { cpu with sp := cpu.a &&& cpu.x }) Cpu.y Cpu.sp
  | jam => .jam

/-- A change of the interrupt mask by this instruction is seen one instruction late. -/
def delaysMask : Mnemonic → Bool
  | cli | sei | plp => true
  | _ => false

end Mnemonic

end Nes
