import Nes.Cpu.Machine
import Nes.Text.Layout

/-!
A line for the instruction that comes next: its bytes, its name, its operand with the addresses and
the byte it stands for, the registers, the place of the picture and the cycles. The line is built
from a view of the bus that changes nothing.
-/

namespace Nes

/-- What a line shows of an operand. -/
inductive OperandView where
  | none
  | accumulator
  | immediate (value : UInt8)
  | zeroPage (address value : UInt8)
  | zeroPageIndexed (base : UInt8) (register : String) (address value : UInt8)
  /-- Where a jump or a branch goes. -/
  | target (address : UInt16)
  | absolute (address : UInt16) (value : UInt8)
  | absoluteIndexed (base : UInt16) (register : String) (address : UInt16) (value : UInt8)
  | indirect (pointer goal : UInt16)
  | indirectX (base pointer : UInt8) (address : UInt16) (value : UInt8)
  | indirectY (pointer : UInt8) (base address : UInt16) (value : UInt8)
  deriving DecidableEq

namespace OperandView

open Text

/-- The words of an operand. -/
def render : OperandView → String
  | none => ""
  | accumulator => "A"
  | immediate value => "#$" ++ hexByte value
  | zeroPage address value => "$" ++ hexByte address ++ " = " ++ hexByte value
  | zeroPageIndexed base register address value =>
    "$" ++ hexByte base ++ "," ++ register ++ " @ " ++ hexByte address ++ " = " ++ hexByte value
  | target address => "$" ++ hexWord address
  | absolute address value => "$" ++ hexWord address ++ " = " ++ hexByte value
  | absoluteIndexed base register address value =>
    "$" ++ hexWord base ++ "," ++ register ++ " @ " ++ hexWord address ++ " = " ++ hexByte value
  | indirect pointer goal => "($" ++ hexWord pointer ++ ") = " ++ hexWord goal
  | indirectX base pointer address value =>
    "($" ++ hexByte base ++ ",X) @ " ++ hexByte pointer ++ " = " ++ hexWord address ++ " = " ++
      hexByte value
  | indirectY pointer base address value =>
    "($" ++ hexByte pointer ++ "),Y = " ++ hexWord base ++ " @ " ++ hexWord address ++ " = " ++
      hexByte value

end OperandView

/-- Everything that a line shows. -/
structure TraceLine where
  /-- The processor before the instruction. -/
  cpu : Cpu
  /-- The bytes of the instruction. -/
  bytes : List UInt8
  opcode : Opcode
  operand : OperandView
  scanline : UInt16
  dot : UInt16

namespace TraceLine

open Text

def label (line : TraceLine) : String :=
  (if line.opcode.undocumented then "*" else "") ++ line.opcode.mnemonic.name

/-- The whole line in its columns. -/
def render (line : TraceLine) : String :=
  let cpu := line.cpu
  hexWord cpu.pc ++ "  " ++ alignLeft 8 (" ".intercalate (line.bytes.map hexByte)) ++ " " ++
    alignRight 4 line.label ++ " " ++ alignLeft 27 line.operand.render ++
    " A:" ++ hexByte cpu.a ++ " X:" ++ hexByte cpu.x ++ " Y:" ++ hexByte cpu.y ++
    " P:" ++ hexByte cpu.status ++ " SP:" ++ hexByte cpu.sp ++
    " PPU:" ++ alignRight 3 (toString line.scanline.toNat) ++ "," ++
    alignRight 3 (toString line.dot.toNat) ++ " CYC:" ++ toString cpu.cycles.toNat

end TraceLine

namespace Machine

variable {β : Type} [Bus β]

def peek (machine : Machine β) (address : UInt16) : UInt8 := Bus.peek machine.bus address

def peekWord (machine : Machine β) (address : UInt16) : UInt16 :=
  wordOf (machine.peek address) (machine.peek (address + 1))

/-- A word that does not leave its page. -/
def peekWordInPage (machine : Machine β) (address : UInt16) : UInt16 :=
  wordOf (machine.peek address) (machine.peek (nextInPage address))

def peekOpcode (machine : Machine β) : Opcode := Opcode.ofByte (machine.peek machine.cpu.pc)

def peekBytes (machine : Machine β) : List UInt8 :=
  (List.range machine.peekOpcode.mode.size).map fun i =>
    machine.peek (machine.cpu.pc + UInt16.ofNat i)

def viewZeroPage (machine : Machine β) (base : UInt8) (register : String) (index : UInt8) :
    OperandView :=
  let address := base + index
  .zeroPageIndexed base register address (machine.peek address.toUInt16)

def viewAbsolute (machine : Machine β) (base : UInt16) (register : String) (index : UInt8) :
    OperandView :=
  let address := base + index.toUInt16
  .absoluteIndexed base register address (machine.peek address)

def viewOperand (machine : Machine β) : OperandView :=
  let cpu := machine.cpu
  let opcode := machine.peekOpcode
  let short := machine.peek (cpu.pc + 1)
  let long := machine.peekWord (cpu.pc + 1)
  match opcode.mode with
  | .implied => .none
  | .accumulator => .accumulator
  | .immediate => .immediate short
  | .zeroPage => .zeroPage short (machine.peek short.toUInt16)
  | .zeroPageX => machine.viewZeroPage short "X" cpu.x
  | .zeroPageY => machine.viewZeroPage short "Y" cpu.y
  | .absolute =>
    if opcode.mnemonic = .jmp ∨ opcode.mnemonic = .jsr then .target long
    else .absolute long (machine.peek long)
  | .absoluteX => machine.viewAbsolute long "X" cpu.x
  | .absoluteY => machine.viewAbsolute long "Y" cpu.y
  | .indirect => .indirect long (machine.peekWordInPage long)
  | .indirectX =>
    let pointer := short + cpu.x
    let address := machine.peekWordInPage pointer.toUInt16
    .indirectX short pointer address (machine.peek address)
  | .indirectY =>
    let base := machine.peekWordInPage short.toUInt16
    let address := base + cpu.y.toUInt16
    .indirectY short base address (machine.peek address)
  | .relative => .target (cpu.pc + 2 + signExtend short)

def traceLine (machine : Machine β) : TraceLine :=
  let (scanline, dot) := Bus.ppuPosition machine.bus
  { cpu := machine.cpu
    bytes := machine.peekBytes
    opcode := machine.peekOpcode
    operand := machine.viewOperand
    scanline
    dot }

def trace (machine : Machine β) : String := machine.traceLine.render

/-- The line of the instruction that the next step carries out; none if the processor is halted or
enters an interrupt instead. -/
def nextTrace? (machine : Machine β) : Option String :=
  if machine.cpu.halted then none
  else
    let machine := machine.latchNmi
    if machine.next = .instruction then some machine.trace else none

end Machine

end Nes
