import Nes.Bus.Basic
import Nes.Cpu.Operation

/-!
The processor at work on a bus. An instruction is carried out in full, then the cycles it took pass
on the bus, and then the cycles that the processor owes to other users of the bus.
-/

namespace Nes

/-- A processor wired to a bus. -/
structure Machine (β : Type) where
  cpu : Cpu := {}
  bus : β

/-- The address of an operand, and whether indexing has left its page. -/
structure Operand where
  address : UInt16
  crossed : Bool := false
  deriving DecidableEq

namespace Machine

def nmiVector : UInt16 := 0xFFFA
def resetVector : UInt16 := 0xFFFC
def irqVector : UInt16 := 0xFFFE

/-- Cycles of a reset and of the entry to an interrupt. -/
def interruptCycles : UInt64 := 7

variable {β : Type} [Bus β]

/-! ### Bus access -/

def mapCpu (machine : Machine β) (effect : Cpu → Cpu) : Machine β :=
  { machine with cpu := effect machine.cpu }

def read (machine : Machine β) (address : UInt16) : UInt8 × Machine β :=
  let { cpu, bus } := machine
  let (value, bus) := Bus.read bus address
  (value, { cpu, bus })

def write (machine : Machine β) (address : UInt16) (data : UInt8) : Machine β :=
  { machine with bus := Bus.write machine.bus address data }

def tick (machine : Machine β) (cycles : UInt64) : Machine β :=
  { machine with bus := Bus.tick machine.bus cycles }

/-- Counts cycles without letting them pass yet. -/
def charge (machine : Machine β) (cycles : UInt64) : Machine β :=
  machine.mapCpu fun cpu => { cpu with cycles := cpu.cycles + cycles }

/-- Two bytes as a word, low byte first. -/
def wordOf (low high : UInt8) : UInt16 := (high.toUInt16 <<< 8) ||| low.toUInt16

/-- The address after `address` within the same page. -/
def nextInPage (address : UInt16) : UInt16 := (address &&& 0xFF00) ||| ((address + 1) &&& 0x00FF)

def readWord (machine : Machine β) (address : UInt16) : UInt16 × Machine β :=
  let (low, machine) := machine.read address
  let (high, machine) := machine.read (address + 1)
  (wordOf low high, machine)

/-- Reads a word that does not leave its page. -/
def readWordInPage (machine : Machine β) (address : UInt16) : UInt16 × Machine β :=
  let (low, machine) := machine.read address
  let (high, machine) := machine.read (nextInPage address)
  (wordOf low high, machine)

def fetchByte (machine : Machine β) : UInt8 × Machine β :=
  let (byte, machine) := machine.read machine.cpu.pc
  (byte, machine.mapCpu fun cpu => { cpu with pc := cpu.pc + 1 })

def fetchWord (machine : Machine β) : UInt16 × Machine β :=
  let (low, machine) := machine.fetchByte
  let (high, machine) := machine.fetchByte
  (wordOf low high, machine)

def stackAddress (sp : UInt8) : UInt16 := sp.toUInt16 ||| 0x0100

def push (machine : Machine β) (value : UInt8) : Machine β :=
  (machine.write (stackAddress machine.cpu.sp) value).mapCpu fun cpu =>
    { cpu with sp := cpu.sp - 1 }

def pull (machine : Machine β) : UInt8 × Machine β :=
  let machine := machine.mapCpu fun cpu => { cpu with sp := cpu.sp + 1 }
  machine.read (stackAddress machine.cpu.sp)

/-- Pushes a word, high byte first. -/
def pushWord (machine : Machine β) (value : UInt16) : Machine β :=
  (machine.push (value >>> 8).toUInt8).push value.toUInt8

def pullWord (machine : Machine β) : UInt16 × Machine β :=
  let (low, machine) := machine.pull
  let (high, machine) := machine.pull
  (wordOf low high, machine)

def jump (machine : Machine β) (address : UInt16) : Machine β :=
  machine.mapCpu fun cpu => { cpu with pc := address }

/-! ### Operands -/

/-- Two addresses lie in different pages. -/
def crossesPage (first second : UInt16) : Bool := first &&& 0xFF00 != second &&& 0xFF00

/-- The address that indexing reaches before the carry into the page. -/
def uncarried (base address : UInt16) : UInt16 := (base &&& 0xFF00) ||| (address &&& 0x00FF)

/-- An indexed operand. A wrong address is read first when the page changes, and always by
instructions that write. -/
def indexed (machine : Machine β) (opcode : Opcode) (base : UInt16) (index : UInt8) :
    Operand × Machine β :=
  let address := base + index.toUInt16
  let crossed := crossesPage base address
  if crossed || opcode.pageCycles == 0 then
    let (_, machine) := machine.read (uncarried base address)
    ({ address, crossed }, machine)
  else ({ address, crossed }, machine)

/-- A byte as a signed distance. -/
def signExtend (byte : UInt8) : UInt16 :=
  if byte < 0x80 then byte.toUInt16 else byte.toUInt16 ||| 0xFF00

/-- Reads the rest of the instruction and resolves its operand. -/
def operand (machine : Machine β) (opcode : Opcode) : Operand × Machine β :=
  match opcode.mode with
  | .implied | .accumulator => ({ address := 0 }, machine)
  | .immediate => ({ address := machine.cpu.pc }, machine.jump (machine.cpu.pc + 1))
  | .zeroPage =>
    let (byte, machine) := machine.fetchByte
    ({ address := byte.toUInt16 }, machine)
  | .zeroPageX =>
    let (byte, machine) := machine.fetchByte
    ({ address := (byte + machine.cpu.x).toUInt16 }, machine)
  | .zeroPageY =>
    let (byte, machine) := machine.fetchByte
    ({ address := (byte + machine.cpu.y).toUInt16 }, machine)
  | .absolute =>
    let (address, machine) := machine.fetchWord
    ({ address }, machine)
  | .absoluteX =>
    let (base, machine) := machine.fetchWord
    machine.indexed opcode base machine.cpu.x
  | .absoluteY =>
    let (base, machine) := machine.fetchWord
    machine.indexed opcode base machine.cpu.y
  | .indirect =>
    let (pointer, machine) := machine.fetchWord
    let (address, machine) := machine.readWordInPage pointer
    ({ address }, machine)
  | .indirectX =>
    let (byte, machine) := machine.fetchByte
    let (address, machine) := machine.readWordInPage (byte + machine.cpu.x).toUInt16
    ({ address }, machine)
  | .indirectY =>
    let (byte, machine) := machine.fetchByte
    let (base, machine) := machine.readWordInPage byte.toUInt16
    machine.indexed opcode base machine.cpu.y
  | .relative =>
    let (byte, machine) := machine.fetchByte
    ({ address := machine.cpu.pc + signExtend byte }, machine)

/-! ### Instructions -/

def modifyA (machine : Machine β) (change : Cpu → UInt8 → UInt8 × Cpu) : Machine β :=
  machine.mapCpu fun cpu =>
    let (value, cpu) := change cpu cpu.a
    { cpu with a := value }

/-- Replaces a byte in memory, which is first written back as it was; then goes on with the new
value. -/
def modify (machine : Machine β) (address : UInt16) (change : Cpu → UInt8 → UInt8 × Cpu)
    (after : Cpu → UInt8 → Cpu) : Machine β :=
  let (old, machine) := machine.read address
  let machine := machine.write address old
  let (new, cpu) := change machine.cpu old
  let machine := ({ machine with cpu } : Machine β).write address new
  machine.mapCpu fun cpu => after (cpu.withResult new) new

/-- Where a store under the high byte goes: a page crossing puts the stored value into the high
byte of the address. -/
def highTarget (operand : Operand) (data : UInt8) : UInt16 :=
  if operand.crossed then (data.toUInt16 <<< 8) ||| (operand.address &&& 0x00FF)
  else operand.address

/-- Stores a value under the high byte of the unindexed address, one higher. -/
def storeHigh (machine : Machine β) (operand : Operand) (index value : UInt8) : Machine β :=
  let base := operand.address - index.toUInt16
  let data := value &&& ((base >>> 8).toUInt8 + 1)
  machine.write (highTarget operand data) data

def branch (machine : Machine β) (condition : Bool) (target : UInt16) : Machine β :=
  if condition then
    let extra := if crossesPage machine.cpu.pc target then 2 else 1
    (machine.charge extra).jump target
  else machine

/-- Enters an interrupt: the program counter and the status are pushed, and the mask is set. -/
def enter (machine : Machine β) (status : UInt8) (vector : UInt16) : Machine β :=
  let machine := (machine.pushWord machine.cpu.pc).push status
  let machine := machine.mapCpu fun cpu => cpu.withFlag .interruptDisable true
  let (target, machine) := machine.readWord vector
  machine.jump target

/-- Carries out an operation on its operand. -/
def perform (machine : Machine β) (opcode : Opcode) (operand : Operand) : Machine β :=
  match opcode.mnemonic.operation with
  | .registers effect => machine.mapCpu effect
  | .read effect =>
    let (value, machine) := machine.read operand.address
    machine.mapCpu fun cpu => effect cpu value
  | .modify change after =>
    if opcode.mode = .accumulator then machine.modifyA change
    else machine.modify operand.address change after
  | .store value => machine.write operand.address (value machine.cpu)
  | .storeHigh prepare index value =>
    let machine := machine.mapCpu prepare
    machine.storeHigh operand (index machine.cpu) (value machine.cpu)
  | .branch condition => machine.branch (condition machine.cpu) operand.address
  | .push value => machine.push (value machine.cpu)
  | .pull effect =>
    let (value, machine) := machine.pull
    machine.mapCpu fun cpu => effect cpu value
  | .jump => machine.jump operand.address
  | .call => (machine.pushWord (machine.cpu.pc - 1)).jump operand.address
  | .returnFromCall =>
    let (address, machine) := machine.pullWord
    machine.jump (address + 1)
  | .returnFromInterrupt =>
    let (status, machine) := machine.pull
    let machine := machine.mapCpu fun cpu => cpu.restoreStatus status
    let (address, machine) := machine.pullWord
    machine.jump address
  | .softwareInterrupt =>
    let machine := machine.jump (machine.cpu.pc + 1)
    machine.enter machine.cpu.pushedStatus irqVector
  | .nothing =>
    if opcode.mode = .implied ∨ opcode.mode = .immediate then machine
    else (machine.read operand.address).2
  | .jam => machine.mapCpu fun cpu => { cpu with halted := true, pc := cpu.pc - 1 }

/-- The cycles of an instruction before branching. -/
def baseCycles (opcode : Opcode) (operand : Operand) : UInt64 :=
  opcode.cycles.toUInt64 + if operand.crossed then opcode.pageCycles.toUInt64 else 0

def execute (machine : Machine β) : Machine β :=
  let (byte, machine) := machine.fetchByte
  let opcode := Opcode.ofByte byte
  let (operand, machine) := machine.operand opcode
  let machine := machine.charge (baseCycles opcode operand)
  let before := machine.cpu.has .interruptDisable
  let machine := machine.perform opcode operand
  machine.mapCpu fun cpu =>
    { cpu with
      irqInhibit :=
        if opcode.mnemonic.delaysMask then before else cpu.has .interruptDisable }

/-! ### Steps -/

/-- What the processor does next. -/
inductive Next where
  | nmi
  | irq
  | instruction
  deriving DecidableEq

/-- Takes an interrupt edge from the bus. -/
def latchNmi (machine : Machine β) : Machine β :=
  let { cpu, bus } := machine
  let (edge, bus) := Bus.pollNmi bus
  { cpu := { cpu with nmiPending := cpu.nmiPending || edge }, bus }

/-- An edge comes first, then the interrupt line unless it is masked, then the program. -/
def next (machine : Machine β) : Next :=
  if machine.cpu.nmiPending then .nmi
  else if !machine.cpu.irqInhibit && Bus.irqLine machine.bus then .irq
  else .instruction

def interrupt (machine : Machine β) (vector : UInt16) : Machine β :=
  let machine := machine.enter machine.cpu.interruptStatus vector
  machine.mapCpu fun cpu =>
    { cpu with irqInhibit := true, cycles := cpu.cycles + interruptCycles }

/-- Carries out what comes next, without letting its cycles pass. -/
def serve (machine : Machine β) : Machine β :=
  match machine.next with
  | .nmi =>
    let machine := machine.mapCpu fun cpu => { cpu with nmiPending := false }
    machine.interrupt nmiVector
  | .irq => machine.interrupt irqVector
  | .instruction => machine.execute

/-- Takes all cycles that are owed, by request and by the bus. -/
def takeStall (machine : Machine β) : UInt64 × Machine β :=
  let { cpu, bus } := machine
  let (owed, bus) := Bus.takeStall bus
  (cpu.stall + owed, { cpu := { cpu with stall := 0 }, bus })

/-- Spends owed cycles until none are left. Cycles that pass may make the processor owe more, so
the number of rounds is given. -/
def settle : Nat → Machine β → Machine β
  | 0, machine => machine
  | rounds + 1, machine =>
    let (owed, machine) := machine.takeStall
    if owed == 0 then machine else settle rounds ((machine.charge owed).tick owed)

/-- More rounds than any debt needs: each round leaves less than a hundredth of it. -/
def settleRounds : Nat := 64

/-- One instruction or interrupt entry, with a number of rounds for what is owed at its end. Answers
the cycles that have passed; a halted processor lets none pass. -/
def stepWithin (machine : Machine β) (rounds : Nat) : UInt64 × Machine β :=
  if machine.cpu.halted then (0, machine)
  else
    let start := machine.cpu.cycles
    let machine := machine.latchNmi.serve
    let machine := machine.tick (machine.cpu.cycles - start)
    let machine := machine.settle rounds
    (machine.cpu.cycles - start, machine)

def step (machine : Machine β) : UInt64 × Machine β := machine.stepWithin settleRounds

/-- The reset line: the stack pointer drops by three, the mask is set, and the program begins at
the reset vector. -/
def reset (machine : Machine β) : Machine β :=
  let machine := machine.mapCpu fun cpu =>
    { cpu.withFlag .interruptDisable true with sp := cpu.sp - 3, irqInhibit := true }
  let (target, machine) := machine.readWord resetVector
  let machine := machine.mapCpu fun cpu =>
    { cpu with
      pc := target
      halted := false
      nmiPending := false
      stall := 0
      cycles := cpu.cycles + interruptCycles }
  machine.tick interruptCycles

/-- Raises an interrupt edge from outside the bus. -/
def requestNmi (machine : Machine β) : Machine β :=
  machine.mapCpu fun cpu => { cpu with nmiPending := true }

/-- Adds cycles to those that the processor owes. -/
def requestStall (machine : Machine β) (cycles : UInt64) : Machine β :=
  machine.mapCpu fun cpu => { cpu with stall := cpu.stall + cycles }

end Machine

end Nes
