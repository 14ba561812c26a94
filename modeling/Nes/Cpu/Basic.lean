import Nes.Codec.Basic
import Nes.Cpu.Flag

/-!
The processor's registers and counters, and the arithmetic that works on them alone.
-/

namespace Nes

/-- The processor. This is also what a snapshot records of it. -/
structure Cpu where
  a : UInt8 := 0
  x : UInt8 := 0
  y : UInt8 := 0
  sp : UInt8 := 0
  pc : UInt16 := 0
  status : UInt8 := 0x24
  /-- Cycles since power-on. -/
  cycles : UInt64 := 0
  /-- Stopped by an instruction; only a reset goes on. -/
  halted : Bool := false
  /-- Cycles that were requested and not yet spent. -/
  stall : UInt64 := 0
  /-- An interrupt edge that waits for the end of the instruction. -/
  nmiPending : Bool := false
  /-- The interrupt mask as the next poll sees it, which may be one instruction late. -/
  irqInhibit : Bool := true
  deriving DecidableEq

namespace Cpu

def has (cpu : Cpu) (flag : Flag) : Bool := cpu.status &&& flag.mask != 0

def withFlag (cpu : Cpu) (flag : Flag) (on : Bool) : Cpu :=
  { cpu with
    status := if on then cpu.status ||| flag.mask else cpu.status &&& ~~~flag.mask }

/-- The zero and negative flags describe a result. -/
def withResult (cpu : Cpu) (value : UInt8) : Cpu :=
  (cpu.withFlag .zero (value == 0)).withFlag .negative (value &&& 0x80 != 0)

def withA (cpu : Cpu) (value : UInt8) : Cpu := { cpu with a := value }.withResult value

def withX (cpu : Cpu) (value : UInt8) : Cpu := { cpu with x := value }.withResult value

def withY (cpu : Cpu) (value : UInt8) : Cpu := { cpu with y := value }.withResult value

/-- The status as instructions push it. -/
def pushedStatus (cpu : Cpu) : UInt8 := cpu.status ||| Flag.pushed.mask ||| Flag.unused.mask

/-- The status as interrupts push it. -/
def interruptStatus (cpu : Cpu) : UInt8 :=
  (cpu.status &&& ~~~Flag.pushed.mask) ||| Flag.unused.mask

def restoreStatus (cpu : Cpu) (byte : UInt8) : Cpu :=
  { cpu with status := (byte &&& ~~~Flag.pushed.mask) ||| Flag.unused.mask }

def carry (cpu : Cpu) : UInt8 := if cpu.has .carry then 1 else 0

/-- Adds a value and the carry to the accumulator. -/
def add (cpu : Cpu) (value : UInt8) : Cpu :=
  let sum := cpu.a.toNat + value.toNat + cpu.carry.toNat
  let result := UInt8.ofNat sum
  let overflow := (value ^^^ result) &&& (result ^^^ cpu.a) &&& 0x80 != 0
  ((cpu.withFlag .carry (0xFF < sum)).withFlag .overflow overflow).withA result

/-- Subtracts a value and the missing carry from the accumulator. -/
def subtract (cpu : Cpu) (value : UInt8) : Cpu := cpu.add (~~~value)

def compare (register : UInt8) (cpu : Cpu) (value : UInt8) : Cpu :=
  (cpu.withFlag .carry (value ≤ register)).withResult (register - value)

def testBits (cpu : Cpu) (value : UInt8) : Cpu :=
  ((cpu.withFlag .zero (cpu.a &&& value == 0)).withFlag .overflow
    (value &&& 0x40 != 0)).withFlag .negative (value &&& 0x80 != 0)

def shiftLeft (cpu : Cpu) (value : UInt8) : UInt8 × Cpu :=
  let result := value <<< 1
  (result, (cpu.withFlag .carry (value &&& 0x80 != 0)).withResult result)

def shiftRight (cpu : Cpu) (value : UInt8) : UInt8 × Cpu :=
  let result := value >>> 1
  (result, (cpu.withFlag .carry (value &&& 0x01 != 0)).withResult result)

/-- Rotates left through the carry. -/
def rotateLeft (cpu : Cpu) (value : UInt8) : UInt8 × Cpu :=
  let result := (value <<< 1) ||| cpu.carry
  (result, (cpu.withFlag .carry (value &&& 0x80 != 0)).withResult result)

/-- Rotates right through the carry. -/
def rotateRight (cpu : Cpu) (value : UInt8) : UInt8 × Cpu :=
  let result := (value >>> 1) ||| (cpu.carry <<< 7)
  (result, (cpu.withFlag .carry (value &&& 0x01 != 0)).withResult result)

def increment (cpu : Cpu) (value : UInt8) : UInt8 × Cpu :=
  (value + 1, cpu.withResult (value + 1))

def decrement (cpu : Cpu) (value : UInt8) : UInt8 × Cpu :=
  (value - 1, cpu.withResult (value - 1))

def and (cpu : Cpu) (value : UInt8) : Cpu := cpu.withA (cpu.a &&& value)

def or (cpu : Cpu) (value : UInt8) : Cpu := cpu.withA (cpu.a ||| value)

def exclusiveOr (cpu : Cpu) (value : UInt8) : Cpu := cpu.withA (cpu.a ^^^ value)

/-! ### Undocumented arithmetic -/

/-- What two of the instructions find in the accumulator besides its value. -/
def unstableBits : UInt8 := 0xEE

def loadBoth (cpu : Cpu) (value : UInt8) : Cpu := { cpu.withA value with x := value }

/-- And, with the sign in the carry. -/
def andSign (cpu : Cpu) (value : UInt8) : Cpu :=
  let cpu := cpu.and value
  cpu.withFlag .carry (cpu.a &&& 0x80 != 0)

/-- And, then a shift right. -/
def andShift (cpu : Cpu) (value : UInt8) : Cpu :=
  let (result, cpu) := (cpu.and value).shiftRight (cpu.a &&& value)
  { cpu with a := result }

/-- And, then a rotation right whose flags come from the upper bits of the result. -/
def andRotate (cpu : Cpu) (value : UInt8) : Cpu :=
  let result := ((cpu.a &&& value) >>> 1) ||| (cpu.carry <<< 7)
  let cpu := cpu.withA result
  (cpu.withFlag .carry (result &&& 0x40 != 0)).withFlag .overflow
    (((result >>> 6) ^^^ (result >>> 5)) &&& 1 != 0)

/-- The accumulator becomes X under the value and its unstable bits. -/
def unstableTransfer (cpu : Cpu) (value : UInt8) : Cpu :=
  cpu.withA ((cpu.a ||| unstableBits) &&& cpu.x &&& value)

/-- The accumulator and X become the value under the unstable bits. -/
def unstableLoad (cpu : Cpu) (value : UInt8) : Cpu :=
  cpu.loadBoth ((cpu.a ||| unstableBits) &&& value)

/-- X becomes the accumulator and X together, less the value. -/
def subtractMasked (cpu : Cpu) (value : UInt8) : Cpu :=
  let masked := cpu.a &&& cpu.x
  (cpu.withFlag .carry (value ≤ masked)).withX (masked - value)

/-- Accumulator, X and stack pointer become the value under the stack pointer. -/
def loadStack (cpu : Cpu) (value : UInt8) : Cpu :=
  let value := value &&& cpu.sp
  { cpu with x := value, sp := value }.withA value

def codec : Codec Cpu :=
  (Codec.u8.pair <| Codec.u8.pair <| Codec.u8.pair <| Codec.u8.pair <| Codec.u16.pair <|
    Codec.u8.pair <| Codec.u64.pair <| Codec.bool.pair <| Codec.u64.pair <|
    Codec.bool.pair Codec.bool).iso
    (fun (a, x, y, sp, pc, status, cycles, halted, stall, nmiPending, irqInhibit) =>
      { a, x, y, sp, pc, status, cycles, halted, stall, nmiPending, irqInhibit })
    (fun c => (c.a, c.x, c.y, c.sp, c.pc, c.status, c.cycles, c.halted, c.stall, c.nmiPending,
      c.irqInhibit))

end Cpu

end Nes
