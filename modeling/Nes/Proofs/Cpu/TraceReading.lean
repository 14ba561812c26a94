import Nes.Proofs.Cpu.Trace
import Nes.Proofs.Text.Reading

/-!
Lines of a trace, read back from their text. Each value stands in its column, the numbers in
hexadecimal digits, and the first byte tells which form the operand has; what is read there is what
the processor does.
-/

namespace Nes

open Text

/-! ### Operands -/

namespace OperandView

def targetReader : Reader OperandView := do
  literal "$"
  return .target (← word)

def zeroPageIndexedReader (register : String) : Reader OperandView := do
  literal "$"
  let base ← byte
  literal ","
  literal register
  literal " @ "
  let address ← byte
  literal " = "
  return .zeroPageIndexed base register address (← byte)

def absoluteIndexedReader (register : String) : Reader OperandView := do
  literal "$"
  let base ← word
  literal ","
  literal register
  literal " @ "
  let address ← word
  literal " = "
  return .absoluteIndexed base register address (← byte)

/-- The form of an operand in each mode; a jump shows no byte. -/
def reader (mnemonic : Mnemonic) : Mode → Reader OperandView
  | .implied => return .none
  | .accumulator => do
    literal "A"
    return .accumulator
  | .immediate => do
    literal "#$"
    return .immediate (← byte)
  | .zeroPage => do
    literal "$"
    let address ← byte
    literal " = "
    return .zeroPage address (← byte)
  | .zeroPageX => zeroPageIndexedReader "X"
  | .zeroPageY => zeroPageIndexedReader "Y"
  | .absolute =>
    if mnemonic = .jmp ∨ mnemonic = .jsr then targetReader
    else do
      literal "$"
      let address ← word
      literal " = "
      return .absolute address (← byte)
  | .absoluteX => absoluteIndexedReader "X"
  | .absoluteY => absoluteIndexedReader "Y"
  | .indirect => do
    literal "($"
    let pointer ← word
    literal ") = "
    return .indirect pointer (← word)
  | .indirectX => do
    literal "($"
    let base ← byte
    literal ",X) @ "
    let pointer ← byte
    literal " = "
    let address ← word
    literal " = "
    return .indirectX base pointer address (← byte)
  | .indirectY => do
    literal "($"
    let pointer ← byte
    literal "),Y = "
    let base ← word
    literal " @ "
    let address ← word
    literal " = "
    return .indirectY pointer base address (← byte)
  | .relative => targetReader

theorem targetReader_run (address : UInt16) (rest : List Char) :
    targetReader.run ((target address).render.toList ++ rest) = some (.target address, rest) := by
  simp only [targetReader, render, String.toList_append, List.append_assoc, StateT.run_bind,
    StateT.run_pure, literal_run, word_run, Option.bind_eq_bind, Option.bind_some, Option.pure_def]

variable {cpu : Cpu} {memory : FlatMemory} {accesses : List Access} {address : UInt16}
variable {mnemonic : Mnemonic} {mode : Mode} {view : OperandView}

/-- The words of an operand are read back in the form that it has in its mode. -/
theorem Shows.reader_run (shows : view.Shows cpu memory accesses address mnemonic mode)
    (rest : List Char) :
    (reader mnemonic mode).run (view.render.toList ++ rest) = some (view, rest) := by
  cases shows
  case implied => rfl
  case relative => exact targetReader_run address rest
  case target jumps _ =>
    rw [reader, if_pos jumps]
    exact targetReader_run address rest
  case' absolute stays _ => rw [reader, if_neg stays]
  all_goals
    simp only [reader, zeroPageIndexedReader, absoluteIndexedReader, render, String.toList_append,
      List.append_assoc, StateT.run_bind, StateT.run_pure, literal_run, byte_run, word_run,
      Option.bind_eq_bind, Option.bind_some, Option.pure_def]

theorem Shows.length_render_le (shows : view.Shows cpu memory accesses address mnemonic mode) :
    view.render.length ≤ 27 := by
  cases shows <;> simp [render, ← String.length_toList, length_hexByte, length_hexWord]

end OperandView

/-! ### Lines -/

/-- What is read off a line. -/
structure TraceReading where
  pc : UInt16
  /-- The bytes of the instruction. -/
  bytes : List UInt8
  label : String
  operand : OperandView
  /-- The accumulator, the index registers, the status and the stack pointer. -/
  registers : UInt8 × UInt8 × UInt8 × UInt8 × UInt8
  /-- The line and the dot of the picture, and the cycles. -/
  clock : Nat × Nat × Nat

namespace TraceReading

def registersReader : Reader (UInt8 × UInt8 × UInt8 × UInt8 × UInt8) := do
  literal " A:"
  let a ← byte
  literal " X:"
  let x ← byte
  literal " Y:"
  let y ← byte
  literal " P:"
  let status ← byte
  literal " SP:"
  return (a, x, y, status, ← byte)

def clockReader : Reader (Nat × Nat × Nat) := do
  literal " PPU:"
  blanks
  let scanline ← decimal
  literal ","
  blanks
  let dot ← decimal
  literal " CYC:"
  return (scanline, dot, ← decimal)

/-- The columns of a line. -/
def reader : Reader TraceReading := do
  let pc ← word
  literal "  "
  let bytes ← column 8 bytes?
  literal " "
  let label ← column 4 rightWords
  literal " "
  let opcode := Opcode.ofByte (bytes.headD 0)
  let operand ← column 27 (filled (OperandView.reader opcode.mnemonic opcode.mode))
  let registers ← registersReader
  let clock ← clockReader
  return { pc, bytes, label, operand, registers, clock }

/-- What a line says; none if the text is no line. -/
def ofLine? (line : String) : Option TraceReading := filled reader line.toList

end TraceReading

theorem Mnemonic.exists_name (mnemonic : Mnemonic) :
    ∃ first second third, mnemonic.name.toList = [first, second, third] ∧
      (first == ' ') = false := by
  cases mnemonic <;> exact ⟨_, _, _, rfl, rfl⟩

namespace TraceLine

variable (line : TraceLine)

/-- A label fits into its column and has no blank in front. -/
theorem exists_label :
    ∃ first others, line.label.toList = first :: others ∧ (first == ' ') = false ∧
      line.label.length ≤ 4 := by
  obtain ⟨first, second, third, name, inked⟩ := line.opcode.mnemonic.exists_name
  rw [← String.length_toList, label, String.toList_append, name]
  cases line.opcode.undocumented with
  | true => exact ⟨'*', [first, second, third], rfl, rfl, Nat.le_refl 4⟩
  | false => exact ⟨first, [second, third], rfl, inked, Nat.le_succ 3⟩

def registers : UInt8 × UInt8 × UInt8 × UInt8 × UInt8 :=
  (line.cpu.a, line.cpu.x, line.cpu.y, line.cpu.status, line.cpu.sp)

def clock : Nat × Nat × Nat :=
  (line.scanline.toNat, line.dot.toNat, line.cpu.cycles.toNat)

/-- What a line has to say. -/
def reading : TraceReading where
  pc := line.cpu.pc
  bytes := line.bytes
  label := line.label
  operand := line.operand
  registers := line.registers
  clock := line.clock

def registersText : String :=
  " A:" ++ hexByte line.cpu.a ++ " X:" ++ hexByte line.cpu.x ++ " Y:" ++ hexByte line.cpu.y ++
    " P:" ++ hexByte line.cpu.status ++ " SP:" ++ hexByte line.cpu.sp

def clockText : String :=
  " PPU:" ++ alignRight 3 (toString line.scanline.toNat) ++ "," ++
    alignRight 3 (toString line.dot.toNat) ++ " CYC:" ++ toString line.cpu.cycles.toNat

theorem render_eq :
    line.render = hexWord line.cpu.pc ++ "  " ++
      alignLeft 8 (" ".intercalate (line.bytes.map hexByte)) ++ " " ++ alignRight 4 line.label ++
      " " ++ alignLeft 27 line.operand.render ++ line.registersText ++ line.clockText := by
  unfold render registersText clockText
  dsimp only
  simp only [String.append_assoc]

theorem registersReader_run (rest : List Char) :
    TraceReading.registersReader.run (line.registersText.toList ++ rest) =
      some (line.registers, rest) := by
  simp only [TraceReading.registersReader, registersText, String.toList_append, List.append_assoc,
    StateT.run_bind, StateT.run_pure, literal_run, byte_run, Option.bind_eq_bind,
    Option.bind_some, Option.pure_def, registers]

theorem clockReader_run :
    TraceReading.clockReader.run line.clockText.toList = some (line.clock, []) := by
  obtain ⟨_, _, scanlineBegins, scanlineInked⟩ := exists_toList_toString line.scanline.toNat
  obtain ⟨_, _, dotBegins, dotInked⟩ := exists_toList_toString line.dot.toNat
  have scanline := blanks_run scanlineBegins scanlineInked 3
  have dot := blanks_run dotBegins dotInked 3
  -- A comma, a blank or the end of the line stops each number.
  have scanlineEnds (rest : List Char) : ∀ next ∈ (",".toList ++ rest).head?,
      next.isDigit = false := by simp
  have dotEnds (rest : List Char) : ∀ next ∈ (" CYC:".toList ++ rest).head?,
      next.isDigit = false := by simp
  have cycles : decimal.run ((toString line.cpu.cycles.toNat).toList ++ []) = _ :=
    decimal_run _ (by simp)
  rw [List.append_nil] at cycles
  simp only [TraceReading.clockReader, clockText, String.toList_append, List.append_assoc,
    StateT.run_bind, StateT.run_pure, literal_run, scanline, decimal_run _ (scanlineEnds _), dot,
    decimal_run _ (dotEnds _), cycles, Option.bind_eq_bind, Option.bind_some, Option.pure_def, clock]

variable {line : TraceLine}

/-- A line whose operand fits into its column and is read back there is read back as a whole. -/
theorem ofLine?_render (decoded : Opcode.ofByte (line.bytes.headD 0) = line.opcode)
    (few : line.bytes.length ≤ 3) (short : line.operand.render.length ≤ 27)
    (operand : ∀ rest, (OperandView.reader line.opcode.mnemonic line.opcode.mode).run
      (line.operand.render.toList ++ rest) = some (line.operand, rest)) :
    TraceReading.ofLine? line.render = some line.reading := by
  have spaced := length_intercalate_hexByte line.bytes
  obtain ⟨first, others, begins, inked, narrow⟩ := line.exists_label
  have bytes := column_run (length_alignLeft (by omega)) (bytes?_alignLeft line.bytes 8)
  have label := column_run (length_alignRight narrow) (rightWords_alignRight begins inked 4)
  have operand := column_run (length_alignLeft short) (filled_alignLeft operand 27)
  have run : TraceReading.reader.run line.render.toList = some (line.reading, []) := by
    simp only [TraceReading.reader, render_eq, String.toList_append, List.append_assoc,
      StateT.run_bind, StateT.run_pure, literal_run, word_run, bytes, label, decoded, operand,
      registersReader_run, clockReader_run, Option.bind_eq_bind, Option.bind_some,
      Option.pure_def]
    rfl
  rw [TraceReading.ofLine?, filled, run]
  rfl

/-- A load through a pointer. -/
example : (TraceReading.ofLine?
    "C000  B1 89     LDA ($89),Y = 0300 @ 0304 = 5D  A:00 X:00 Y:04 P:24 SP:FD PPU:  0, 21 CYC:7"
      ).map (·.operand) = some (.indirectY 0x89 0x0300 0x0304 0x5D) := rfl

end TraceLine

theorem Mode.size_cases (mode : Mode) : ∃ more ≤ 2, mode.size = more + 1 := by
  cases mode <;> exact ⟨_, by decide, rfl⟩

namespace Machine

variable {β : Type} [Bus β]

/-- Of one to three bytes the first is the code. -/
theorem peekBytes_code (machine : Machine β) :
    machine.peekBytes.length ≤ 3 ∧
      Opcode.ofByte (machine.peekBytes.headD 0) = machine.peekOpcode := by
  obtain ⟨more, few, size⟩ := machine.peekOpcode.mode.size_cases
  rw [peekBytes, size]
  constructor
  · rw [List.length_map, List.length_range]
    omega
  · rw [List.range_succ_eq_map]
    exact congrArg (fun place => Opcode.ofByte (machine.peek place)) (UInt16.add_zero _)

section flat

variable {memory : β → FlatMemory} (flat : Bus.Flat memory) (machine : Machine β)
include flat

/-- On flat memory every line is read back. -/
theorem ofLine?_trace :
    TraceReading.ofLine? machine.trace = some machine.traceLine.reading := by
  obtain ⟨few, code⟩ := machine.peekBytes_code
  have shows := traceLine_shows flat machine
  rw [← traceLine_opcode flat] at shows
  exact TraceLine.ofLine?_render code few shows.length_render_le shows.reader_run

end flat

/-- A line tells what the processor does with the instruction. On flat memory every line is read
back from its text, and shows the instruction that is decoded and its bytes, as many as the program
counter moves on unless the program leaves. It shows the operand that is resolved, with the
addresses on the way to it and the byte that the memory holds there, and the processor as it is
before the instruction. -/
theorem trace_agrees (memory : β → FlatMemory) (flat : Bus.Flat memory) (machine : Machine β) :
    ∃ reading, TraceReading.ofLine? machine.trace = some reading ∧
      reading.pc = machine.cpu.pc ∧
      reading.label = (if machine.decoded.undocumented then "*" else "") ++
        machine.decoded.mnemonic.name ∧
      reading.bytes.length = machine.decoded.mode.size ∧
      reading.bytes = (List.range reading.bytes.length).map (fun i =>
        (memory machine.bus).read (machine.cpu.pc + UInt16.ofNat i)) ∧
      (machine.decoded.mnemonic.operation.leaves machine.cpu = false →
        machine.execute.cpu.pc = machine.cpu.pc + UInt16.ofNat reading.bytes.length) ∧
      reading.operand.Shows machine.cpu (memory machine.bus) machine.accesses
        machine.resolved.1.address machine.decoded.mnemonic machine.decoded.mode ∧
      reading.registers = (machine.cpu.a, machine.cpu.x, machine.cpu.y, machine.cpu.status,
        machine.cpu.sp) ∧
      reading.clock = ((Bus.ppuPosition machine.bus).1.toNat,
        (Bus.ppuPosition machine.bus).2.toNat, machine.cpu.cycles.toNat) := by
  have bytes := traceLine_bytes flat machine
  have length : machine.traceLine.bytes.length = machine.decoded.mode.size := by
    rw [bytes, List.length_map, List.length_range]
  refine ⟨machine.traceLine.reading, ofLine?_trace flat machine, rfl, ?_, length, ?_, ?_,
    traceLine_shows flat machine, rfl, rfl⟩
  · rw [← traceLine_opcode flat]
    rfl
  · change machine.traceLine.bytes = (List.range machine.traceLine.bytes.length).map _
    rw [length]
    exact bytes
  · intro straight
    change _ = machine.cpu.pc + UInt16.ofNat machine.traceLine.bytes.length
    rw [length]
    exact execute_pc straight

/-- Empty memory but for its last byte, where a program begins that goes on at the first. -/
def atEnd (instruction : UInt8) : Machine FlatBus where
  cpu := { pc := 0xFFFF }
  bus := { memory := FlatMemory.write {} 0xFFFF instruction }

/-- A load through a pointer, with its code and its pointer at both ends of the memory. -/
theorem trace_agrees_atEnd :
    ∃ reading, TraceReading.ofLine? (atEnd 0xB1).trace = some reading ∧
      reading.pc = 0xFFFF ∧ reading.label = "LDA" ∧ reading.bytes.length = 2 ∧
      (atEnd 0xB1).execute.cpu.pc = 0xFFFF + UInt16.ofNat reading.bytes.length ∧
      reading.operand.Shows (atEnd 0xB1).cpu (atEnd 0xB1).bus.memory (atEnd 0xB1).accesses
        (atEnd 0xB1).resolved.1.address .lda .indirectY := by
  obtain ⟨reading, read, pc, label, length, -, moves, shows, -⟩ :=
    trace_agrees _ FlatBus.flat (atEnd 0xB1)
  have decoded : (atEnd 0xB1).decoded = .paged .lda .indirectY 5 :=
    congrArg Opcode.ofByte (FlatMemory.read_write_self _ _ _)
  rw [decoded] at label length moves shows
  exact ⟨reading, read, pc, label, length, moves rfl, shows⟩

end Machine

end Nes
