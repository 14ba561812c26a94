import Nes.Cartridge.Snapshot
import Nes.Proofs.Snapshot.Checks

/-!
What play can change about a cartridge and what it cannot. A blank cartridge keeps only what no
write reaches; a board is current while its windows are the ones its registers select. A cartridge
that is current and whose serial port is ready is restored exactly from its own record, by itself
and by every cartridge that differs from it only in contents.
-/

namespace Nes

/-! ### Memories -/

namespace CartridgeMemory

/-- The memories with every byte erased that can be written. -/
def blank (memory : CartridgeMemory) : CartridgeMemory :=
  { memory with
    chr := bif memory.chrWritable then Array.replicate memory.chr.size 0 else memory.chr
    sram := Array.replicate memory.sram.size 0 }

/-- Memories of one build agree in sizes and in all that cannot be written. -/
structure SameBuild (first second : CartridgeMemory) : Prop where
  prg : first.prg = second.prg
  chrWritable : first.chrWritable = second.chrWritable
  chrSize : first.chr.size = second.chr.size
  chr : first.chrWritable = false → first.chr = second.chr
  sramSize : first.sram.size = second.sram.size

theorem SameBuild.of_blank {first second : CartridgeMemory} (same : first.blank = second.blank) :
    first.SameBuild second := by
  obtain ⟨prg, chr, writable, sram⟩ := CartridgeMemory.mk.inj same
  have sramSize := congrArg Array.size sram
  have chrSize := congrArg Array.size chr
  cases fixed : first.chrWritable with
  | true =>
    simp only [← writable, fixed, cond_true, Array.size_replicate] at chrSize sramSize
    exact ⟨prg, writable, chrSize, by simp [fixed], sramSize⟩
  | false =>
    simp only [← writable, fixed, cond_false, Array.size_replicate] at chr chrSize sramSize
    exact ⟨prg, writable, chrSize, fun _ => chr, sramSize⟩

theorem size_writeWrapped (bytes : Array UInt8) (place : Nat) (data : UInt8) :
    (writeWrapped bytes place data).size = bytes.size :=
  Array.size_setIfInBounds

theorem writeSram_blank (memory : CartridgeMemory) (address : UInt16) (data : UInt8) :
    (memory.writeSram address data).blank = memory.blank := by
  simp only [blank, writeSram, size_writeWrapped]

theorem writeChr_blank (memory : CartridgeMemory) (place : Nat) (data : UInt8) :
    (memory.writeChr place data).blank = memory.blank := by
  unfold writeChr
  split
  · rename_i writable
    simp only [blank, size_writeWrapped, writable, cond_true]
  · rfl

/-- Accepted memories keep the build; work memory is as recorded, patterns are where the record
has them and the cartridge can write them. -/
theorem restore_ok {memory next : CartridgeMemory} {sram : List UInt8}
    {chrRam : Option (List UInt8)} (success : memory.restore sram chrRam = .ok next) :
    next.blank = memory.blank ∧ next.sram.toList = sram ∧
      next.chrRam = chrRam.or memory.chrRam := by
  unfold restore at success
  by_cases size : sram.length = memory.sram.size
  · cases chrRam with
    | none =>
      simp only [Snapshot.require, size, acceptsChrRam, beq_self_eq_true, if_true, bind,
        Except.bind, pure, Except.pure] at success
      obtain rfl := Except.ok.inj success
      refine ⟨?_, rfl, rfl⟩
      simp only [blank, List.size_toArray, size]
    | some bytes =>
      by_cases accepted : memory.chrWritable = true ∧ bytes.length = memory.chr.size
      · simp only [Snapshot.require, size, acceptsChrRam, accepted.1, accepted.2,
          beq_self_eq_true, Bool.and_self, if_true, bind, Except.bind, pure,
          Except.pure] at success
        obtain rfl := Except.ok.inj success
        refine ⟨?_, rfl, ?_⟩
        · simp only [blank, List.size_toArray, size, accepted.1, accepted.2, cond_true]
        · simp only [chrRam, accepted.1, if_true, Option.some_or]
      · have refused : (memory.chrWritable && bytes.length == memory.chr.size) = false := by
          simpa using accepted
        simp [Snapshot.require, size, acceptsChrRam, refused, bind, Except.bind] at success
  · simp [Snapshot.require, size, bind, Except.bind] at success

/-- Memories are restored exactly from what memories of the same build have recorded. -/
theorem restore_recorded {memory saved : CartridgeMemory} (same : memory.SameBuild saved) :
    memory.restore saved.sram.toList saved.chrRam = .ok saved := by
  obtain ⟨prg, chr, chrWritable, sram⟩ := memory
  obtain ⟨savedPrg, savedChr, savedWritable, savedSram⟩ := saved
  obtain ⟨rfl, rfl, chrSize, sameChr, sramSize⟩ := same
  simp only at chrSize sameChr sramSize
  cases chrWritable with
  | true =>
    simp [restore, chrRam, Snapshot.require, acceptsChrRam, sramSize, chrSize, bind, Except.bind,
      pure, Except.pure]
  | false =>
    simp [restore, chrRam, Snapshot.require, acceptsChrRam, sramSize, bind, Except.bind, pure,
      Except.pure, sameChr]

/-- Without recorded patterns the memories keep the ones they have. -/
theorem restore_patternless (memory : CartridgeMemory) :
    memory.restore memory.sram.toList none = .ok memory := by
  simp [restore, Snapshot.require, acceptsChrRam, bind, Except.bind, pure, Except.pure]

end CartridgeMemory

/-! ### Boards -/

theorem Mmc1.withRegisters_congr (registers : Registers) (writeReady : Bool)
    {first second : CartridgeMemory} (prg : first.prg.size = second.prg.size)
    (chr : first.chr.size = second.chr.size) :
    withRegisters registers writeReady first = withRegisters registers writeReady second := by
  simp only [withRegisters, CartridgeMemory.prgBankOffset, CartridgeMemory.chrBankOffset, prg, chr]

theorem Mmc3.withRegisters_congr (chip : Mmc3) (registers : Registers)
    {first second : CartridgeMemory} (prg : first.prg.size = second.prg.size)
    (chr : first.chr.size = second.chr.size) :
    chip.withRegisters registers first = chip.withRegisters registers second := by
  simp only [withRegisters, CartridgeMemory.prgBankOffset, CartridgeMemory.chrBankOffset, prg, chr]

/-- Writes outside the first pair of registers leave the banks alone. -/
theorem Mmc3.Registers.write_banks (registers : Registers) (fourScreen : Bool)
    {address : UInt16} (data : UInt8) (outside : ¬ address < 0xA000) :
    (registers.write fourScreen address data).prgBanks = registers.prgBanks ∧
      (registers.write fourScreen address data).chrBanks = registers.chrBanks := by
  simp only [write, if_neg outside]
  repeat' split
  all_goals exact ⟨rfl, rfl⟩

theorem Mmc3.Registers.observe_banks (registers : Registers) (variant : Variant)
    (address : UInt16) :
    (registers.observe variant address).prgBanks = registers.prgBanks ∧
      (registers.observe variant address).chrBanks = registers.chrBanks := by
  simp only [observe, clockCounter]
  repeat' split
  all_goals exact ⟨rfl, rfl⟩

theorem Mmc3.Registers.step_banks (registers : Registers) :
    registers.step.prgBanks = registers.prgBanks ∧
      registers.step.chrBanks = registers.chrBanks := by
  simp only [step]
  split <;> exact ⟨rfl, rfl⟩

theorem Mmc3.current_of_banks {chip : Mmc3} {registers : Registers} {memory : CartridgeMemory}
    (current : chip = chip.withRegisters chip.registers memory)
    (banks : registers.prgBanks = chip.registers.prgBanks ∧
      registers.chrBanks = chip.registers.chrBanks) :
    { chip with registers } = withRegisters { chip with registers } registers memory := by
  have prg := congrArg prgWindows current
  have chr := congrArg chrWindows current
  simp only [withRegisters] at prg chr ⊢
  rw [banks.1, banks.2, ← prg, ← chr]

namespace Board

/-- The board with its registers erased. -/
def blank : Board → Board
  | nrom mirroring => nrom mirroring
  | mmc1 _ => mmc1 { prgWindows := .replicate 2 0, chrWindows := .replicate 2 0 }
  | uxRom mirroring _ => uxRom mirroring 0
  | cnRom mirroring _ => cnRom mirroring 0
  | mmc3 chip =>
    let registers : Mmc3.Registers := { banks := .replicate 8 0 }
    mmc3 { registers, variant := chip.variant, fourScreen := chip.fourScreen }
  | axRom _ => axRom 0

/-- The windows are the ones that the registers select. -/
def Current (board : Board) (memory : CartridgeMemory) : Prop :=
  match board with
  | mmc1 chip => chip = Mmc1.withRegisters chip.registers chip.writeReady memory
  | mmc3 chip => chip = chip.withRegisters chip.registers memory
  | _ => True

/-- The serial port takes the next write; only one board has one. -/
def Ready : Board → Prop
  | mmc1 chip => chip.writeReady = true
  | _ => True

theorem blank_mapperId (board : Board) : board.blank.mapperId = board.mapperId := by
  cases board <;> rfl

theorem Current.congr {board : Board} {first second : CartridgeMemory}
    (current : board.Current first) (prg : first.prg.size = second.prg.size)
    (chr : first.chr.size = second.chr.size) : board.Current second := by
  cases board with
  | mmc1 chip => exact current.trans (Mmc1.withRegisters_congr _ _ prg chr)
  | mmc3 chip => exact current.trans (Mmc3.withRegisters_congr _ _ prg chr)
  | nrom | uxRom | cnRom | axRom => trivial

theorem write_blank (board : Board) (memory : CartridgeMemory) (address : UInt16)
    (data : UInt8) : (board.write memory address data).blank = board.blank := by
  cases board with
  | mmc3 chip =>
    simp only [write, Mmc3.write]
    split <;> rfl
  | nrom | mmc1 | uxRom | cnRom | axRom => rfl

theorem step_blank (board : Board) : board.step.blank = board.blank := by
  cases board <;> rfl

theorem observe_blank (board : Board) (address : UInt16) :
    (board.observe address).blank = board.blank := by
  cases board <;> rfl

theorem Current.write {board : Board} {memory : CartridgeMemory}
    (current : board.Current memory) (address : UInt16) (data : UInt8) :
    (board.write memory address data).Current memory := by
  cases board with
  | mmc1 chip =>
    simp only [Board.write, Mmc1.write]
    split
    · rfl
    · exact current
  | mmc3 chip =>
    simp only [Board.write, Mmc3.write]
    split
    · rfl
    · rename_i outside
      exact Mmc3.current_of_banks current (chip.registers.write_banks _ data outside)
  | nrom | uxRom | cnRom | axRom => trivial

theorem Current.step {board : Board} {memory : CartridgeMemory}
    (current : board.Current memory) : board.step.Current memory := by
  cases board with
  | mmc1 chip => exact congrArg Mmc1.step current
  | mmc3 chip => exact Mmc3.current_of_banks current chip.registers.step_banks
  | nrom | uxRom | cnRom | axRom => trivial

theorem Current.observe {board : Board} {memory : CartridgeMemory}
    (current : board.Current memory) (address : UInt16) :
    (board.observe address).Current memory := by
  cases board with
  | mmc3 chip => exact Mmc3.current_of_banks current (chip.registers.observe_banks _ address)
  | nrom | mmc1 | uxRom | cnRom | axRom => exact current

/-- After a cycle the serial port takes the next write. -/
theorem step_ready (board : Board) : board.step.Ready := by
  cases board <;> simp [step, Ready, Mmc1.step]

/-- Accepted registers are taken over as recorded and select the windows. -/
theorem restore?_some {board next : Board} {memory : CartridgeMemory} {state : BoardState}
    (success : board.restore? memory state = some next) :
    next.blank = board.blank ∧ next.Current memory ∧ next.Ready ∧ next.state = state := by
  cases board <;> cases state <;> cases success
  case mmc1 => exact ⟨rfl, rfl, rfl, rfl⟩
  case mmc3 => exact ⟨rfl, rfl, trivial, rfl⟩
  all_goals exact ⟨rfl, trivial, trivial, rfl⟩

/-- A current board is restored exactly from its own record, by every board of its kind. -/
theorem restore?_recorded {board saved : Board} {memory : CartridgeMemory}
    (same : board.blank = saved.blank) (current : saved.Current memory) (ready : saved.Ready) :
    board.restore? memory saved.state = some saved := by
  cases board <;> cases saved <;> try exact Board.noConfusion same
  case mmc1.mmc1 chip savedChip =>
    simp only [Ready] at ready
    simp only [Current, ready] at current
    simp only [restore?, state, ← current]
  case mmc3.mmc3 chip savedChip =>
    obtain ⟨variant, fourScreen⟩ : chip.variant = savedChip.variant ∧
        chip.fourScreen = savedChip.fourScreen := by simpa [blank] using same
    have windows : chip.withRegisters savedChip.registers memory =
        savedChip.withRegisters savedChip.registers memory := by
      simp only [Mmc3.withRegisters, variant, fourScreen]
    simp only [Current] at current
    simp only [restore?, state, windows, ← current]
  all_goals
    cases same
    rfl

end Board

/-! ### Cartridges -/

/-- An image of nothing but no-operations. -/
def Rom.idle : Rom where
  header := .forBoard 1 0 0 .horizontal false
  prg := List.replicate prgChunkSize 0xEA
  chr := []

namespace Cartridge

/-- The cartridge with everything erased that play can change. -/
def blank (cart : Cartridge) : Cartridge :=
  { cart with memory := cart.memory.blank, board := cart.board.blank }

/-- The cartridge answers to the number of its board. -/
def Identified (cart : Cartridge) : Prop := cart.mapperId = cart.board.mapperId

/-- What play can make of a cartridge: other contents, and windows that follow the registers. -/
structure Descends (origin cart : Cartridge) : Prop where
  blank : cart.blank = origin.blank
  current : cart.board.Current cart.memory

theorem memory_blank {first second : Cartridge} (same : first.blank = second.blank) :
    first.memory.blank = second.memory.blank :=
  congrArg memory same

theorem board_blank {first second : Cartridge} (same : first.blank = second.blank) :
    first.board.blank = second.board.blank :=
  congrArg board same

theorem Identified.of_blank {first second : Cartridge} (identified : first.Identified)
    (same : second.blank = first.blank) : second.Identified := by
  have number : second.mapperId = first.mapperId := (Cartridge.mk.inj same).2.2.1
  have kind := congrArg Board.mapperId (board_blank same)
  rw [Board.blank_mapperId, Board.blank_mapperId] at kind
  exact (number.trans identified).trans kind.symm

theorem write_blank (cart : Cartridge) (address : UInt16) (data : UInt8) :
    (cart.write address data).blank = cart.blank := by
  unfold write
  split
  · simp only [blank, Board.write_blank]
  · split
    · simp only [blank, CartridgeMemory.writeSram_blank]
    · split
      · simp only [blank, CartridgeMemory.writeChr_blank]
      · rfl

theorem Descends.write {origin cart : Cartridge} (descends : origin.Descends cart)
    (address : UInt16) (data : UInt8) : origin.Descends (cart.write address data) := by
  refine ⟨(cart.write_blank address data).trans descends.blank, ?_⟩
  unfold Cartridge.write
  split
  · exact descends.current.write address data
  · split
    · exact descends.current.congr rfl rfl
    · split
      · have same := CartridgeMemory.SameBuild.of_blank
          (cart.memory.writeChr_blank (cart.board.chrOffset cart.memory address) data)
        exact descends.current.congr (congrArg Array.size same.prg.symm) same.chrSize.symm
      · exact descends.current

theorem Descends.observe {origin cart : Cartridge} (descends : origin.Descends cart)
    (address : UInt16) : origin.Descends (cart.observe address) := by
  refine ⟨?_, descends.current.observe address⟩
  rw [← descends.blank]
  simp only [Cartridge.blank, Cartridge.observe, Board.observe_blank]

theorem Descends.step {origin cart : Cartridge} (descends : origin.Descends cart) :
    origin.Descends cart.step := by
  refine ⟨?_, descends.current.step⟩
  rw [← descends.blank]
  simp only [Cartridge.blank, Cartridge.step, Board.step_blank]

/-- What stays true of a cartridge whatever the console around it does, short of loading it. -/
structure Preserved (holds : Cartridge → Prop) : Prop where
  write : ∀ {cart}, holds cart → ∀ address data, holds (cart.write address data)
  observe : ∀ {cart}, holds cart → ∀ address, holds (cart.observe address)
  step : ∀ {cart}, holds cart → holds cart.step

theorem Descends.preserved (origin : Cartridge) : Preserved origin.Descends :=
  ⟨Descends.write, Descends.observe, Descends.step⟩

/-- A freshly built cartridge is of its own kind, current, and ready for writes. -/
theorem ofRom_sound {rom : Rom} {cart : Cartridge} (built : ofRom rom = .ok cart) :
    cart.Identified ∧ cart.Descends cart ∧ cart.board.Ready := by
  have kind (number : Nat) (found : rom.header.mapperId.toNat = number) :
      rom.header.mapperId = UInt8.ofNat number := by rw [← found, UInt8.ofNat_toNat]
  simp only [ofRom, Board.ofRom] at built
  split at built
  case h_7 => cases built
  all_goals
    rename_i number
    obtain rfl := Except.ok.inj built
  case h_2 => exact ⟨kind 1 number, ⟨rfl, rfl⟩, rfl⟩
  case h_5 => exact ⟨kind 4 number, ⟨rfl, rfl⟩, trivial⟩
  all_goals exact ⟨kind _ number, ⟨rfl, trivial⟩, trivial⟩

/-- The cartridge with the idle image; its patterns are writable. -/
def idle : Cartridge where
  memory := .ofRom .idle
  board := .nrom .horizontal
  mapperId := 0
  battery := false

theorem ofRom_idle : ofRom .idle = .ok idle := rfl

theorem ofRom_memory {rom : Rom} {cart : Cartridge} (built : ofRom rom = .ok cart) :
    cart.memory = .ofRom rom := by
  simp only [ofRom] at built
  obtain ⟨board, -, result⟩ := Snapshot.bind_eq_ok built
  obtain rfl := Except.ok.inj result
  rfl

/-- A built cartridge has 8 KiB of work memory, and as much of writable patterns if it has any. -/
theorem ofRom_size {rom : Rom} {cart : Cartridge} (built : ofRom rom = .ok cart) :
    cart.memory.sram.size = sramSize ∧
      (cart.memory.chrWritable = true → cart.memory.chr.size = chrChunkSize) := by
  rw [ofRom_memory built]
  refine ⟨Array.size_replicate, fun writable => ?_⟩
  have empty : rom.chr.isEmpty = true := writable
  simp only [CartridgeMemory.ofRom, empty, if_true, Array.size_replicate]

/-- An accepted record is taken over, but patterns that it lacks stay as they are. -/
theorem load_ok {cart next : Cartridge} {state : CartridgeState} (identified : cart.Identified)
    (success : cart.load state = (.ok (), next)) :
    next.blank = cart.blank ∧ next.board.Current next.memory ∧ next.board.Ready ∧
      next.save = { state with chrRam := state.chrRam.or cart.memory.chrRam } := by
  unfold load at success
  split at success
  · cases success
  · rename_i sameNumber
    have number : state.mapperId = cart.mapperId := by simpa using sameNumber
    split at success
    · cases success
    · rename_i memory restored
      obtain ⟨memoryBlank, sram, chrRam⟩ := CartridgeMemory.restore_ok restored
      split at success
      · rename_i board found
        obtain rfl := (Prod.mk.inj success).2
        obtain ⟨boardBlank, current, ready, recorded⟩ := Board.restore?_some found
        have kind : board.mapperId = state.mapperId := by
          rw [number, identified, ← board.blank_mapperId, boardBlank, Board.blank_mapperId]
        refine ⟨?_, current, ready, ?_⟩
        · simp only [blank, memoryBlank, boardBlank]
        · simp only [save, kind, sram, chrRam, recorded]
      · cases success

/-- A refusal leaves a cartridge of the same build, though its contents may have changed. -/
theorem load_error_blank {cart next : Cartridge} {state : CartridgeState} {fault : Snapshot.Fault}
    (refused : cart.load state = (.error fault, next)) : next.blank = cart.blank := by
  unfold load at refused
  split at refused
  · rw [(Prod.mk.inj refused).2]
  · split at refused
    · rw [(Prod.mk.inj refused).2]
    · rename_i memory restored
      split at refused
      · cases refused
      · obtain rfl := (Prod.mk.inj refused).2
        simp only [blank, (CartridgeMemory.restore_ok restored).1]

/-- A cartridge is restored exactly from its own record, by every cartridge of its build. -/
theorem load_recorded {cart saved : Cartridge} (same : cart.blank = saved.blank)
    (identified : saved.Identified) (current : saved.board.Current saved.memory)
    (ready : saved.board.Ready) : cart.load saved.save = (.ok (), saved) := by
  obtain ⟨-, -, number, battery⟩ := Cartridge.mk.inj same
  have kind : saved.board.mapperId = cart.mapperId := (number.trans identified).symm
  have memory := CartridgeMemory.restore_recorded (.of_blank (memory_blank same))
  have board := Board.restore?_recorded (board_blank same) current ready
  simp [load, save, kind, memory, board, number, battery]

/-- Registers of another kind of board are refused, but only after the memories have been replaced. -/
theorem load_otherBoard {cart : Cartridge} (identified : cart.Identified) {sram : List UInt8}
    (size : sram.length = cart.memory.sram.size) {state : BoardState}
    (other : ∀ memory, cart.board.restore? memory state = none) :
    cart.load { cart.save with sram, board := state } =
      (.error (.sizeMismatch .board),
        { cart with memory := { cart.memory with sram := sram.toArray } }) := by
  have kind : cart.board.mapperId = cart.mapperId := identified.symm
  have same : cart.memory.SameBuild { cart.memory with sram := sram.toArray } :=
    ⟨rfl, rfl, rfl, fun _ => rfl, size.symm⟩
  have memory : cart.memory.restore sram cart.memory.chrRam =
      .ok { cart.memory with sram := sram.toArray } := CartridgeMemory.restore_recorded same
  simp [load, save, kind, memory, other]

/-- A cartridge accepts its own record without the patterns, and does not change by it. -/
theorem load_patternless {cart : Cartridge} (identified : cart.Identified)
    (current : cart.board.Current cart.memory) (ready : cart.board.Ready) :
    cart.load { cart.save with chrRam := none } = (.ok (), cart) := by
  have kind : cart.board.mapperId = cart.mapperId := identified.symm
  have memory := cart.memory.restore_patternless
  have board := Board.restore?_recorded rfl current ready
  simp [load, save, kind, memory, board]

end Cartridge

end Nes
