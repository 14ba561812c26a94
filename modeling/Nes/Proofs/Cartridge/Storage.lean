import Mathlib.Data.List.Induction
import Nes.Proofs.Cartridge.Windows

/-!
The memories of a cartridge behind its banks. What is written to work memory or to writable patterns
is read back wherever the banks show the same byte, and no other read changes; a write elsewhere
reaches no memory. The program, and patterns from the image, outlast everything.
-/

namespace Nes

namespace CartridgeMemory

variable (memory : CartridgeMemory)

theorem readWrapped_writeWrapped {bytes : Array UInt8} (nonempty : 0 < bytes.size)
    (place other : Nat) (data : UInt8) :
    readWrapped (writeWrapped bytes place data) other =
      if other % bytes.size = place % bytes.size then data else readWrapped bytes other := by
  have present : 0 < (writeWrapped bytes place data).size := by rwa [size_writeWrapped]
  have inside : other % bytes.size < bytes.size := Nat.mod_lt _ nonempty
  have byte := readWrapped_getElem? present other
  rw [size_writeWrapped, writeWrapped, Array.getElem?_setIfInBounds] at byte
  by_cases same : place % bytes.size = other % bytes.size
  · rw [if_pos same, if_pos (same ▸ inside)] at byte
    rw [if_pos same.symm]
    exact (Option.some.inj byte).symm
  · rw [if_neg same, readWrapped_getElem? nonempty other] at byte
    rw [if_neg (Ne.symm same)]
    exact (Option.some.inj byte).symm

/-- The addresses of work memory show different bytes. -/
theorem readSram_writeSram (sized : memory.sram.size = sramSize) {address other : UInt16}
    (data : UInt8) (work : 0x6000 ≤ address ∧ address < 0x8000)
    (otherWork : 0x6000 ≤ other ∧ other < 0x8000) :
    (memory.writeSram address data).readSram other =
      if other = address then data else memory.readSram other := by
  have nonempty : 0 < memory.sram.size := sized ▸ by decide
  rw [readSram, writeSram, readWrapped_writeWrapped nonempty, sized, Nat.mod_mod, Nat.mod_mod]
  have same : other.toNat % sramSize = address.toNat % sramSize ↔ other = address := by
    rw [← UInt16.toNat_inj]
    rw [UInt16.le_iff_toNat_le, UInt16.lt_iff_toNat_lt] at work otherWork
    change 0x6000 ≤ _ ∧ _ < 0x8000 at work otherWork
    unfold sramSize
    omega
  simp only [same]
  rfl

end CartridgeMemory

namespace Board

variable (board : Board) {first second : CartridgeMemory}

theorem prgOffset_congr (prg : first.prg.size = second.prg.size) (address : UInt16) :
    board.prgOffset first address = board.prgOffset second address := by
  cases board with
  | uxRom | axRom => simp only [prgOffset, CartridgeMemory.prgBankOffset, prg]
  | nrom | mmc1 | cnRom | mmc3 => rfl

theorem chrOffset_congr (chr : first.chr.size = second.chr.size) (address : UInt16) :
    board.chrOffset first address = board.chrOffset second address := by
  cases board with
  | cnRom => simp only [chrOffset, CartridgeMemory.chrBankOffset, chr]
  | nrom | mmc1 | uxRom | mmc3 | axRom => rfl

end Board

namespace Cartridge

/-! ### Histories -/

/-- What is done to a cartridge. -/
inductive Call where
  | write (address : UInt16) (data : UInt8)
  | step
  /-- The picture unit puts an address on its bus. -/
  | observe (address : UInt16)
  /-- Registers and memories are taken back from a record, or refused. -/
  | load (state : CartridgeState)
  | loadSram (data : List UInt8)

def call (cart : Cartridge) : Call → Cartridge
  | .write address data => cart.write address data
  | .step => cart.step
  | .observe address => cart.observe address
  | .load state => (cart.load state).2
  | .loadSram data => cart.loadSram data

/-- The cartridge after calls. -/
def calls (cart : Cartridge) (history : List Call) : Cartridge := history.foldl call cart

theorem loadSram_blank (cart : Cartridge) (data : List UInt8) :
    (cart.loadSram data).blank = cart.blank := by
  have size : (cart.memory.loadSram data).sram.size = cart.memory.sram.size := by
    simp only [CartridgeMemory.loadSram, Array.size_append, List.size_toArray, List.length_take,
      Array.size_extract]
    omega
  simp only [blank, loadSram, CartridgeMemory.blank, size]
  rfl

/-- Whatever is done to a cartridge, refused records included, it stays one of its build. -/
theorem call_blank {cart : Cartridge} (identified : cart.Identified) (action : Call) :
    (cart.call action).blank = cart.blank := by
  cases action with
  | write address data => exact cart.write_blank address data
  | step => simp only [call, Cartridge.step, blank, Board.step_blank]
  | observe address => simp only [call, Cartridge.observe, blank, Board.observe_blank]
  | load state =>
    cases answer : (cart.load state).1 with
    | ok => exact (load_ok identified (Prod.ext answer rfl)).1
    | error fault => exact load_error_blank (Prod.ext answer rfl)
  | loadSram data => exact cart.loadSram_blank data

theorem calls_blank {origin : Cartridge} (identified : origin.Identified) (history : List Call) :
    (origin.calls history).blank = origin.blank := by
  induction history using List.reverseRecOn with
  | nil => rfl
  | append_singleton history action ih =>
    rw [calls, List.foldl_append]
    exact (call_blank (identified.of_blank ih) action).trans ih

/-! ### One write -/

variable {cart : Cartridge} {address other : UInt16} {data : UInt8}

/-- The place of the pattern byte that an address below 0x2000 shows. -/
def chrPlace (cart : Cartridge) (address : UInt16) : Nat :=
  cart.board.chrOffset cart.memory address % cart.memory.chr.size

theorem read_work (work : 0x6000 ≤ address ∧ address < 0x8000) :
    cart.read address = cart.memory.readSram address :=
  (if_neg (UInt16.not_le.mpr work.2)).trans (if_pos work.1)

/-- The addresses between the patterns and work memory read as zero. -/
theorem read_gap (gap : 0x2000 ≤ address ∧ address < 0x6000) : cart.read address = 0 := by
  have program : ¬ 0x8000 ≤ address := by grind
  exact (if_neg program).trans
    ((if_neg (UInt16.not_le.mpr gap.2)).trans (if_neg (UInt16.not_lt.mpr gap.1)))

/-- Who answers an address. -/
theorem regions (address : UInt16) :
    0x8000 ≤ address ∨ (0x6000 ≤ address ∧ address < 0x8000) ∨
      (0x2000 ≤ address ∧ address < 0x6000) ∨ address < 0x2000 := by
  grind

theorem write_work (work : 0x6000 ≤ address ∧ address < 0x8000) :
    cart.write address data = { cart with memory := cart.memory.writeSram address data } :=
  (if_neg (UInt16.not_le.mpr work.2)).trans (if_pos work.1)

theorem write_gap (gap : 0x2000 ≤ address ∧ address < 0x6000) : cart.write address data = cart := by
  have program : ¬ 0x8000 ≤ address := by grind
  exact (if_neg program).trans
    ((if_neg (UInt16.not_le.mpr gap.2)).trans (if_neg (UInt16.not_lt.mpr gap.1)))

theorem write_pattern (pattern : address < 0x2000) :
    cart.write address data =
      { cart with
        memory := cart.memory.writeChr (cart.board.chrOffset cart.memory address) data } := by
  have program : ¬ 0x8000 ≤ address := by grind
  have work : ¬ 0x6000 ≤ address := by grind
  exact (if_neg program).trans ((if_neg work).trans (if_pos pattern))

theorem read_write_work (sized : cart.memory.sram.size = sramSize)
    (work : 0x6000 ≤ address ∧ address < 0x8000) (data : UInt8) (other : UInt16) :
    (cart.write address data).read other = if other = address then data else cart.read other := by
  rw [write_work work]
  obtain program | otherWork | gap | pattern := regions other
  · rw [if_neg (by grind), read_program _ program, read_program _ program]
    exact congrArg _ (cart.board.prgOffset_congr rfl other)
  · rw [read_work otherWork, read_work otherWork]
    exact cart.memory.readSram_writeSram sized data work otherWork
  · rw [if_neg (by grind), read_gap gap, read_gap gap]
  · rw [if_neg (by grind), read_pattern _ pattern, read_pattern _ pattern]
    exact congrArg _ (cart.board.chrOffset_congr rfl other)

theorem read_write_pattern (writable : cart.memory.chrWritable = true)
    (nonempty : 0 < cart.memory.chr.size) (pattern : address < 0x2000) (data : UInt8)
    (other : UInt16) :
    (cart.write address data).read other =
      if other < 0x2000 ∧ cart.chrPlace other = cart.chrPlace address then data
      else cart.read other := by
  rw [write_pattern pattern, CartridgeMemory.writeChr, if_pos writable]
  obtain program | work | gap | otherPattern := regions other
  · rw [if_neg (by grind), read_program _ program, read_program _ program]
    exact congrArg _ (cart.board.prgOffset_congr rfl other)
  · rw [if_neg (by grind), read_work work, read_work work]
    rfl
  · rw [if_neg (by grind), read_gap gap, read_gap gap]
  · rw [read_pattern _ otherPattern, read_pattern _ otherPattern]
    have size := CartridgeMemory.size_writeWrapped cart.memory.chr
      (cart.board.chrOffset cart.memory address) data
    rw [cart.board.chrOffset_congr size other,
      CartridgeMemory.readWrapped_writeWrapped nonempty]
    simp only [otherPattern, true_and]
    rfl

/-- Patterns of the image ignore what is written to them. -/
theorem write_pattern_fixed (fixed : cart.memory.chrWritable = false) (pattern : address < 0x2000) :
    cart.write address data = cart := by
  rw [write_pattern pattern, CartridgeMemory.writeChr, fixed]
  rfl

theorem write_program (program : 0x8000 ≤ address) :
    (cart.write address data).memory = cart.memory := by
  rw [write, if_pos program]

/-! ### Every write of every history -/

/-- The cartridge stores what is written to it and keeps its image. -/
structure Stores (rom : Rom) (cart : Cartridge) : Prop where
  /-- The byte at `chrPlace` is the one that an address below 0x2000 shows. -/
  shown : ∀ address < 0x2000, cart.memory.chr[cart.chrPlace address]? = some (cart.read address)
  work : ∀ address, 0x6000 ≤ address ∧ address < 0x8000 → ∀ data other,
    (cart.write address data).read other = if other = address then data else cart.read other
  patterns : rom.chr = [] → ∀ address < 0x2000, ∀ data other,
    (cart.write address data).read other =
      if other < 0x2000 ∧ cart.chrPlace other = cart.chrPlace address then data
      else cart.read other
  fixed : rom.chr ≠ [] → ∀ address < 0x2000, ∀ data, cart.write address data = cart
  gap : ∀ address, 0x2000 ≤ address ∧ address < 0x6000 → ∀ data, cart.write address data = cart
  registers : ∀ address, 0x8000 ≤ address → ∀ data, (cart.write address data).memory = cart.memory
  program : cart.memory.prg = rom.prg.toArray
  image : rom.chr ≠ [] → cart.memory.chr = rom.chr.toArray

variable {rom : Rom} {origin : Cartridge}

/-- Whatever has been done to the cartridge of an image, refused records included: work memory is
written byte by byte, a write to writable patterns is read wherever the banks show the same byte and
nowhere else, no other write reaches a memory, and the image stays. -/
theorem banked_memories (built : ofRom rom = .ok origin) (history : List Call) :
    Stores rom (origin.calls history) := by
  obtain ⟨identified, -, -⟩ := ofRom_sound built
  have same := calls_blank identified history
  generalize origin.calls history = cart at same
  have memory := ofRom_memory built
  obtain ⟨program, patterns⟩ := contents_of_blank same memory
  obtain ⟨-, kind, -, -, sramSize⟩ := CartridgeMemory.SameBuild.of_blank (memory_blank same)
  have writable : cart.memory.chrWritable = rom.chr.isEmpty := by rw [kind, memory]; rfl
  have sized : cart.memory.sram.size = Nes.sramSize := sramSize.trans (ofRom_size built).1
  have nonempty : 0 < cart.memory.chr.size := by
    split at patterns
    · rw [patterns]
      decide
    · rename_i present
      rw [patterns, List.size_toArray]
      exact List.length_pos_iff.mpr present
  refine
    { shown := fun address pattern => ?_
      work := fun address work data other => read_write_work sized work data other
      patterns := fun empty address pattern data other =>
        read_write_pattern (writable.trans (List.isEmpty_iff.mpr empty)) nonempty pattern data other
      fixed := fun present address pattern data =>
        write_pattern_fixed (writable.trans (List.isEmpty_eq_false_iff.mpr present)) pattern
      gap := fun address gap data => write_gap gap
      registers := fun address program data => write_program program
      program
      image := fun present => by rwa [if_neg present] at patterns }
  rw [read_pattern _ pattern]
  exact CartridgeMemory.readWrapped_getElem? nonempty _

/-- With the first bank of the patterns behind two windows, what is written through one is read
through the other. -/
theorem banked_memories_numbered :
    ofRom .numbered = .ok numbered ∧
      ((numbered.calls [.write 0x8000 2, .write 0x8001 0]).write 0x1003 7).read 3 = 7 := by
  have built : ofRom .numbered = .ok numbered := rfl
  have stores := banked_memories built [.write 0x8000 2, .write 0x8001 0]
  have shared : (numbered.calls [.write 0x8000 2, .write 0x8001 0]).chrPlace 3 =
      (numbered.calls [.write 0x8000 2, .write 0x8001 0]).chrPlace 0x1003 := by
    decide +kernel
  exact ⟨built, (stores.patterns rfl 0x1003 (by decide) 7 3).trans (if_pos ⟨by decide, shared⟩)⟩

end Cartridge

end Nes
