import Nes.Proofs.Bits
import Nes.Proofs.Cartridge.Contents

/-!
Which byte of a cartridge's memories an address shows. A board divides its part of the address space
into windows of one size, and its registers put a bank behind each window. Two boards keep a table
of the places where their windows begin; the tables follow the registers through every write, cycle,
address on the picture unit's bus and accepted snapshot, so each read is the byte that the present
registers select.
-/

namespace Nes

/-! ### Layouts -/

/-- A bank behind a window. -/
inductive Bank where
  /-- Numbers count on from the first bank after the last one. -/
  | numbered (number : Nat)
  | last
  | beforeLast

/-- Which of `count` banks it is. -/
def Bank.index (count : Nat) : Bank → Nat
  | numbered number => number % count
  | last => count - 1
  | beforeLast => count - 2

/-- Windows of one size, and the bank that is behind each of them. -/
structure Layout where
  size : Nat
  bank : Nat → Bank
  positive : 0 < size := by decide

namespace Layout

/-- Where a window begins in a memory of `length` bytes. -/
def start (layout : Layout) (length window : Nat) : Nat :=
  (layout.bank window).index (length / layout.size) * layout.size

/-- The place in a memory of `length` bytes that is shown `offset` bytes into the windows. -/
def place (layout : Layout) (length offset : Nat) : Nat :=
  layout.start length (offset / layout.size) + offset % layout.size

end Layout

/-- Program windows of 16 KiB: one pair of banks in the first two modes; then the first bank is
fixed in front, or the last one behind. -/
def Mmc1.Registers.prgLayout (registers : Registers) : Layout where
  size := 0x4000
  bank window :=
    match registers.control.toNat / 4 % 4 with
    | 2 => if window = 0 then .numbered 0 else .numbered registers.prgBank.toNat
    | 3 => if window = 0 then .numbered registers.prgBank.toNat else .last
    | _ => .numbered (registers.prgBank.toNat / 2 * 2 + window)

/-- Pattern windows of 4 KiB: two banks, or one pair. -/
def Mmc1.Registers.chrLayout (registers : Registers) : Layout where
  size := 0x1000
  bank window :=
    if registers.control.toNat.testBit 4 then
      .numbered (if window = 0 then registers.chrBank0.toNat else registers.chrBank1.toNat)
    else .numbered (registers.chrBank0.toNat / 2 * 2 + window)

/-- The number in one of the eight bank registers. -/
def Mmc3.Registers.number (registers : Registers) (register : Nat) : Nat :=
  (registers.banks[register]?.getD 0).toNat

/-- Program windows of 8 KiB: the last is fixed, and the bank before it takes the first or the third
place. -/
def Mmc3.Registers.prgLayout (registers : Registers) : Layout where
  size := 0x2000
  bank
    | 1 => .numbered (registers.number 7 % 64)
    | 3 => .last
    | window =>
      if registers.bankSelect.toNat.testBit 6 = decide (window = 0) then .beforeLast
      else .numbered (registers.number 6 % 64)

/-- Pattern windows of 1 KiB: two pairs and four single banks, or the four first. -/
def Mmc3.Registers.chrLayout (registers : Registers) : Layout where
  size := 0x400
  bank window :=
    match if registers.bankSelect.toNat.testBit 7 then (window + 4) % 8 else window with
    | 0 => .numbered (registers.number 0 / 2 * 2)
    | 1 => .numbered (registers.number 0 / 2 * 2 + 1)
    | 2 => .numbered (registers.number 1 / 2 * 2)
    | 3 => .numbered (registers.number 1 / 2 * 2 + 1)
    | 4 => .numbered (registers.number 2)
    | 5 => .numbered (registers.number 3)
    | 6 => .numbered (registers.number 4)
    | _ => .numbered (registers.number 5)

namespace BoardState

/-- The program windows; two boards have no program banks. -/
def prgLayout : BoardState → Option Layout
  | nrom | cnRom _ => none
  | mmc1 registers => some registers.prgLayout
  | uxRom prgBank =>
    some { size := 0x4000, bank window := if window = 0 then .numbered prgBank.toNat else .last }
  | mmc3 registers => some registers.prgLayout
  | axRom register => some { size := 0x8000, bank _ := .numbered (register.toNat % 8) }

/-- The pattern windows; boards without pattern banks show the first 8 KiB. -/
def chrLayout : BoardState → Layout
  | nrom | uxRom _ | axRom _ => { size := 0x2000, bank _ := .numbered 0 }
  | mmc1 registers => registers.chrLayout
  | cnRom chrBank => { size := 0x2000, bank _ := .numbered chrBank.toNat }
  | mmc3 registers => registers.chrLayout

/-- The place in `length` bytes of program that an address from 0x8000 shows. Without banks the
program is repeated. -/
def prgPlace (state : BoardState) (length : Nat) (address : UInt16) : Nat :=
  match state.prgLayout with
  | none => (address.toNat - 0x8000) % length
  | some layout => layout.place length (address.toNat - 0x8000)

/-- The place in `length` bytes of patterns that an address below 0x2000 shows. -/
def chrPlace (state : BoardState) (length : Nat) (address : UInt16) : Nat :=
  state.chrLayout.place length address.toNat

end BoardState

/-! ### Banks and places -/

namespace Bank

/-- The number that a board computes with; banks from the end are negative. -/
def number : Bank → Int
  | numbered number => number
  | last => -1
  | beforeLast => -2

theorem index_lt {count : Nat} (positive : 0 < count) (bank : Bank) : bank.index count < count := by
  cases bank with
  | numbered number => exact Nat.mod_lt _ positive
  | last | beforeLast => exact Nat.sub_lt positive (by decide)

/-- A number taken modulo the count of banks is the bank that it means, also from the end. -/
theorem number_emod {count : Nat} (positive : 0 < count) (bank : Bank) :
    bank.number % (count : Int) = bank.index count := by
  cases bank with
  | numbered number => exact (Int.natCast_emod number count).symm
  | last =>
    have wrapped : (-1 : Int) % count = (-1 + count) % count := (Int.add_emod_right ..).symm
    rw [number, wrapped, Int.emod_eq_of_lt (by omega) (by omega), index]
    omega
  | beforeLast =>
    have wrapped : (-2 : Int) % count = (-2 + count) % count := (Int.add_emod_right ..).symm
    by_cases one : count = 1
    · simp [one, number, index]
    · rw [number, wrapped, Int.emod_eq_of_lt (by omega) (by omega), index]
      omega

end Bank

namespace Layout

variable {layout : Layout} {length : Nat}

/-- Whole banks are shown: no place is past the end of the memory. -/
theorem place_lt (banked : layout.size ≤ length) (offset : Nat) :
    layout.place length offset < length := by
  have index := (layout.bank (offset / layout.size)).index_lt (Nat.div_pos banked layout.positive)
  calc layout.place length offset
      < layout.start length (offset / layout.size) + layout.size :=
        Nat.add_lt_add_left (Nat.mod_lt _ layout.positive) _
    _ = ((layout.bank (offset / layout.size)).index (length / layout.size) + 1) * layout.size :=
        (Nat.succ_mul _ _).symm
    _ ≤ length / layout.size * layout.size := Nat.mul_le_mul_right _ index
    _ ≤ length := Nat.div_mul_le_self length layout.size

/-- A board that computes with the number of the bank behind a window finds where it begins. -/
theorem start_eq (banked : layout.size ≤ length) {window : Nat} {number : Int}
    (same : number = (layout.bank window).number) :
    CartridgeMemory.bankOffset length number layout.size = layout.start length window := by
  have count : 0 < length / layout.size := Nat.div_pos banked layout.positive
  rw [CartridgeMemory.bankOffset, Nat.max_eq_left count, same, Bank.number_emod count,
    Int.toNat_natCast, start]

end Layout

theorem CartridgeMemory.readWrapped_getElem? {bytes : Array UInt8} (nonempty : 0 < bytes.size)
    (place : Nat) : bytes[place % bytes.size]? = some (readWrapped bytes place) := by
  simp only [readWrapped, nonempty, dif_pos]
  exact Array.getElem?_eq_getElem _

/-! ### Tables -/

/-- The numbers with which the chip computes its program windows are those of the layout. -/
theorem Mmc1.Registers.prgBanks_number (registers : Registers) {window : Nat}
    (inside : window < 2) :
    registers.prgBanks[window] = (registers.prgLayout.bank window).number := by
  have range : registers.control.toNat / 4 % 4 < 4 := Nat.mod_lt _ (by decide)
  obtain mode | mode | mode | mode : registers.control.toNat / 4 % 4 = 0 ∨
      registers.control.toNat / 4 % 4 = 1 ∨ registers.control.toNat / 4 % 4 = 2 ∨
      registers.control.toNat / 4 % 4 = 3 := by omega
  all_goals
    obtain rfl | rfl : window = 0 ∨ window = 1 := by omega
    all_goals simp [prgBanks, prgMode, prgLayout, mode, Bank.number]

theorem Mmc1.Registers.chrBanks_number (registers : Registers) {window : Nat}
    (inside : window < 2) :
    registers.chrBanks[window] = (registers.chrLayout.bank window).number := by
  have split : registers.splitChr = registers.control.toNat.testBit 4 :=
    Bits.and_single 4 registers.control rfl
  cases set : registers.control.toNat.testBit 4 with
  | true | false =>
    obtain rfl | rfl : window = 0 ∨ window = 1 := by omega
    all_goals simp [chrBanks, chrLayout, split, set, Bank.number]

theorem Mmc3.Registers.banks_toNat (registers : Registers) {register : Nat}
    (inside : register < 8) :
    registers.banks[register].toNat = registers.number register := by
  rw [number, Vector.getElem?_eq_getElem inside, Option.getD_some]

theorem Mmc3.Registers.prgBanks_number (registers : Registers) {window : Nat}
    (inside : window < 4) :
    registers.prgBanks[window] = (registers.prgLayout.bank window).number := by
  have mode : (registers.bankSelect &&& 0x40 != 0) = registers.bankSelect.toNat.testBit 6 :=
    Bits.and_single 6 registers.bankSelect rfl
  rw [bne, Bool.not_eq_eq_eq_not] at mode
  cases set : registers.bankSelect.toNat.testBit 6 with
  | true | false =>
    obtain rfl | rfl | rfl | rfl : window = 0 ∨ window = 1 ∨ window = 2 ∨ window = 3 := by omega
    all_goals simp [prgBanks, prgLayout, mode, set, Bank.number, banks_toNat]

theorem Mmc3.Registers.chrBanks_number (registers : Registers) {window : Nat}
    (inside : window < 8) :
    registers.chrBanks[window] = (registers.chrLayout.bank window).number := by
  have order : (registers.bankSelect &&& 0x80 != 0) = registers.bankSelect.toNat.testBit 7 :=
    Bits.and_single 7 registers.bankSelect rfl
  rw [bne, Bool.not_eq_eq_eq_not] at order
  cases set : registers.bankSelect.toNat.testBit 7 with
  | true | false =>
    obtain rfl | rfl | rfl | rfl | rfl | rfl | rfl | rfl : window = 0 ∨ window = 1 ∨ window = 2 ∨
        window = 3 ∨ window = 4 ∨ window = 5 ∨ window = 6 ∨ window = 7 := by omega
    all_goals simp [chrBanks, chrLayout, order, set, Bank.number, banks_toNat]

/-- The tables that a board keeps say where the windows of its present registers begin. -/
def Board.Tabulated (board : Board) (prgLength chrLength : Nat) : Prop :=
  match board with
  | mmc1 chip =>
    (∀ (window : Nat) (_ : window < 2),
      chip.prgWindows[window] = chip.registers.prgLayout.start prgLength window) ∧
    ∀ (window : Nat) (_ : window < 2),
      chip.chrWindows[window] = chip.registers.chrLayout.start chrLength window
  | mmc3 chip =>
    (∀ (window : Nat) (_ : window < 4),
      chip.prgWindows[window] = chip.registers.prgLayout.start prgLength window) ∧
    ∀ (window : Nat) (_ : window < 8),
      chip.chrWindows[window] = chip.registers.chrLayout.start chrLength window
  | nrom _ | uxRom _ _ | cnRom _ _ | axRom _ => True

/-- Memories that have at least one bank behind each window. -/
structure BoardState.Banked (state : BoardState) (prgLength chrLength : Nat) : Prop where
  nonempty : 0 < prgLength
  prg : ∀ layout ∈ state.prgLayout, layout.size ≤ prgLength
  chr : 0x2000 ≤ chrLength

namespace BoardState

theorem chrLayout_size (state : BoardState) : state.chrLayout.size ≤ 0x2000 := by
  cases state <;> simp [chrLayout, Mmc1.Registers.chrLayout, Mmc3.Registers.chrLayout]

variable {state : BoardState} {prgLength chrLength : Nat}

theorem Banked.chrLayout (banked : state.Banked prgLength chrLength) :
    state.chrLayout.size ≤ chrLength :=
  Nat.le_trans state.chrLayout_size banked.chr

end BoardState

namespace Board

variable {board : Board} {memory : CartridgeMemory}

/-- The size of the program windows belongs to the kind of board. -/
theorem prgLayout_size_of_blank {first second : Board} (same : first.blank = second.blank) :
    first.state.prgLayout.map Layout.size = second.state.prgLayout.map Layout.size := by
  cases first <;> cases second <;> first
    | rfl
    | exact Board.noConfusion same

/-- A board whose windows are current keeps tables that agree with its registers. -/
theorem Current.tabulated (current : board.Current memory)
    (banked : board.state.Banked memory.prg.size memory.chr.size) :
    board.Tabulated memory.prg.size memory.chr.size := by
  have chr := banked.chrLayout
  cases board with
  | mmc1 chip =>
    simp only [Current] at current
    refine ⟨fun window inside => ?_, fun window inside => ?_⟩
    all_goals
      rw [current]
      simp only [Mmc1.withRegisters, Vector.getElem_map]
    · exact Layout.start_eq (banked.prg _ rfl) (chip.registers.prgBanks_number inside)
    · exact Layout.start_eq chr (chip.registers.chrBanks_number inside)
  | mmc3 chip =>
    simp only [Current] at current
    refine ⟨fun window inside => ?_, fun window inside => ?_⟩
    all_goals
      rw [current]
      simp only [Mmc3.withRegisters, Vector.getElem_map]
    · exact Layout.start_eq (banked.prg _ rfl) (chip.registers.prgBanks_number inside)
    · exact Layout.start_eq chr (chip.registers.chrBanks_number inside)
  | nrom | uxRom | cnRom | axRom => trivial

/-- The place that a board computes for a program address is the one that its registers select. -/
theorem Tabulated.prgOffset (tabulated : board.Tabulated memory.prg.size memory.chr.size)
    (banked : board.state.Banked memory.prg.size memory.chr.size) {address : UInt16}
    (program : 0x8000 ≤ address) {layout : Layout} (present : layout ∈ board.state.prgLayout) :
    board.prgOffset memory address = layout.place memory.prg.size (address.toNat - 0x8000) := by
  have low : 0x8000 ≤ address.toNat := UInt16.le_iff_toNat_le.mp program
  have high : address.toNat < 0x10000 := address.toNat_lt
  have fits := banked.prg layout present
  cases board with
  | nrom | cnRom => cases present
  | mmc1 chip =>
    obtain rfl := Option.some.inj present
    have window : address.toNat / 0x4000 % 2 = (address.toNat - 0x8000) / 0x4000 := by omega
    have offset : address.toNat % 0x4000 = (address.toNat - 0x8000) % 0x4000 := by omega
    have start := tabulated.1 ((address.toNat - 0x8000) / 0x4000) (by omega)
    change chip.prgOffset address = chip.registers.prgLayout.place _ _
    simp only [Mmc1.prgOffset, window, offset, start]
    rfl
  | uxRom mirroring prgBank =>
    obtain rfl := Option.some.inj present
    have front : address < 0xC000 ↔ (address.toNat - 0x8000) / 0x4000 = 0 := by
      rw [UInt16.lt_iff_toNat_lt]
      change address.toNat < 0xC000 ↔ _
      omega
    have offset : address.toNat % 0x4000 = (address.toNat - 0x8000) % 0x4000 := by omega
    refine congrArg₂ (· + ·) (Layout.start_eq fits ?_) offset
    simp only [front]
    split <;> rfl
  | mmc3 chip =>
    obtain rfl := Option.some.inj present
    have window : address.toNat / 0x2000 % 4 = (address.toNat - 0x8000) / 0x2000 := by omega
    have offset : address.toNat % 0x2000 = (address.toNat - 0x8000) % 0x2000 := by omega
    have start := tabulated.1 ((address.toNat - 0x8000) / 0x2000) (by omega)
    change chip.prgOffset address = chip.registers.prgLayout.place _ _
    simp only [Mmc3.prgOffset, window, offset, start]
    rfl
  | axRom register =>
    obtain rfl := Option.some.inj present
    have offset : address.toNat % 0x8000 = (address.toNat - 0x8000) % 0x8000 := by omega
    exact congrArg₂ (· + ·) (Layout.start_eq fits rfl) offset

/-- Without banks an address shows the place that it has from 0x8000 on. -/
theorem prgOffset_unbanked {address : UInt16} (program : 0x8000 ≤ address)
    (absent : board.state.prgLayout = none) :
    board.prgOffset memory address = address.toNat - 0x8000 := by
  have low : 0x8000 ≤ address.toNat := UInt16.le_iff_toNat_le.mp program
  have high : address.toNat < 0x10000 := address.toNat_lt
  have offset : address.toNat % 0x8000 = address.toNat - 0x8000 := by omega
  cases board with
  | nrom | cnRom => exact offset
  | mmc1 | uxRom | mmc3 | axRom => cases absent

/-- A memory is shown from its start again where a place lies past its end. -/
theorem Tabulated.prgPlace (tabulated : board.Tabulated memory.prg.size memory.chr.size)
    (banked : board.state.Banked memory.prg.size memory.chr.size) {address : UInt16}
    (program : 0x8000 ≤ address) :
    board.state.prgPlace memory.prg.size address =
      board.prgOffset memory address % memory.prg.size := by
  unfold BoardState.prgPlace
  split
  · rename_i absent
    rw [prgOffset_unbanked program absent]
  · rename_i layout present
    rw [tabulated.prgOffset banked program present,
      Nat.mod_eq_of_lt (layout.place_lt (banked.prg layout present) _)]

/-- The place that a board computes for a pattern address is the one that its registers select. -/
theorem Tabulated.chrOffset (tabulated : board.Tabulated memory.prg.size memory.chr.size)
    (banked : board.state.Banked memory.prg.size memory.chr.size) {address : UInt16}
    (pattern : address < 0x2000) :
    board.chrOffset memory address = board.state.chrPlace memory.chr.size address := by
  have bound : address.toNat < 0x2000 := UInt16.lt_iff_toNat_lt.mp pattern
  have fits := banked.chrLayout
  cases board with
  | nrom | uxRom | axRom =>
    have first : address.toNat =
        0 % (memory.chr.size / 0x2000) * 0x2000 + address.toNat % 0x2000 := by
      rw [Nat.zero_mod, Nat.mod_eq_of_lt bound, Nat.zero_mul, Nat.zero_add]
    exact first
  | mmc1 chip =>
    have window : address.toNat / 0x1000 % 2 = address.toNat / 0x1000 := by omega
    have start := tabulated.2 (address.toNat / 0x1000) (by omega)
    change chip.chrOffset address = chip.registers.chrLayout.place _ _
    simp only [Mmc1.chrOffset, window, start]
    rfl
  | cnRom mirroring chrBank =>
    have offset : address.toNat = address.toNat % 0x2000 := by omega
    exact congrArg₂ (· + ·) (Layout.start_eq fits rfl) offset
  | mmc3 chip =>
    have window : address.toNat / 0x400 % 8 = address.toNat / 0x400 := by omega
    have start := tabulated.2 (address.toNat / 0x400) (by omega)
    change chip.chrOffset address = chip.registers.chrLayout.place _ _
    simp only [Mmc3.chrOffset, window, start]
    rfl

end Board

/-! ### Cartridges -/

/-- An image of two program chunks in four banks of 8 KiB, each filled with its number. -/
def Rom.numbered : Rom where
  header := .forBoard 2 0 4 .vertical false
  prg := List.replicate 0x2000 0 ++ List.replicate 0x2000 1 ++ List.replicate 0x2000 2 ++
    List.replicate 0x2000 3
  chr := []

namespace Cartridge

/-- What a cartridge can become by writes, cycles, addresses on the picture unit's bus and accepted
snapshots. -/
inductive Reached (origin : Cartridge) : Cartridge → Prop where
  | start : Reached origin origin
  | write {cart : Cartridge} (reached : Reached origin cart) (address : UInt16) (data : UInt8) :
    Reached origin (cart.write address data)
  | step {cart : Cartridge} (reached : Reached origin cart) : Reached origin cart.step
  | observe {cart : Cartridge} (reached : Reached origin cart) (address : UInt16) :
    Reached origin (cart.observe address)
  | load {cart next : Cartridge} (reached : Reached origin cart) {state : CartridgeState}
    (accepted : cart.load state = (.ok (), next)) : Reached origin next

variable {rom : Rom} {origin cart : Cartridge}

theorem read_program (cart : Cartridge) {address : UInt16} (program : 0x8000 ≤ address) :
    cart.read address =
      CartridgeMemory.readWrapped cart.memory.prg (cart.board.prgOffset cart.memory address) :=
  if_pos program

theorem read_pattern (cart : Cartridge) {address : UInt16} (pattern : address < 0x2000) :
    cart.read address =
      CartridgeMemory.readWrapped cart.memory.chr (cart.board.chrOffset cart.memory address) := by
  have low : ¬ 0x6000 ≤ address := by grind
  have lower : ¬ 0x8000 ≤ address := by grind
  exact (if_neg lower).trans ((if_neg low).trans (if_pos pattern))

theorem Reached.descends (identified : origin.Identified) (fresh : origin.Descends origin)
    (reached : Reached origin cart) : origin.Descends cart := by
  induction reached with
  | start => exact fresh
  | write _ address data descends => exact descends.write address data
  | step _ descends => exact descends.step
  | observe _ address descends => exact descends.observe address
  | load _ accepted descends =>
    obtain ⟨blank, current, -, -⟩ := load_ok (identified.of_blank descends.blank) accepted
    exact ⟨blank.trans descends.blank, current⟩

/-- The image is made of whole banks: the program of those behind its board's windows, the patterns,
if there are any, of 8 KiB. -/
structure WholeBanks (rom : Rom) (board : BoardState) : Prop where
  nonempty : 0 < rom.prg.length
  prg : ∀ layout ∈ board.prgLayout, layout.size ∣ rom.prg.length
  chr : 0x2000 ∣ rom.chr.length

/-- Reads show what the registers select, and nothing but the patterns of a cartridge without any in
its image has changed. -/
structure ShowsBanks (rom : Rom) (cart : Cartridge) : Prop where
  prg : ∀ address, 0x8000 ≤ address →
    rom.prg[cart.board.state.prgPlace rom.prg.length address]? = some (cart.read address)
  chr : ∀ address, address < 0x2000 →
    cart.memory.chr[cart.board.state.chrPlace cart.memory.chr.size address]? =
      some (cart.read address)
  patterns : if rom.chr = [] then cart.memory.chr.size = 0x2000
    else cart.memory.chr = rom.chr.toArray
  tables : cart.board.Tabulated rom.prg.length cart.memory.chr.size
  /-- The places that boards with program banks compute never have to start over at the end. -/
  prgInside : ∀ address, 0x8000 ≤ address → cart.board.state.prgLayout.isSome →
    cart.board.prgOffset cart.memory address < rom.prg.length
  chrInside : ∀ address, address < 0x2000 →
    cart.board.chrOffset cart.memory address < cart.memory.chr.size

/-- The pattern memory of a built cartridge: that of its image, or 8 KiB. -/
theorem ofRom_patterns (rom : Rom) :
    (CartridgeMemory.ofRom rom).chrWritable = rom.chr.isEmpty ∧
      if rom.chr = [] then (CartridgeMemory.ofRom rom).chr.size = 0x2000
      else (CartridgeMemory.ofRom rom).chr = rom.chr.toArray := by
  refine ⟨rfl, ?_⟩
  split
  · rename_i empty
    simp only [CartridgeMemory.ofRom, empty, List.isEmpty_nil, if_true, Array.size_replicate]
    rfl
  · rename_i present
    have nonempty : rom.chr.isEmpty = false := List.isEmpty_eq_false_iff.mpr present
    simp only [CartridgeMemory.ofRom, nonempty, Bool.false_eq_true, if_false]

/-- Cartridges of one build keep the program, and the patterns as far as they are those of the
image. -/
theorem contents_of_blank (same : cart.blank = origin.blank) (built : origin.memory = .ofRom rom) :
    cart.memory.prg = rom.prg.toArray ∧
      if rom.chr = [] then cart.memory.chr.size = 0x2000
      else cart.memory.chr = rom.chr.toArray := by
  obtain ⟨prg, writable, chrSize, chr, -⟩ :=
    CartridgeMemory.SameBuild.of_blank (memory_blank same)
  obtain ⟨kind, patterns⟩ := ofRom_patterns rom
  rw [← built] at kind patterns
  refine ⟨?_, ?_⟩
  · rw [prg, built]
    rfl
  · split
    · rename_i empty
      rw [if_pos empty] at patterns
      exact chrSize.trans patterns
    · rename_i present
      rw [if_neg present] at patterns
      refine (chr ?_).trans patterns
      rw [writable, kind]
      exact List.isEmpty_eq_false_iff.mpr present

theorem Descends.banked (descends : origin.Descends cart) (built : origin.memory = .ofRom rom)
    (whole : WholeBanks rom origin.board.state) :
    cart.board.state.Banked cart.memory.prg.size cart.memory.chr.size := by
  obtain ⟨prg, patterns⟩ := contents_of_blank descends.blank built
  have size : cart.memory.prg.size = rom.prg.length := by rw [prg, List.size_toArray]
  have sizes := Board.prgLayout_size_of_blank (board_blank descends.blank)
  refine ⟨size ▸ whole.nonempty, fun layout present => ?_, ?_⟩
  · have same : layout.size ∈ cart.board.state.prgLayout.map Layout.size :=
      Option.mem_map_of_mem _ present
    rw [sizes] at same
    obtain ⟨first, found, equal⟩ := Option.map_eq_some_iff.mp same
    rw [size, ← equal]
    exact Nat.le_of_dvd whole.nonempty (whole.prg first found)
  · split at patterns
    · exact Nat.le_of_eq patterns.symm
    · rename_i present
      rw [patterns, List.size_toArray]
      exact Nat.le_of_dvd (List.length_pos_iff.mpr present) whole.chr

/-- Whatever has been written to a board, and whichever snapshots it has accepted, each read shows
the byte of the bank that its present registers put behind the window of the address. -/
theorem windows_follow_registers (built : ofRom rom = .ok origin)
    (whole : WholeBanks rom origin.board.state) (reached : Reached origin cart) :
    ShowsBanks rom cart := by
  obtain ⟨identified, fresh, -⟩ := ofRom_sound built
  have descends := reached.descends identified fresh
  have memory := ofRom_memory built
  have banked := descends.banked memory whole
  obtain ⟨prg, patterns⟩ := contents_of_blank descends.blank memory
  have size : cart.memory.prg.size = rom.prg.length := by rw [prg, List.size_toArray]
  have tables := descends.current.tabulated banked
  have prgInside (address : UInt16) : 0x8000 ≤ address → cart.board.state.prgLayout.isSome →
      cart.board.prgOffset cart.memory address < cart.memory.prg.size := by
    intro program present
    obtain ⟨layout, found⟩ := Option.isSome_iff_exists.mp present
    rw [tables.prgOffset banked program found]
    exact layout.place_lt (banked.prg layout found) _
  have chrInside (address : UInt16) (pattern : address < 0x2000) :
      cart.board.chrOffset cart.memory address < cart.memory.chr.size := by
    rw [tables.chrOffset banked pattern]
    exact Layout.place_lt banked.chrLayout _
  refine ⟨fun address program => ?_, fun address pattern => ?_, patterns, size ▸ tables,
    size ▸ prgInside, chrInside⟩
  · have byte := CartridgeMemory.readWrapped_getElem? banked.nonempty
      (cart.board.prgOffset cart.memory address)
    rw [← tables.prgPlace banked program, size, ← cart.read_program program] at byte
    simpa only [prg, List.getElem?_toArray] using byte
  · have nonempty := Nat.zero_lt_of_lt (chrInside address pattern)
    have byte := CartridgeMemory.readWrapped_getElem? nonempty
      (cart.board.chrOffset cart.memory address)
    rwa [Nat.mod_eq_of_lt (chrInside address pattern), ← cart.read_pattern pattern,
      tables.chrOffset banked pattern] at byte

/-- The cartridge with the image of numbered banks. -/
def numbered : Cartridge where
  memory := .ofRom .numbered
  board := .mmc3 (.powerOn .sharp .vertical (.ofRom .numbered))
  mapperId := 4
  battery := false

/-- Bank 5 of four is the second one. -/
theorem windows_follow_registers_numbered :
    ofRom .numbered = .ok numbered ∧ WholeBanks .numbered numbered.board.state ∧
      Reached numbered ((numbered.write 0x8000 6).write 0x8001 5) ∧
      ((numbered.write 0x8000 6).write 0x8001 5).read 0x8000 = 1 := by
  have built : ofRom .numbered = .ok numbered := rfl
  have length : Rom.numbered.prg.length = 0x8000 := by
    simp only [Rom.numbered, List.length_append, List.length_replicate]
  have whole : WholeBanks .numbered numbered.board.state := by
    refine ⟨length ▸ by decide, fun layout present => ?_, Nat.dvd_zero _⟩
    obtain rfl := Option.some.inj present
    exact ⟨4, length⟩
  have reached : Reached numbered ((numbered.write 0x8000 6).write 0x8001 5) :=
    (Reached.start.write 0x8000 6).write 0x8001 5
  have shown := (windows_follow_registers built whole reached).prg 0x8000 (by decide)
  refine ⟨built, whole, reached, ?_⟩
  rw [length] at shown
  have place : ((numbered.write 0x8000 6).write 0x8001 5).board.state.prgPlace 0x8000 0x8000 =
    0x2000 := rfl
  have byte : Rom.numbered.prg[0x2000]? = some 1 := by
    simp only [Rom.numbered, List.getElem?_append, List.length_append, List.length_replicate]
    simp only [List.getElem?_replicate]
    rfl
  rw [place, byte] at shown
  exact (Option.some.inj shown).symm

end Cartridge

end Nes
