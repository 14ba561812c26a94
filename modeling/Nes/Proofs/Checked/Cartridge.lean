import Nes.Proofs.Cartridge.Contents
import Nes.Proofs.Checked.Basic

/-!
Cartridges with every operation asked for. Windows are found by the distance of an address from the
start of its range, so an address outside the range would stop the machine; so would a memory that
is shorter than its addresses. A cartridge with all its work memory never stops it.
-/

namespace Nes

open Checked

/-! ### Memories -/

namespace CartridgeMemory

def readWrappedChecked (bytes : Array UInt8) (place : Nat) : Checked UInt8 :=
  if bytes.size = 0 then return 0 else item bytes (place % bytes.size)

def writeChrChecked (memory : CartridgeMemory) (place : Nat) (data : UInt8) :
    Checked CartridgeMemory :=
  if memory.chrWritable && memory.chr.size != 0 then
    return { memory with chr := ← replaceItem memory.chr (place % memory.chr.size) data }
  else return memory

/-- Work memory is counted from its first address. -/
def readSramChecked (memory : CartridgeMemory) (address : UInt16) : Checked UInt8 := do
  item memory.sram ((← subPlace address.toNat 0x6000) % sramSize)

def writeSramChecked (memory : CartridgeMemory) (address : UInt16) (data : UInt8) :
    Checked CartridgeMemory := do
  let place ← subPlace address.toNat 0x6000
  return { memory with sram := ← replaceItem memory.sram (place % sramSize) data }

theorem readWrappedChecked_eq (bytes : Array UInt8) (place : Nat) :
    readWrappedChecked bytes place = .ok (readWrapped bytes place) := by
  unfold readWrappedChecked readWrapped
  by_cases empty : bytes.size = 0
  · simp [empty]
  · have filled : 0 < bytes.size := Nat.pos_of_ne_zero empty
    rw [if_neg empty, item_ok (Nat.mod_lt _ filled), dif_pos filled]

theorem writeChrChecked_eq (memory : CartridgeMemory) (place : Nat) (data : UInt8) :
    memory.writeChrChecked place data = .ok (memory.writeChr place data) := by
  unfold writeChrChecked writeChr writeWrapped
  by_cases empty : memory.chr.size = 0
  · obtain ⟨prg, chr, chrWritable, sram⟩ := memory
    obtain rfl : chr = #[] := Array.eq_empty_of_size_eq_zero empty
    cases chrWritable <;> rfl
  · have within : place % memory.chr.size < memory.chr.size :=
      Nat.mod_lt _ (Nat.pos_of_ne_zero empty)
    rw [replaceItem_ok within, Array.setIfInBounds, dif_pos within]
    cases memory.chrWritable <;> simp [empty]

/-- The places of work memory repeat from its first address on. -/
theorem sramPlace_eq {address : UInt16} (above : 0x6000 ≤ address) :
    ∃ place, subPlace address.toNat 0x6000 = .ok place ∧
      place % sramSize = address.toNat % sramSize := by
  have start : 0x6000 ≤ address.toNat := UInt16.le_iff_toNat_le.mp above
  refine ⟨_, subPlace_ok start, ?_⟩
  unfold sramSize
  omega

variable {memory : CartridgeMemory}

theorem sram_inside (full : memory.sram.size = sramSize) (place : Nat) :
    place % sramSize < memory.sram.size := by
  rw [full]
  exact Nat.mod_lt _ (by decide)

theorem readSramChecked_eq (full : memory.sram.size = sramSize) {address : UInt16}
    (above : 0x6000 ≤ address) :
    memory.readSramChecked address = .ok (memory.readSram address) := by
  obtain ⟨place, found, same⟩ := sramPlace_eq above
  have within := sram_inside full address.toNat
  have filled : 0 < memory.sram.size := Nat.zero_lt_of_lt within
  rw [readSramChecked, found, ok_bind, same, item_ok within, readSram, readWrapped, dif_pos filled]
  simp only [Nat.mod_eq_of_lt within]

theorem writeSramChecked_eq (full : memory.sram.size = sramSize) {address : UInt16}
    (above : 0x6000 ≤ address) (data : UInt8) :
    memory.writeSramChecked address data = .ok (memory.writeSram address data) := by
  obtain ⟨place, found, same⟩ := sramPlace_eq above
  have within := sram_inside full address.toNat
  rw [writeSramChecked, found, ok_bind, same, replaceItem_ok within, writeSram, writeWrapped,
    Nat.mod_eq_of_lt within, Array.setIfInBounds, dif_pos within]
  rfl

end CartridgeMemory

/-! ### Windows -/

/-- The distance from the first program address. -/
theorem Checked.programPlace_ok {address : UInt16} (program : 0x8000 ≤ address) :
    sub address 0x8000 = .ok (address - 0x8000) ∧
      (address - 0x8000).toNat + 0x8000 = address.toNat ∧ address.toNat < 0x10000 := by
  have start : 0x8000 ≤ address.toNat := UInt16.le_iff_toNat_le.mp program
  have place : (address - 0x8000).toNat = address.toNat - 0x8000 :=
    UInt16.toNat_sub_of_le _ _ program
  exact ⟨sub_ok _ _ start, by omega, address.toNat_lt⟩

/-- The place behind windows of `width` bytes that lie side by side. -/
def Checked.through {size : Nat} (windows : Vector Nat size) (place width : Nat) : Checked Nat :=
  return (← entry windows (place / width)) + place % width

theorem Checked.through_ok {size : Nat} (windows : Vector Nat size) {place width slot : Nat}
    (found : place / width = slot) (within : slot < size) :
    through windows place width = .ok (windows[slot] + place % width) := by
  subst found
  rw [through, entry_ok within]
  rfl

namespace Mmc1

variable (chip : Mmc1) {address : UInt16}

def prgOffsetChecked (address : UInt16) : Checked Nat := do
  through chip.prgWindows (← sub address 0x8000).toNat 0x4000

def chrOffsetChecked (address : UInt16) : Checked Nat :=
  through chip.chrWindows address.toNat 0x1000

theorem prgOffsetChecked_eq (program : 0x8000 ≤ address) :
    chip.prgOffsetChecked address = .ok (chip.prgOffset address) := by
  obtain ⟨found, place, bound⟩ := programPlace_ok program
  have slot : (address - 0x8000).toNat / 0x4000 = address.toNat / 0x4000 % 2 := by omega
  have inner : (address - 0x8000).toNat % 0x4000 = address.toNat % 0x4000 := by omega
  rw [prgOffsetChecked, found, ok_bind, through_ok _ slot (Nat.mod_lt _ (by decide)), inner]
  rfl

theorem chrOffsetChecked_eq (pattern : address < 0x2000) :
    chip.chrOffsetChecked address = .ok (chip.chrOffset address) := by
  have bound : address.toNat < 0x2000 := UInt16.lt_iff_toNat_lt.mp pattern
  have slot : address.toNat / 0x1000 = address.toNat / 0x1000 % 2 := by omega
  exact through_ok _ slot (Nat.mod_lt _ (by decide))

end Mmc1

namespace Mmc3

/-! ### Registers -/

namespace Registers

variable (registers : Registers)

/-- The low three bits of the selection choose the bank register. -/
def storeBankChecked (data : UInt8) : Checked Registers :=
  return { registers with
    banks := ← replace registers.banks (registers.bankSelect.toNat % 8) data }

def writeChecked (fourScreen : Bool) (address : UInt16) (data : UInt8) : Checked Registers :=
  if address < 0xA000 && !(address &&& 1 == 0) then registers.storeBankChecked data
  else return registers.write fourScreen address data

theorem writeChecked_eq (fourScreen : Bool) (address : UInt16) (data : UInt8) :
    registers.writeChecked fourScreen address data =
      .ok (registers.write fourScreen address data) := by
  unfold writeChecked
  split
  · rename_i stores
    obtain ⟨first, odd⟩ := Bool.and_eq_true_iff.mp stores
    have uneven : (address &&& 1 == 0) = false := by simpa using odd
    rw [storeBankChecked, replace_ok (Nat.mod_lt _ (by decide)), write,
      if_pos (of_decide_eq_true first)]
    simp only [uneven]
    rfl
  · rfl

def clockCounterChecked : Checked Registers := do
  let registers ←
    if registers.irqCounter == 0 || registers.irqReload then
      pure { registers with irqCounter := registers.irqLatch, irqReload := false }
    else pure { registers with irqCounter := ← sub registers.irqCounter 1 }
  if registers.irqCounter == 0 && registers.irqEnabled then
    return { registers with irqPending := true }
  else return registers

def observeChecked (variant : Variant) (address : UInt16) : Checked Registers :=
  if 0x2000 ≤ address then return registers
  else do
    let a12 := address &&& 0x1000 != 0
    let edge := registers.isEdge variant a12
    let registers := { registers with lastA12 := a12 }
    if !edge then return registers
    else
      let registers ←
        if registers.a12Filter == 0 then registers.clockCounterChecked else pure registers
      return { registers with a12Filter := filterCycles }

theorem clockCounterChecked_eq : registers.clockCounterChecked = .ok registers.clockCounter := by
  unfold clockCounterChecked clockCounter
  split
  · simp only [ok_bind, pure_eq]
    split <;> rfl
  · rename_i counts
    have some : registers.irqCounter ≠ 0 := fun none => counts (by simp [none])
    have positive : 0 < registers.irqCounter := UInt8.pos_iff_ne_zero.mpr some
    rw [count8 positive]
    simp only [ok_bind, pure_eq]
    split <;> rfl

theorem observeChecked_eq (variant : Variant) (address : UInt16) :
    registers.observeChecked variant address = .ok (registers.observe variant address) := by
  simp only [observeChecked, observe]
  split
  · rfl
  · split
    · rfl
    · split
      · rw [clockCounterChecked_eq]
        rfl
      · rfl

end Registers

variable (chip : Mmc3) {address : UInt16}

def prgOffsetChecked (address : UInt16) : Checked Nat := do
  through chip.prgWindows (← sub address 0x8000).toNat 0x2000

def chrOffsetChecked (address : UInt16) : Checked Nat :=
  through chip.chrWindows address.toNat 0x400

def observeChecked (address : UInt16) : Checked Mmc3 :=
  return { chip with registers := ← chip.registers.observeChecked chip.variant address }

theorem prgOffsetChecked_eq (program : 0x8000 ≤ address) :
    chip.prgOffsetChecked address = .ok (chip.prgOffset address) := by
  obtain ⟨found, place, bound⟩ := programPlace_ok program
  have slot : (address - 0x8000).toNat / 0x2000 = address.toNat / 0x2000 % 4 := by omega
  have inner : (address - 0x8000).toNat % 0x2000 = address.toNat % 0x2000 := by omega
  rw [prgOffsetChecked, found, ok_bind, through_ok _ slot (Nat.mod_lt _ (by decide)), inner]
  rfl

theorem chrOffsetChecked_eq (pattern : address < 0x2000) :
    chip.chrOffsetChecked address = .ok (chip.chrOffset address) := by
  have bound : address.toNat < 0x2000 := UInt16.lt_iff_toNat_lt.mp pattern
  have slot : address.toNat / 0x400 = address.toNat / 0x400 % 8 := by omega
  exact through_ok _ slot (Nat.mod_lt _ (by decide))

theorem observeChecked_eq (address : UInt16) :
    chip.observeChecked address = .ok (chip.observe address) := by
  rw [observeChecked, chip.registers.observeChecked_eq]
  rfl

def writeChecked (memory : CartridgeMemory) (address : UInt16) (data : UInt8) : Checked Mmc3 := do
  let registers ← chip.registers.writeChecked chip.fourScreen address data
  if address < 0xA000 then return chip.withRegisters registers memory
  else return { chip with registers }

theorem writeChecked_eq (memory : CartridgeMemory) (address : UInt16) (data : UInt8) :
    chip.writeChecked memory address data = .ok (chip.write memory address data) := by
  rw [writeChecked, chip.registers.writeChecked_eq, ok_bind]
  simp only [write]
  split <;> rfl

end Mmc3

/-! ### Boards -/

namespace Board

variable (board : Board) (memory : CartridgeMemory) {address : UInt16}

def prgOffsetChecked (address : UInt16) : Checked Nat :=
  match board with
  | nrom _ | cnRom _ _ => return (← sub address 0x8000).toNat
  | mmc1 chip => chip.prgOffsetChecked address
  | mmc3 chip => chip.prgOffsetChecked address
  | uxRom _ _ | axRom _ => return board.prgOffset memory address

def chrOffsetChecked (address : UInt16) : Checked Nat :=
  match board with
  | mmc1 chip => chip.chrOffsetChecked address
  | mmc3 chip => chip.chrOffsetChecked address
  | nrom _ | uxRom _ _ | cnRom _ _ | axRom _ => return board.chrOffset memory address

def writeChecked (address : UInt16) (data : UInt8) : Checked Board :=
  match board with
  | mmc3 chip => return mmc3 (← chip.writeChecked memory address data)
  | board => return board.write memory address data

def observeChecked (address : UInt16) : Checked Board :=
  match board with
  | mmc3 chip => return mmc3 (← chip.observeChecked address)
  | board => return board

theorem prgOffsetChecked_eq (program : 0x8000 ≤ address) :
    board.prgOffsetChecked memory address = .ok (board.prgOffset memory address) := by
  obtain ⟨found, place, bound⟩ := programPlace_ok program
  have whole : (address - 0x8000).toNat = address.toNat % 0x8000 := by omega
  cases board with
  | nrom | cnRom => simp only [prgOffsetChecked, prgOffset, found, ok_bind, pure_eq, whole]
  | mmc1 chip => exact chip.prgOffsetChecked_eq program
  | mmc3 chip => exact chip.prgOffsetChecked_eq program
  | uxRom | axRom => rfl

theorem chrOffsetChecked_eq (pattern : address < 0x2000) :
    board.chrOffsetChecked memory address = .ok (board.chrOffset memory address) := by
  cases board with
  | mmc1 chip => exact chip.chrOffsetChecked_eq pattern
  | mmc3 chip => exact chip.chrOffsetChecked_eq pattern
  | nrom | uxRom | cnRom | axRom => rfl

theorem writeChecked_eq (address : UInt16) (data : UInt8) :
    board.writeChecked memory address data = .ok (board.write memory address data) := by
  cases board with
  | mmc3 chip =>
    simp only [writeChecked, chip.writeChecked_eq]
    rfl
  | nrom | mmc1 | uxRom | cnRom | axRom => rfl

theorem observeChecked_eq (address : UInt16) :
    board.observeChecked address = .ok (board.observe address) := by
  cases board with
  | mmc3 chip =>
    simp only [observeChecked, chip.observeChecked_eq]
    rfl
  | nrom | mmc1 | uxRom | cnRom | axRom => rfl

end Board

/-! ### Cartridges -/

namespace Cartridge

/-- There is as much work memory as there are addresses for it. -/
def Full (cart : Cartridge) : Prop := cart.memory.sram.size = sramSize

variable {cart : Cartridge}

theorem Full.of_blank {first second : Cartridge} (full : first.Full)
    (same : second.blank = first.blank) : second.Full :=
  (CartridgeMemory.SameBuild.of_blank (memory_blank same)).sramSize.trans full

/-- Play does not change how much work memory there is. -/
theorem Full.preserved : Preserved Full where
  write full address data := full.of_blank (write_blank _ address data)
  observe full _ := full
  step full := full

def readChecked (cart : Cartridge) (address : UInt16) : Checked UInt8 := do
  if 0x8000 ≤ address then
    let place ← cart.board.prgOffsetChecked cart.memory address
    CartridgeMemory.readWrappedChecked cart.memory.prg place
  else if 0x6000 ≤ address then cart.memory.readSramChecked address
  else if address < 0x2000 then
    let place ← cart.board.chrOffsetChecked cart.memory address
    CartridgeMemory.readWrappedChecked cart.memory.chr place
  else return 0

def writeChecked (cart : Cartridge) (address : UInt16) (data : UInt8) : Checked Cartridge := do
  if 0x8000 ≤ address then
    return { cart with board := ← cart.board.writeChecked cart.memory address data }
  else if 0x6000 ≤ address then
    return { cart with memory := ← cart.memory.writeSramChecked address data }
  else if address < 0x2000 then
    let place ← cart.board.chrOffsetChecked cart.memory address
    return { cart with memory := ← cart.memory.writeChrChecked place data }
  else return cart

def observeChecked (cart : Cartridge) (address : UInt16) : Checked Cartridge :=
  return { cart with board := ← cart.board.observeChecked address }

theorem readChecked_eq (full : cart.Full) (address : UInt16) :
    cart.readChecked address = .ok (cart.read address) := by
  unfold readChecked read
  split
  · rename_i program
    rw [cart.board.prgOffsetChecked_eq _ program, ok_bind, CartridgeMemory.readWrappedChecked_eq]
    rfl
  · split
    · rename_i work
      exact CartridgeMemory.readSramChecked_eq full work
    · split
      · rename_i pattern
        rw [cart.board.chrOffsetChecked_eq _ pattern, ok_bind,
          CartridgeMemory.readWrappedChecked_eq]
        rfl
      · rfl

theorem writeChecked_eq (full : cart.Full) (address : UInt16)
    (data : UInt8) : cart.writeChecked address data = .ok (cart.write address data) := by
  unfold writeChecked write
  split
  · rw [cart.board.writeChecked_eq]
    rfl
  · split
    · rename_i work
      rw [CartridgeMemory.writeSramChecked_eq full work]
      rfl
    · split
      · rename_i pattern
        rw [cart.board.chrOffsetChecked_eq _ pattern, ok_bind, CartridgeMemory.writeChrChecked_eq]
        rfl
      · rfl

theorem observeChecked_eq (cart : Cartridge) (address : UInt16) :
    cart.observeChecked address = .ok (cart.observe address) := by
  rw [observeChecked, cart.board.observeChecked_eq]
  rfl

end Cartridge

end Nes
