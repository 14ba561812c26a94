import Nes.Proofs.Video.Events
import Nes.Proofs.Video.Traffic

/-!
Bytes sent to the nametables through the address and data registers, and read back. The steps of a
stream that is no longer than one nametable lead to cells of their own however the nametables are
wired, so it comes back whole, one read late, from where it was sent or from any other address that
leads to the same cells.
-/

namespace Nes

open Bits

/-! ### Addresses -/

/-- The address that so many steps lead to. -/
def along (address step : UInt16) (count : Nat) : UInt16 := address + UInt16.ofNat count * step

theorem along_zero (address step : UInt16) : along address step 0 = address := by
  rw [along]
  change address + 0 * step = address
  rw [UInt16.zero_mul, UInt16.add_zero]

theorem along_succ (address step : UInt16) (count : Nat) :
    along address step (count + 1) = along (address + step) step count := by
  rw [along, along, UInt16.ofNat_add, UInt16.add_mul, UInt16.add_comm (_ * step),
    ← UInt16.add_assoc]
  exact congrArg (address + · + _) (UInt16.one_mul step)

theorem along_toNat {address step : UInt16} {count : Nat}
    (inside : address.toNat + step.toNat * count < 2 ^ 16) :
    (along address step count).toNat = address.toNat + step.toNat * count := by
  rw [along, UInt16.toNat_add, UInt16.toNat_mul, UInt16.toNat_ofNat', Nat.mod_mul_mod,
    Nat.add_mod_mod, Nat.mul_comm, Nat.mod_eq_of_lt inside]

namespace Scroll

/-- An address is its two bytes. -/
theorem eq_of_bytes {first second : UInt16}
    (low : field 0 8 first.toNat = field 0 8 second.toNat)
    (high : field 8 8 first.toNat = field 8 8 second.toNat) : first = second := by
  have left := first.toNat_lt
  have right := second.toNat_lt
  simp only [field] at low high
  rw [← UInt16.toNat_inj]
  omega

/-- Both bytes of an address, the higher one first, make it the place of the next access. -/
theorem writeAddress_writeAddress {scroll : Scroll} (first : scroll.w = false) {address : UInt16}
    (inside : address.toNat < 0x4000) :
    (scroll.writeAddress (address >>> 8).toUInt8).2.writeAddress address.toUInt8 =
      (true, { scroll with v := address, t := address, w := false }) := by
  have byte : (address >>> 8).toUInt8.toNat = address.toNat / 2 ^ 8 := by
    rw [UInt16.toNat_toUInt8, UInt16.toNat_shiftRight]
    change address.toNat >>> 8 % 2 ^ 8 = _
    rw [Nat.shiftRight_eq_div_pow]
    omega
  have six : ((address >>> 8).toUInt8 &&& 0x3F).toNat = address.toNat / 2 ^ 8 := by
    rw [UInt8.toNat_and, byte]
    change _ &&& 2 ^ 6 - 1 = _
    rw [Nat.and_two_pow_sub_one_eq_mod]
    omega
  have upper : field 8 8 (((address >>> 8).toUInt8 &&& 0x3F).toUInt16 <<< 8).toNat =
      field 8 8 address.toNat := by
    rw [UInt16.toNat_shiftLeft, UInt8.toNat_toUInt16, six]
    change field 8 8 ((address.toNat / 2 ^ 8) <<< 8 % 2 ^ 16) = _
    rw [Nat.shiftLeft_eq, field, field]
    omega
  have lower : field 0 8 address.toUInt8.toUInt16.toNat = field 0 8 address.toNat := by
    rw [UInt8.toNat_toUInt16, UInt16.toNat_toUInt8, field, field]
    omega
  have whole : merge 0x00FF (merge 0xFF00 scroll.t
      (((address >>> 8).toUInt8 &&& 0x3F).toUInt16 <<< 8)) address.toUInt8.toUInt16 = address := by
    apply eq_of_bytes
    · rw [field_merge_under _ _ rfl rfl, lower]
    · rw [field_merge_beside _ _ rfl rfl, field_merge_under _ _ rfl rfl, upper]
  have high : (scroll.writeAddress (address >>> 8).toUInt8).2 =
      { scroll with
        t := merge 0xFF00 scroll.t (((address >>> 8).toUInt8 &&& 0x3F).toUInt16 <<< 8)
        w := true } := by
    rw [writeAddress, first]
    rfl
  rw [high, writeAddress, whole]
  rfl

/-- A step that stays within the address space goes to the next address. -/
theorem advance_v (scroll : Scroll) (step : UInt16)
    (inside : scroll.v.toNat + step.toNat < 0x4000) :
    scroll.advance step = { scroll with v := scroll.v + step } ∧
      (scroll.v + step).toNat = scroll.v.toNat + step.toNat := by
  have sum : (scroll.v + step).toNat = scroll.v.toNat + step.toNat := by
    rw [UInt16.toNat_add, Nat.mod_eq_of_lt (Nat.lt_trans inside (by decide))]
  refine ⟨?_, sum⟩
  rw [advance, and_low_of_lt 15 rfl (by omega)]

end Scroll

/-! ### Nametable memory -/

namespace Mirroring

variable (mirroring : Mirroring) (memory : Vector UInt8 0x1000)

/-- The byte of the cell that an address leads to. -/
def cell (address : UInt16) : UInt8 :=
  have := mirroring.nametableOffset_lt address
  memory[mirroring.nametableOffset address]

def put (address : UInt16) (byte : UInt8) : Vector UInt8 0x1000 :=
  memory.set (mirroring.nametableOffset address) byte (mirroring.nametableOffset_lt address)

/-- Bytes put from an address on, a step apart. -/
def store (step : UInt16) (memory : Vector UInt8 0x1000) (address : UInt16) :
    List UInt8 → Vector UInt8 0x1000
  | [] => memory
  | byte :: bytes => store step (mirroring.put memory address byte) (address + step) bytes

/-- The bytes of the cells from an address on, a step apart. -/
def load (step address : UInt16) (count : Nat) : List UInt8 :=
  (List.range count).map fun place => mirroring.cell memory (along address step place)

theorem load_succ (step address : UInt16) (count : Nat) :
    mirroring.load memory step address (count + 1) =
      mirroring.cell memory address :: mirroring.load memory step (address + step) count := by
  rw [load, List.range_succ_eq_map, List.map_cons, List.map_map, along_zero, load]
  refine congrArg _ (List.map_congr_left fun place _ => ?_)
  exact congrArg (mirroring.cell memory) (along_succ address step place)

theorem getElem_load {step address : UInt16} {count place : Nat}
    (inside : place < (mirroring.load memory step address count).length) :
    (mirroring.load memory step address count)[place] =
      mirroring.cell memory (along address step place) := by
  simp only [load, List.getElem_map, List.getElem_range]

/-- Two addresses that lead to the same cell cannot be told apart. -/
theorem cell_congr {first second : UInt16}
    (same : mirroring.nametableOffset first = mirroring.nametableOffset second) :
    mirroring.cell memory first = mirroring.cell memory second := by
  simp only [cell, same]

theorem cell_put (address : UInt16) (byte : UInt8) :
    mirroring.cell (mirroring.put memory address byte) address = byte := by
  simp only [cell, put, Vector.getElem_set_self]

theorem cell_put_of_ne {address other : UInt16} (byte : UInt8)
    (apart : mirroring.nametableOffset address ≠ mirroring.nametableOffset other) :
    mirroring.cell (mirroring.put memory address byte) other = mirroring.cell memory other := by
  rw [cell, put, Vector.getElem_set_ne _ _ apart, cell]

variable {mirroring} {step : UInt16}

/-- Bytes put elsewhere leave a cell as it is. -/
theorem cell_store_of_ne {memory : Vector UInt8 0x1000} {address other : UInt16}
    {bytes : List UInt8}
    (apart : ∀ place < bytes.length,
      mirroring.nametableOffset (along address step place) ≠ mirroring.nametableOffset other) :
    mirroring.cell (mirroring.store step memory address bytes) other =
      mirroring.cell memory other := by
  induction bytes generalizing memory address with
  | nil => rfl
  | cons byte bytes ih =>
    have here := apart 0 (Nat.succ_pos _)
    rw [along_zero] at here
    rw [store, ih, cell_put_of_ne mirroring memory byte here]
    intro place inside
    rw [← along_succ]
    exact apart (place + 1) (Nat.succ_lt_succ inside)

/-- Each byte is found where it was put, if none was put there later. -/
theorem cell_store {memory : Vector UInt8 0x1000} {address : UInt16} {bytes : List UInt8}
    (apart : ∀ early late, early < late → late < bytes.length →
      mirroring.nametableOffset (along address step late) ≠
        mirroring.nametableOffset (along address step early))
    {place : Nat} (inside : place < bytes.length) :
    mirroring.cell (mirroring.store step memory address bytes) (along address step place) =
      bytes[place] := by
  induction bytes generalizing memory address place with
  | nil => exact absurd inside (Nat.not_lt_zero _)
  | cons byte bytes ih =>
    cases place with
    | zero =>
      rw [store, cell_store_of_ne, along_zero, cell_put, List.getElem_cons_zero]
      intro late within
      rw [← along_succ]
      exact apart 0 (late + 1) (Nat.succ_pos _) (Nat.succ_lt_succ within)
    | succ place =>
      rw [store, along_succ, List.getElem_cons_succ]
      refine ih ?_ (Nat.lt_of_succ_lt_succ inside)
      intro early late before within
      rw [← along_succ, ← along_succ]
      exact apart (early + 1) (late + 1) (Nat.succ_lt_succ before) (Nat.succ_lt_succ within)

/-- However the nametables are wired, a table keeps its cells apart. -/
theorem nametableOffset_mod (mirroring : Mirroring) (address : UInt16) :
    mirroring.nametableOffset address % 0x400 = address.toNat % 0x400 := by
  rw [nametableOffset, Nat.mul_add_mod_self_right, Nat.mod_mod]

/-- The steps of a stream that fits in a table lead to different cells. -/
theorem apart_of_fits {address : UInt16} {count : Nat} (moves : 0 < step.toNat)
    (fits : step.toNat * count ≤ 0x400) (inside : address.toNat + step.toNat * count < 2 ^ 16)
    (early late : Nat) (before : early < late) (within : late < count) :
    mirroring.nametableOffset (along address step late) ≠
      mirroring.nametableOffset (along address step early) := by
  intro same
  have cells := congrArg (· % 0x400) same
  have whole : step.toNat * late < step.toNat * count := Nat.mul_lt_mul_of_pos_left within moves
  have grows : step.toNat * early < step.toNat * late := Nat.mul_lt_mul_of_pos_left before moves
  simp only [nametableOffset_mod] at cells
  rw [along_toNat (by omega), along_toNat (by omega)] at cells
  omega

end Mirroring

/-! ### Register accesses -/

namespace Ppu

/-- The writes that make an address the place of the next data access. -/
def point (address : UInt16) : List Event :=
  [.write 0x2006 (address >>> 8).toUInt8, .write 0x2006 address.toUInt8]

/-- Writes of bytes to the data register. -/
def stream (bytes : List UInt8) : List Event := bytes.map (.write 0x2007 ·)

/-- What so many reads of the data register answer. -/
def answers (state : Ppu × Cartridge) : Nat → List UInt8
  | 0 => []
  | count + 1 =>
    let (value, next) := state.1.readRegister state.2 0x2007
    value :: answers next count

/-- The unit with the next data access at an address. -/
def placed (ppu : Ppu) (address : UInt16) : Ppu :=
  { ppu with scroll := { ppu.scroll with v := address } }

variable {ppu : Ppu} {cart : Cartridge}

theorem addressStep_range (ppu : Ppu) : 0 < ppu.addressStep.toNat ∧ ppu.addressStep.toNat ≤ 32 := by
  unfold addressStep
  split <;> decide

/-- Between the patterns and the palette an access reaches a nametable, and the cartridge takes no
notice. -/
theorem readVram_table (ppu : Ppu) (cart : Cartridge) {address : UInt16}
    (above : 0x2000 ≤ address.toNat) (below : address.toNat < 0x3F00) :
    ppu.readVram cart address = (cart.mirroring.cell ppu.nametables address, cart) := by
  have folded : address &&& 0x3FFF = address := and_low_of_lt 14 rfl (by omega)
  have notPattern : ¬ address < 0x2000 := UInt16.not_lt.mpr (UInt16.le_iff_toNat_le.mpr above)
  have notPalette : address < 0x3F00 := UInt16.lt_iff_toNat_lt.mpr below
  simp only [readVram, folded, if_neg notPattern, if_pos notPalette]
  rfl

theorem writeVram_table (ppu : Ppu) (cart : Cartridge) {address : UInt16} (data : UInt8)
    (above : 0x2000 ≤ address.toNat) (below : address.toNat < 0x3F00) :
    ppu.writeVram cart address data =
      ({ ppu with nametables := cart.mirroring.put ppu.nametables address data }, cart) := by
  have folded : address &&& 0x3FFF = address := and_low_of_lt 14 rfl (by omega)
  have notPattern : ¬ address < 0x2000 := UInt16.not_lt.mpr (UInt16.le_iff_toNat_le.mpr above)
  have notPalette : address < 0x3F00 := UInt16.lt_iff_toNat_lt.mpr below
  simp only [writeVram, folded, if_neg notPattern, if_pos notPalette]
  rfl

theorem observe_table (cart : Cartridge) {address : UInt16} (above : 0x2000 ≤ address.toNat)
    (inside : address.toNat < 0x4000) : cart.observe (address &&& 0x3FFF) = cart := by
  rw [and_low_of_lt 14 rfl (by omega), cart.observe_above above]

/-- An access outside of drawing goes on by the step. -/
theorem incrementAddress_table (idle : ppu.drawing = false) (above : 0x2000 ≤ ppu.scroll.v.toNat)
    (below : ppu.scroll.v.toNat < 0x3F00) :
    ppu.incrementAddress cart = (ppu.placed (ppu.scroll.v + ppu.addressStep), cart) := by
  obtain ⟨-, short⟩ := ppu.addressStep_range
  obtain ⟨moved, sum⟩ := ppu.scroll.advance_v ppu.addressStep (by omega)
  rw [incrementAddress, idle, if_neg Bool.false_ne_true]
  simp only [moved]
  rw [observe_table cart (by omega) (by omega)]
  rfl

theorem writeData_table (idle : ppu.drawing = false) (above : 0x2000 ≤ ppu.scroll.v.toNat)
    (below : ppu.scroll.v.toNat < 0x3F00) (data : UInt8) :
    ppu.writeData cart data =
      ({ ppu.placed (ppu.scroll.v + ppu.addressStep) with
          nametables := cart.mirroring.put ppu.nametables ppu.scroll.v data }, cart) := by
  rw [writeData, writeVram_table ppu cart data above below]
  exact incrementAddress_table idle above below

/-- The data register stores a byte in the nametables. -/
theorem perform_writeData (idle : ppu.drawing = false) (above : 0x2000 ≤ ppu.scroll.v.toNat)
    (below : ppu.scroll.v.toNat < 0x3F00) (data : UInt8) :
    perform (ppu, cart) (.write 0x2007 data) =
      ({ (ppu.drive data).placed (ppu.scroll.v + ppu.addressStep) with
          nametables := cart.mirroring.put ppu.nametables ppu.scroll.v data }, cart) :=
  @writeData_table (ppu.drive data) cart idle above below data

/-- The data register answers with the buffer, which then takes the byte at the address. -/
theorem readRegister_data (idle : ppu.drawing = false) (above : 0x2000 ≤ ppu.scroll.v.toNat)
    (below : ppu.scroll.v.toNat < 0x3F00) :
    ppu.readRegister cart 0x2007 =
      (ppu.readBuffer,
        { (ppu.drive ppu.readBuffer).placed (ppu.scroll.v + ppu.addressStep) with
          readBuffer := cart.mirroring.cell ppu.nametables ppu.scroll.v }, cart) := by
  have folded : ppu.scroll.v &&& 0x3FFF = ppu.scroll.v := and_low_of_lt 14 rfl (by omega)
  have notPalette : ¬ 0x3F00 ≤ ppu.scroll.v :=
    UInt16.not_le.mpr (UInt16.lt_iff_toNat_lt.mpr below)
  have moved := @incrementAddress_table
    { ppu with readBuffer := cart.mirroring.cell ppu.nametables ppu.scroll.v } cart idle above below
  change ppu.readData cart = _
  simp only [readData, folded, if_neg notPalette, readVram_table ppu cart above below]
  exact congrArg (fun moved => (ppu.readBuffer, moved.1.drive ppu.readBuffer, moved.2)) moved

theorem perform_writeAddress (ppu : Ppu) (cart : Cartridge) (data : UInt8) :
    perform (ppu, cart) (.write 0x2006 data) =
      ({ ppu.drive data with scroll := (ppu.scroll.writeAddress data).2 },
        if (ppu.scroll.writeAddress data).1 then
          cart.observe ((ppu.scroll.writeAddress data).2.v &&& 0x3FFF)
        else cart) :=
  rfl

/-- Two writes to the address register move the unit there and leave the toggle clear. -/
theorem follow_point (first : ppu.scroll.w = false) {address : UInt16}
    (above : 0x2000 ≤ address.toNat) (inside : address.toNat < 0x4000) :
    follow (ppu, cart) (point address) =
      ({ ppu.drive address.toUInt8 with
          scroll := { ppu.scroll with v := address, t := address, w := false } }, cart) := by
  have unmoved : (ppu.scroll.writeAddress (address >>> 8).toUInt8).1 = false := by
    rw [Scroll.writeAddress, first]
    rfl
  have early : perform (ppu, cart) (.write 0x2006 (address >>> 8).toUInt8) =
      ({ ppu.drive (address >>> 8).toUInt8 with
          scroll := (ppu.scroll.writeAddress (address >>> 8).toUInt8).2 }, cart) := by
    rw [perform_writeAddress, unmoved, if_neg Bool.false_ne_true]
  have both := Scroll.writeAddress_writeAddress first inside
  change perform (perform (ppu, cart) (.write 0x2006 (address >>> 8).toUInt8))
    (.write 0x2006 address.toUInt8) = _
  rw [early, perform_writeAddress]
  simp only [both, if_true]
  rw [observe_table cart above inside]
  rfl

/-! ### Streams -/

/-- While steps are left, this place and the next ones lie in the nametables. -/
theorem next_place {address step : UInt16} {count : Nat} (above : 0x2000 ≤ address.toNat)
    (below : address.toNat + step.toNat * (count + 1) < 0x3F00) :
    address.toNat < 0x3F00 ∧ 0x2000 ≤ (address + step).toNat ∧
      (address + step).toNat + step.toNat * count < 0x3F00 := by
  rw [Nat.mul_succ] at below
  have sum : (address + step).toNat = address.toNat + step.toNat := by
    rw [UInt16.toNat_add, Nat.mod_eq_of_lt (by omega)]
  omega

/-- A stream within the nametables is stored from the place of the unit on, and moves the unit
behind it. -/
theorem follow_stream (idle : ppu.drawing = false) (above : 0x2000 ≤ ppu.scroll.v.toNat)
    {bytes : List UInt8}
    (below : ppu.scroll.v.toNat + ppu.addressStep.toNat * bytes.length < 0x3F00) :
    ∃ openBus, follow (ppu, cart) (stream bytes) =
      ({ ppu.placed (along ppu.scroll.v ppu.addressStep bytes.length) with
          openBus
          nametables := cart.mirroring.store ppu.addressStep ppu.nametables ppu.scroll.v bytes },
        cart) := by
  induction bytes generalizing ppu with
  | nil =>
    refine ⟨ppu.openBus, ?_⟩
    rw [List.length_nil, along_zero]
    rfl
  | cons byte bytes ih =>
    obtain ⟨here, above', below'⟩ := next_place above below
    obtain ⟨openBus, rest⟩ := @ih
      { (ppu.drive byte).placed (ppu.scroll.v + ppu.addressStep) with
        nametables := cart.mirroring.put ppu.nametables ppu.scroll.v byte } idle above' below'
    refine ⟨openBus, ?_⟩
    change follow (perform (ppu, cart) (.write 0x2007 byte)) (stream bytes) = _
    rw [perform_writeData idle above here, rest, List.length_cons, along_succ]
    rfl

/-- Reads within the nametables answer with the buffer and then, one read late, with the bytes from
the place of the unit on. -/
theorem answers_eq (idle : ppu.drawing = false) (above : 0x2000 ≤ ppu.scroll.v.toNat) {count : Nat}
    (below : ppu.scroll.v.toNat + ppu.addressStep.toNat * count < 0x3F00) :
    answers (ppu, cart) (count + 1) =
      ppu.readBuffer ::
        cart.mirroring.load ppu.nametables ppu.addressStep ppu.scroll.v count := by
  induction count generalizing ppu with
  | zero =>
    rw [answers, readRegister_data idle above (by omega)]
    rfl
  | succ count ih =>
    obtain ⟨here, above', below'⟩ := next_place above below
    have rest := @ih
      { (ppu.drive ppu.readBuffer).placed (ppu.scroll.v + ppu.addressStep) with
        readBuffer := cart.mirroring.cell ppu.nametables ppu.scroll.v } idle above' below'
    rw [answers, readRegister_data idle above here, Mirroring.load_succ]
    exact congrArg (ppu.readBuffer :: ·) rest

/-! ### There and back -/

/-- What was stored from one address on is loaded from any other that leads to the same cells. -/
theorem load_store {mirroring : Mirroring} {step address back : UInt16} {bytes : List UInt8}
    (memory : Vector UInt8 0x1000) (moves : 0 < step.toNat)
    (fits : step.toNat * bytes.length ≤ 0x400)
    (inside : address.toNat + step.toNat * bytes.length < 2 ^ 16)
    (same : ∀ place < bytes.length, mirroring.nametableOffset (along back step place) =
      mirroring.nametableOffset (along address step place)) :
    mirroring.load (mirroring.store step memory address bytes) step back bytes.length = bytes := by
  apply List.ext_getElem
  · rw [Mirroring.load, List.length_map, List.length_range]
  · intro place _ within
    rw [Mirroring.getElem_load, Mirroring.cell_congr _ _ (same place within)]
    exact Mirroring.cell_store (Mirroring.apart_of_fits moves fits inside) within

/-- A stream is read back, one read late, from any address that leads to the same cells. -/
theorem answers_after_stream (idle : ppu.drawing = false) (first : ppu.scroll.w = false)
    {address back : UInt16} {bytes : List UInt8} (above : 0x2000 ≤ address.toNat)
    (fits : ppu.addressStep.toNat * bytes.length ≤ 0x400)
    (below : address.toNat + ppu.addressStep.toNat * bytes.length < 0x3F00)
    (backAbove : 0x2000 ≤ back.toNat)
    (backBelow : back.toNat + ppu.addressStep.toNat * bytes.length < 0x3F00)
    (same : ∀ place < bytes.length,
      cart.mirroring.nametableOffset (along back ppu.addressStep place) =
        cart.mirroring.nametableOffset (along address ppu.addressStep place)) :
    (answers (follow (ppu, cart) (point address ++ stream bytes ++ point back))
      (bytes.length + 1)).tail = bytes := by
  obtain ⟨moves, -⟩ := ppu.addressStep_range
  obtain ⟨openBus, stored⟩ := @follow_stream
    { ppu.drive address.toUInt8 with
      scroll := { ppu.scroll with v := address, t := address, w := false } }
    cart idle above bytes below
  have returned := @follow_point
    { ppu with
      openBus
      nametables := cart.mirroring.store ppu.addressStep ppu.nametables address bytes
      scroll :=
        { ppu.scroll with
          v := along address ppu.addressStep bytes.length
          t := address
          w := false } }
    cart rfl back backAbove (by omega)
  have loaded := @answers_eq
    { ppu.drive back.toUInt8 with
      nametables := cart.mirroring.store ppu.addressStep ppu.nametables address bytes
      scroll := { ppu.scroll with v := back, t := back, w := false } }
    cart idle backAbove bytes.length backBelow
  rw [follow_append, follow_append, follow_point first above (by omega), stored]
  refine (congrArg (fun state => (answers state (bytes.length + 1)).tail) returned).trans ?_
  refine (congrArg List.tail loaded).trans ?_
  exact load_store ppu.nametables moves fits (by omega) same

/-- Outside of drawing and with the toggle clear, whatever else the unit's state, the cartridge and
its wiring: an address, a stream of bytes, the address again, and one read more than there were
bytes bring the bytes back in order behind the first answer. The stream is no longer than a
nametable and ends below the palette. The same comes back from any other address whose steps lead to
the same cells. -/
theorem stream_round_trip (idle : ppu.drawing = false) (first : ppu.scroll.w = false)
    {address : UInt16} {bytes : List UInt8} (above : 0x2000 ≤ address.toNat)
    (fits : ppu.addressStep.toNat * bytes.length ≤ 0x400)
    (below : address.toNat + ppu.addressStep.toNat * bytes.length < 0x3F00) :
    (answers (follow (ppu, cart) (point address ++ stream bytes ++ point address))
        (bytes.length + 1)).tail = bytes ∧
      ∀ back : UInt16, 0x2000 ≤ back.toNat →
        back.toNat + ppu.addressStep.toNat * bytes.length < 0x3F00 →
        (∀ place < bytes.length,
          cart.mirroring.nametableOffset (along back ppu.addressStep place) =
            cart.mirroring.nametableOffset (along address ppu.addressStep place)) →
        (answers (follow (ppu, cart) (point address ++ stream bytes ++ point back))
          (bytes.length + 1)).tail = bytes := by
  constructor
  · exact answers_after_stream idle first above fits below above below fun _ _ => rfl
  · intro back backAbove backBelow same
    exact answers_after_stream idle first above fits below backAbove backBelow same

/-- A unit that goes down a column of tiles and has an old byte in its buffer. -/
def downward : Ppu := { ctrl := 4, readBuffer := 0x99 }

/-- A cartridge without memories, with the tables one above the other. -/
def stacked : Cartridge where
  memory := { prg := #[], chr := #[], chrWritable := false, sram := #[] }
  board := .nrom .horizontal
  mapperId := 0
  battery := false

/-- Three bytes down a column come back from there and from the table beside it. -/
theorem stream_round_trip_downward :
    downward.drawing = false ∧ downward.scroll.w = false ∧
      (answers (follow (downward, stacked) (point 0x2020 ++ stream [1, 2, 3] ++ point 0x2020))
        4).tail = [1, 2, 3] ∧
      (answers (follow (downward, stacked) (point 0x2020 ++ stream [1, 2, 3] ++ point 0x2420))
        4).tail = [1, 2, 3] := by
  have idle : downward.drawing = false := by decide
  have clear : downward.scroll.w = false := rfl
  obtain ⟨home, beside⟩ := @stream_round_trip downward stacked idle clear 0x2020 [1, 2, 3]
    (by decide) (by decide) (by decide)
  exact ⟨idle, clear, home, beside 0x2420 (by decide) (by decide) (by decide)⟩

end Ppu

end Nes
