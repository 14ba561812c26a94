import Mathlib.Algebra.GroupWithZero.Nat
import Mathlib.Data.List.Induction
import Nes.Cartridge.Basic
import Nes.Proofs.Bits

/-!
What the serial port of the bank switcher receives. The port keeps its count of bits as a marker
that travels through the byte that collects them; here the registers are told from the history of
writes alone: which writes count, how they fall into groups of five, and what each group stores.
-/

namespace Nes

namespace SerialPort

/-- What the processor does to the cartridge. -/
inductive Event where
  | write (address : UInt16) (data : UInt8)
  /-- A cycle passes. -/
  | step

/-- A write that the port accepts. -/
structure Entry where
  address : UInt16
  data : UInt8

/-- The bit that the port takes from a write. -/
def Entry.bit (entry : Entry) : Nat := entry.data.toNat % 2

/-- A write with bit 7 set empties the port. -/
def Entry.resets (entry : Entry) : Bool := 128 ≤ entry.data.toNat

/-! Histories have the newest event first. -/

/-- A cycle has passed since the last write that counted, or none has counted yet. -/
def rested : List Event → Bool
  | [] => true
  | .step :: _ => true
  | .write address _ :: earlier =>
    if 0x8000 ≤ address && rested earlier then false else rested earlier

/-- The writes that count. -/
def counted : List Event → List Entry
  | [] => []
  | .step :: earlier => counted earlier
  | .write address data :: earlier =>
    if 0x8000 ≤ address && rested earlier then ⟨address, data⟩ :: counted earlier
    else counted earlier

/-- The writes since the last one that emptied the port. -/
def sinceReset (entries : List Entry) : List Entry := entries.takeWhile (!·.resets)

/-- The number that a group of writes spells: the sum of the bits, the first of weight one. -/
def value (group : List Entry) : Nat :=
  (group.reverse.zipIdx.map fun (entry, place) => entry.bit * 2 ^ place).sum

/-- The registers that a program sets. -/
structure Selection where
  control : Nat := 0x0C
  chrBank0 : Nat := 0
  chrBank1 : Nat := 0
  prgBank : Nat := 0

/-- Stores a number in the register that bits 13 and 14 of an address select. -/
def Selection.set (selection : Selection) (address : UInt16) (value : Nat) : Selection :=
  match address.toNat / 0x2000 % 4 with
  | 0 => { selection with control := value }
  | 1 => { selection with chrBank0 := value }
  | 2 => { selection with chrBank1 := value }
  | _ => { selection with prgBank := value % 16 }

/-- What the registers hold after a history of counted writes. -/
def selected : List Entry → Selection
  | [] => {}
  | entry :: earlier =>
    if entry.resets then
      let before := selected earlier
      { before with control := before.control ||| 0x0C }
    else
      let group := sinceReset (entry :: earlier)
      if group.length % 5 = 0 then (selected earlier).set entry.address (value (group.take 5))
      else selected earlier

/-! ### Groups of five -/

/-- The writes of the group that is not complete yet. -/
def pending (entries : List Entry) : List Entry :=
  (sinceReset entries).take ((sinceReset entries).length % 5)

theorem sinceReset_reset {entry : Entry} (resets : entry.resets = true) (earlier : List Entry) :
    sinceReset (entry :: earlier) = [] := by
  simp [sinceReset, resets]

theorem sinceReset_bit {entry : Entry} (bit : entry.resets = false) (earlier : List Entry) :
    sinceReset (entry :: earlier) = entry :: sinceReset earlier := by
  simp [sinceReset, bit]

theorem length_pending (entries : List Entry) :
    (pending entries).length = (sinceReset entries).length % 5 := by
  rw [pending, List.length_take]
  exact Nat.min_eq_left (Nat.mod_le _ _)

theorem pending_lt (entries : List Entry) : (pending entries).length < 5 := by
  rw [length_pending]
  exact Nat.mod_lt _ (by decide)

theorem pending_reset {entry : Entry} (resets : entry.resets = true) (earlier : List Entry) :
    pending (entry :: earlier) = [] := by
  rw [pending, sinceReset_reset resets, List.take_nil]

/-- A bit joins the group that is not complete. -/
theorem pending_bit {entry : Entry} {earlier : List Entry} (bit : entry.resets = false)
    (room : (pending earlier).length < 4) :
    pending (entry :: earlier) = entry :: pending earlier := by
  rw [length_pending] at room
  have grown : ((sinceReset earlier).length + 1) % 5 = (sinceReset earlier).length % 5 + 1 := by
    omega
  rw [pending, sinceReset_bit bit, List.length_cons, grown, List.take_succ_cons, pending]

/-- The fifth bit completes the group. -/
theorem pending_fifth {entry : Entry} {earlier : List Entry} (bit : entry.resets = false)
    (four : (pending earlier).length = 4) : pending (entry :: earlier) = [] := by
  rw [length_pending] at four
  have complete : ((sinceReset earlier).length + 1) % 5 = 0 := by omega
  rw [pending, sinceReset_bit bit, List.length_cons, complete, List.take_zero]

/-- What the registers hold does not depend on a group before its fifth write. -/
theorem selected_bit {entry : Entry} {earlier : List Entry} (bit : entry.resets = false)
    (room : (pending earlier).length < 4) : selected (entry :: earlier) = selected earlier := by
  rw [length_pending] at room
  have incomplete : ¬ ((sinceReset earlier).length + 1) % 5 = 0 := by omega
  simp only [selected, bit, sinceReset_bit bit, List.length_cons, incomplete, if_false,
    Bool.false_eq_true]

/-- The fifth write of a group stores the number that the group spells. -/
theorem selected_fifth {entry : Entry} {earlier : List Entry} (bit : entry.resets = false)
    (four : (pending earlier).length = 4) :
    selected (entry :: earlier) =
      (selected earlier).set entry.address (value (entry :: pending earlier)) := by
  have place : (sinceReset earlier).length % 5 = 4 := by rw [← length_pending, four]
  have complete : ((sinceReset earlier).length + 1) % 5 = 0 := by omega
  have group : (entry :: sinceReset earlier).take 5 = entry :: pending earlier := by
    rw [List.take_succ_cons, pending, place]
  simp only [selected, bit, sinceReset_bit bit, List.length_cons, complete, group, if_true,
    if_false, Bool.false_eq_true]

theorem value_cons (entry : Entry) (group : List Entry) :
    value (entry :: group) = value group + entry.bit * 2 ^ group.length := by
  simp [value, List.zipIdx_append]

theorem value_lt (group : List Entry) : value group < 2 ^ group.length := by
  induction group with
  | nil => exact Nat.one_pos
  | cons entry group smaller =>
    rw [value_cons, List.length_cons, Nat.pow_succ]
    have bit : entry.bit < 2 := Nat.mod_lt _ (by decide)
    have weighted : entry.bit * 2 ^ group.length ≤ 1 * 2 ^ group.length :=
      Nat.mul_le_mul_right _ (by omega)
    omega

/-! ### The marker -/

/-- The byte that collects a group: the bits that have come in above a marker, which moves down one
place with each of them. -/
def collected (group : List Entry) : Nat :=
  2 ^ (4 - group.length) + 2 ^ (5 - group.length) * value group

/-- The marker is in the lowest place when four bits have come in. -/
theorem collected_four {group : List Entry} (four : group.length = 4) :
    collected group = 1 + 2 * value group := by
  simp [collected, four]

theorem collected_lt {group : List Entry} (short : group.length < 5) : collected group < 32 := by
  have bound := value_lt group
  obtain zero | one | two | three | four :
      group.length = 0 ∨ group.length = 1 ∨ group.length = 2 ∨ group.length = 3 ∨
        group.length = 4 := by omega
  all_goals simp only [collected, *] at bound ⊢; omega

/-- Before that it is higher, and the next bit moves it. -/
theorem collected_cons {group : List Entry} (room : group.length < 4) (entry : Entry) :
    collected group % 2 = 0 ∧
      collected (entry :: group) = collected group / 2 + 16 * entry.bit := by
  have last : entry.bit < 2 := Nat.mod_lt _ (by decide)
  obtain zero | one | two | three :
      group.length = 0 ∨ group.length = 1 ∨ group.length = 2 ∨ group.length = 3 := by omega
  all_goals
    simp only [collected, value_cons, List.length_cons, *]
    omega

end SerialPort

open SerialPort

namespace Mmc1.Registers

/-- The registers that a program sets, without the port. -/
def selection (registers : Registers) : Selection where
  control := registers.control.toNat
  chrBank0 := registers.chrBank0.toNat
  chrBank1 := registers.chrBank1.toNat
  prgBank := registers.prgBank.toNat

theorem store_selection (registers : Registers) {address : UInt16} (port : 0x8000 ≤ address)
    (value : UInt8) :
    (registers.store address value).selection =
      registers.selection.set address value.toNat := by
  have low : 0x8000 ≤ address.toNat := UInt16.le_iff_toNat_le.mp port
  have high : address.toNat < 0x10000 := address.toNat_lt
  have nibble : (value &&& 0x0F).toNat = value.toNat % 16 := by
    rw [UInt8.toNat_and]
    exact Nat.and_two_pow_sub_one_eq_mod value.toNat 4
  have places : ∀ bound : UInt16, (address < bound) = (address.toNat < bound.toNat) :=
    fun bound => propext UInt16.lt_iff_toNat_lt
  unfold store Selection.set
  simp only [places]
  split
  · rename_i control
    change _ < 0xA000 at control
    have place : address.toNat / 0x2000 % 4 = 0 := by omega
    rw [place]
    rfl
  · rename_i above
    change ¬ _ < 0xA000 at above
    split
    · rename_i bank
      change _ < 0xC000 at bank
      have place : address.toNat / 0x2000 % 4 = 1 := by omega
      rw [place]
      rfl
    · rename_i above
      change ¬ _ < 0xC000 at above
      split
      · rename_i bank
        change _ < 0xE000 at bank
        have place : address.toNat / 0x2000 % 4 = 2 := by omega
        rw [place]
        rfl
      · rename_i above
        change ¬ _ < 0xE000 at above
        have place : address.toNat / 0x2000 % 4 = 3 := by omega
        rw [place]
        simp only [selection, nibble]

/-- A bit enters the byte from above. -/
theorem shifted_toNat {shift : UInt8} (small : shift.toNat < 32) (data : UInt8) :
    (shift >>> 1 ||| (data &&& 1) <<< 4).toNat = shift.toNat / 2 + 16 * (data.toNat % 2) := by
  have half : (shift >>> 1).toNat = shift.toNat / 2 := by
    rw [UInt8.toNat_shiftRight]
    exact Nat.shiftRight_eq_div_pow _ 1
  have bit : (data &&& 1).toNat = data.toNat % 2 := by
    rw [UInt8.toNat_and]
    exact Nat.and_two_pow_sub_one_eq_mod data.toNat 1
  have raised : ((data &&& 1) <<< 4).toNat = 2 ^ 4 * (data.toNat % 2) := by
    rw [UInt8.toNat_shiftLeft, bit]
    change (data.toNat % 2) <<< 4 % 256 = _
    rw [Nat.shiftLeft_eq]
    omega
  rw [UInt8.toNat_or, half, raised, Nat.or_comm,
    ← Nat.two_pow_add_eq_or_of_lt (by omega : shift.toNat / 2 < 2 ^ 4)]
  omega

theorem resets_eq (entry : Entry) : (entry.data &&& 0x80 != 0) = entry.resets := by
  have byte : entry.data.toNat < 256 := entry.data.toNat_lt
  rw [Bits.and_single 7 entry.data rfl, Entry.resets, Nat.testBit_eq_decide_div_mod_eq]
  apply decide_eq_decide.mpr
  omega

/-- The marker has reached the lowest place. -/
theorem lowest_eq (shift : UInt8) : (shift &&& 1 == 1) = decide (shift.toNat % 2 = 1) := by
  have lowest : (shift &&& 1).toNat = shift.toNat % 2 := by
    rw [UInt8.toNat_and]
    exact Nat.and_two_pow_sub_one_eq_mod shift.toNat 1
  rw [Bool.eq_iff_iff, beq_iff_eq, decide_eq_true_iff, ← UInt8.toNat_inj, lowest]
  rfl

/-- The registers hold what the counted writes say. -/
structure Tracks (entries : List Entry) (registers : Registers) : Prop where
  selection : registers.selection = selected entries
  shift : registers.shift.toNat = collected (pending entries)

theorem Tracks.initial : Tracks [] {} where
  selection := rfl
  shift := rfl

/-- A write that counts is the next entry of the history. -/
theorem Tracks.write {entries : List Entry} {registers : Registers}
    (tracks : Tracks entries registers) {entry : Entry} (port : 0x8000 ≤ entry.address) :
    Tracks (entry :: entries) (registers.write entry.address entry.data) := by
  have small : registers.shift.toNat < 32 := by
    rw [tracks.shift]
    exact collected_lt (pending_lt entries)
  have entered := shifted_toNat small entry.data
  unfold Mmc1.Registers.write
  rw [resets_eq, lowest_eq]
  cases bit : entry.resets with
  | true =>
    rw [if_pos rfl]
    refine ⟨?_, by rw [pending_reset bit]; rfl⟩
    rw [selected, if_pos bit, ← tracks.selection]
    simp only [Mmc1.Registers.selection, UInt8.toNat_or]
    rfl
  | false =>
    rw [if_neg Bool.false_ne_true]
    by_cases four : (pending entries).length = 4
    · -- the marker has reached the lowest place, so the byte is left with the five bits
      have marker : registers.shift.toNat = 1 + 2 * value (pending entries) := by
        rw [tracks.shift, collected_four four]
      have spelled : (registers.shift >>> 1 ||| (entry.data &&& 1) <<< 4).toNat =
          value (entry :: pending entries) := by
        rw [entered, marker, value_cons, four, Entry.bit]
        omega
      have odd : decide (registers.shift.toNat % 2 = 1) = true := by
        rw [marker]
        exact decide_eq_true (by omega)
      rw [if_pos odd]
      refine ⟨?_, by rw [pending_fifth bit four]; rfl⟩
      rw [selected_fifth bit four, ← tracks.selection, ← spelled]
      exact store_selection registers port _
    · have room : (pending entries).length < 4 := by
        have short := pending_lt entries
        omega
      obtain ⟨even, moved⟩ := collected_cons room entry
      have waits : ¬ decide (registers.shift.toNat % 2 = 1) = true := by
        rw [tracks.shift, decide_eq_true_iff]
        omega
      rw [if_neg waits]
      refine ⟨?_, ?_⟩
      · rw [selected_bit bit room]
        exact tracks.selection
      · rw [pending_bit bit room, moved, ← tracks.shift]
        exact entered

end Mmc1.Registers

/-- An image for a board with the serial chip. -/
def Rom.serial : Rom where
  header := .forBoard 1 0 1 .vertical false
  prg := List.replicate 0x4000 0
  chr := []

namespace Cartridge

/-- The cartridge after an event. -/
def receive (cartridge : Cartridge) : Event → Cartridge
  | .write address data => cartridge.write address data
  | .step => cartridge.step

/-- The cartridge's chip holds what a history says, and is ready for the next write when the history
says so. -/
def Follows (history : List Event) (cartridge : Cartridge) : Prop :=
  ∃ chip, cartridge.board = .mmc1 chip ∧ chip.registers.Tracks (counted history) ∧
    chip.writeReady = rested history

theorem Follows.receive {history : List Event} {cartridge : Cartridge}
    (follows : Follows history cartridge) (event : Event) :
    Follows (event :: history) (cartridge.receive event) := by
  obtain ⟨chip, board, tracks, ready⟩ := follows
  cases event with
  | step =>
    refine ⟨chip.step, ?_, tracks, rfl⟩
    simp only [Cartridge.receive, Cartridge.step, board, Board.step]
  | write address data =>
    by_cases port : 0x8000 ≤ address
    · have written : (cartridge.receive (.write address data)).board =
          .mmc1 (chip.write cartridge.memory address data) := by
        simp only [Cartridge.receive, Cartridge.write, port, board, Board.write, if_true]
      refine ⟨_, written, ?_⟩
      cases rest : rested history with
      | true =>
        rw [rest] at ready
        simp only [Mmc1.write, ready, counted, rested, port, rest, decide_true, Bool.and_self,
          if_true]
        exact ⟨@Mmc1.Registers.Tracks.write _ _ tracks ⟨address, data⟩ port, rfl⟩
      | false =>
        rw [rest] at ready
        simp only [Mmc1.write, counted, rested, port, rest, Bool.and_false, ready,
          Bool.false_eq_true, if_false]
        exact ⟨tracks, trivial⟩
    · have kept : (cartridge.receive (.write address data)).board = cartridge.board := by
        simp only [Cartridge.receive, Cartridge.write, port, if_false]
        split
        · rfl
        · split <;> rfl
      refine ⟨chip, kept.trans board, ?_, ?_⟩
      · simpa only [counted, port, decide_false, Bool.false_and, Bool.false_eq_true, if_false]
      · simpa only [rested, port, decide_false, Bool.false_and, Bool.false_eq_true, if_false]

theorem follows_run {cartridge : Cartridge} (fresh : Follows [] cartridge) (events : List Event) :
    Follows events.reverse (events.foldl Cartridge.receive cartridge) := by
  induction events using List.reverseRecOn with
  | nil => exact fresh
  | append_singleton earlier event follows =>
    rw [List.reverse_concat, List.foldl_append]
    exact follows.receive event

/-- The registers of the serial chip after any sequence of writes and cycles are those that the
history of counted writes selects: every complete group of five stores its number, and nothing else
but a reset has an effect. -/
theorem serial_port (cartridge : Cartridge) (memory : CartridgeMemory) (events : List Event)
    (fresh : cartridge.board = .mmc1 (Mmc1.powerOn memory)) :
    ∃ chip, (events.foldl Cartridge.receive cartridge).board = .mmc1 chip ∧
      chip.registers.selection = selected (counted events.reverse) := by
  have start : Follows [] cartridge := ⟨_, fresh, .initial, rfl⟩
  obtain ⟨chip, board, tracks, -⟩ := follows_run start events
  exact ⟨chip, board, tracks.selection⟩

/-- The cartridge with the serial image. -/
def serial : Cartridge where
  memory := .ofRom .serial
  board := .mmc1 (.powerOn (.ofRom .serial))
  mapperId := 1
  battery := false

/-- Five bits to 0xE000 select a program bank; the second of two writes without a cycle between them
is no bit. -/
theorem serial_port_bank :
    ofRom .serial = .ok serial ∧ ∃ chip,
      ([.write 0xE000 1, .write 0xE000 0, .step, .write 0x8000 1, .step, .write 0xE000 0, .step,
          .write 0xE000 0, .step, .write 0xE000 1].foldl Cartridge.receive serial).board =
        .mmc1 chip ∧ chip.registers.selection = { prgBank := 3 } :=
  ⟨rfl, serial_port serial _ _ rfl⟩

end Cartridge

end Nes
