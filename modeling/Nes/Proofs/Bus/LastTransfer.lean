import Nes.Proofs.Bits
import Nes.Proofs.Bus.Cycle
import Nes.Proofs.Cartridge.Contents
import Nes.Proofs.Histories

/-!
The byte on the bus is the one that was transferred last: what a read has answered or a write has
carried, whichever came later. The sound status is read past the bus, and neither time nor the
sample channel moves anything over it. Where nothing answers, that byte is read; a controller and
the sound status leave some of its bits in their answers.
-/

namespace Nes

theorem getLastD_append {α : Type} (early late : List α) (start : α) :
    (early ++ late).getLastD start = late.getLastD (early.getLastD start) := by
  simp [List.getLastD_eq_getLast?, List.getLast?_append, Option.getD_or]

namespace System

/-! ### Transfers -/

/-- What the processor does on the bus. -/
inductive Call where
  | read (address : UInt16)
  | write (address : UInt16) (data : UInt8)
  | tick (cycles : UInt64)

def perform (system : System) : Call → System
  | .read address => (system.read address).2
  | .write address data => system.write address data
  | .tick cycles => system.tick cycles

def follow (start : System) (calls : List Call) : System := calls.foldl perform start

/-- The byte that a read moves over the bus; the sound status does not come that way. -/
def readTransfer (system : System) (address : UInt16) : List UInt8 :=
  if address = 0x4015 then [] else [(system.read address).1]

/-- The bytes that the first `count` reads of a copy into object memory move. -/
def copyTransfers (system : System) (page : UInt16) : Nat → List UInt8
  | 0 => []
  | count + 1 =>
    system.copyTransfers page count ++
      (system.copyToOam page count).readTransfer (page ||| UInt16.ofNat count)

/-- The bytes that a call moves over the bus. The write that asks for a copy into object memory is
followed by the reads of a whole page. -/
def transfers (system : System) : Call → List UInt8
  | .read address => system.readTransfer address
  | .write address data =>
    data ::
      if address = 0x4014 then (system.drive data).copyTransfers (data.toUInt16 <<< 8) 256 else []
  | .tick _ => []

/-! ### The byte on the bus -/

theorem read_openBus (system : System) (address : UInt16) :
    (system.read address).2.openBus = (system.readTransfer address).getLastD system.openBus := by
  unfold readTransfer
  split
  · rename_i status
    rw [status]
    rfl
  · rename_i other
    simp only [read]
    repeat' split
    all_goals first
      | rfl
      | grind

theorem copyToOam_openBus (system : System) (page : UInt16) (count : Nat) :
    (system.copyToOam page count).openBus =
      (system.copyTransfers page count).getLastD system.openBus := by
  induction count with
  | zero => rfl
  | succ count ih =>
    rw [copyTransfers, getLastD_append, ← ih]
    exact (system.copyToOam page count).read_openBus (page ||| UInt16.ofNat count)

theorem write_openBus (system : System) (address : UInt16) (data : UInt8) :
    (system.write address data).openBus =
      (system.transfers (.write address data)).getLastD system.openBus := by
  rw [transfers, List.getLastD_cons]
  split
  · rename_i copied
    rw [copied]
    exact (system.drive data).copyToOam_openBus (data.toUInt16 <<< 8) 256
  · rename_i other
    simp only [write]
    repeat' split
    all_goals first
      | rfl
      | grind

/-- Neither the chips nor the sample channel touch the byte on the bus. -/
theorem tick_openBus (system : System) (cycles : UInt64) :
    (system.tick cycles).openBus = system.openBus := by
  apply @run_preserves fun moved => moved.openBus = system.openBus
  · intro moved same
    apply @cycle_preserves fun moved => moved.openBus = system.openBus
    · exact id
    · intro moved same
      obtain ⟨fetched, apu, -, sounded⟩ := moved.stepApu_eq
      rw [sounded]
      exact same
    · exact id
    · exact same
  · rfl

/-- A call leaves the last byte that it has moved. -/
theorem perform_openBus (system : System) (call : Call) :
    (system.perform call).openBus = (system.transfers call).getLastD system.openBus := by
  cases call with
  | read address => exact system.read_openBus address
  | write address data => exact system.write_openBus address data
  | tick cycles => exact system.tick_openBus cycles

theorem follow_openBus (start : System) (calls : List Call) :
    (follow start calls).openBus = (gathered perform transfers start calls).getLastD start.openBus := by
  induction calls generalizing start with
  | nil => rfl
  | cons call calls ih =>
    rw [gathered, getLastD_append, ← perform_openBus]
    exact ih (start.perform call)

/-! ### Answers -/

/-- An address at which no chip answers a read. -/
def Unanswered (address : UInt16) : Prop :=
  (0x4000 ≤ address ∧ address ≤ 0x4014) ∨ (0x4018 ≤ address ∧ address ≤ 0x5FFF)

theorem read_unanswered {address : UInt16} (unanswered : Unanswered address) (system : System) :
    (system.read address).1 = system.openBus := by
  unfold Unanswered at unanswered
  simp only [read]
  repeat' split
  all_goals first
    | rfl
    | grind

/-- A controller drives the lower bits and one of the others. -/
theorem readController_upper (system : System) (port : Fin 2) :
    (system.readController port).1 &&& 0xE0 = system.openBus &&& 0xE0 ||| 0x40 := by
  have lower : system.controllers[port].bit &&& 0xE0 = 0 := by
    unfold Controller.bit
    split
    · rw [UInt8.and_assoc]
      exact UInt8.and_zero
    · rfl
  change (system.controllers[port].bit ||| 0x40 ||| (system.openBus &&& 0xE0)) &&& 0xE0 = _
  rw [Bits.or_and, Bits.or_and, lower, UInt8.zero_or, UInt8.and_assoc, UInt8.or_comm]
  rfl

end System

/-- The status drives every bit but one. -/
theorem Apu.State.status_undriven (apu : State) (openBus : UInt8) :
    apu.status openBus &&& 0x20 = openBus &&& 0x20 := by
  have driven (on : Bool) {mask : UInt8} (other : mask &&& 0x20 = 0) :
      (if on then mask else 0) &&& 0x20 = 0 := by
    split
    · exact other
    · rfl
  simp only [status, Bits.or_and]
  rw [driven _ rfl, driven _ rfl, driven _ rfl, driven _ rfl, driven _ rfl, driven _ rfl,
    driven _ rfl, UInt8.and_assoc]
  simp

namespace System

/-- Whatever has been read, written and let pass since power-on, a read where nothing answers shows
the byte that was transferred last, and zero if there was none. A controller shows its upper bits
except bit 6, which is set, and the sound status its bit 5. -/
theorem openBus_transferred (cart : Cartridge) (settings : Settings) (calls : List Call) :
    let system := follow (powerOn cart settings) calls
    let last := (gathered perform transfers (powerOn cart settings) calls).getLastD 0
    (∀ address, Unanswered address → (system.read address).1 = last) ∧
      (∀ address, address = 0x4016 ∨ address = 0x4017 →
        (system.read address).1 &&& 0xE0 = last &&& 0xE0 ||| 0x40) ∧
      (system.read 0x4015).1 &&& 0x20 = last &&& 0x20 := by
  intro system last
  have onBus : system.openBus = last := follow_openBus (powerOn cart settings) calls
  rw [← onBus]
  refine ⟨fun address unanswered => read_unanswered unanswered system, ?_, ?_⟩
  · rintro address (rfl | rfl)
    · exact system.readController_upper 0
    · exact system.readController_upper 1
  · exact system.apu.state.status_undriven system.openBus

/-- The first page is copied into object memory, its last byte not being zero, cycles pass, and the
sound status is read. -/
def copiedPage : List Call := [.write 0xFF 0xA7, .write 0x4014 0, .tick 600, .read 0x4015]

/-- The byte that the copy has read last is still on the bus. -/
theorem openBus_transferred_copied :
    Unanswered 0x5000 ∧
      ((follow (powerOn .idle {}) copiedPage).read 0x5000).1 = 0xA7 ∧
      ((follow (powerOn .idle {}) copiedPage).read 0x4017).1 &&& 0xE0 = 0xE0 := by
  obtain ⟨unanswered, ports, -⟩ := openBus_transferred .idle {} copiedPage
  have last : (gathered perform transfers (powerOn .idle {}) copiedPage).getLastD 0 = 0xA7 := by
    decide +kernel
  rw [last] at unanswered ports
  have outside : Unanswered 0x5000 := .inr (by decide)
  exact ⟨outside, unanswered 0x5000 outside, ports 0x4017 (.inr rfl)⟩

end System

end Nes
