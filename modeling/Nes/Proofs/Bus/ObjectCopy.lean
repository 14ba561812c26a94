import Nes.Proofs.Bus.Elapsed
import Nes.Proofs.Cpu.Stores

/-!
The copy of a page into object memory. The bytes go one after the other to the current place and the
ones behind it, and the place comes round to where it was. The copy is paid for when the cycles of
its instruction pass; while the sample channel is silent nothing else comes to be owed, so the step
takes the cycles of the instruction and of one copy.
-/

namespace Nes

namespace System

variable {system : System}

/-! ### The copy -/

/-- An address in a page is the page and the place in it. -/
theorem inPage (page : UInt8) {place : Nat} (inside : place < 256) :
    page.toUInt16 <<< 8 ||| UInt16.ofNat place = UInt16.ofNat (256 * page.toNat + place) := by
  have bound := page.toNat_lt
  rw [← UInt16.toNat_inj, UInt16.toNat_or, UInt16.toNat_shiftLeft, UInt8.toNat_toUInt16,
    UInt16.toNat_ofNat', UInt16.toNat_ofNat']
  change page.toNat <<< 8 % 2 ^ 16 ||| place % 2 ^ 16 = _
  rw [Nat.shiftLeft_eq, Nat.mod_eq_of_lt (by omega), Nat.mod_eq_of_lt (by omega), Nat.mul_comm,
    ← Nat.two_pow_add_eq_or_of_lt inside, Nat.mod_eq_of_lt (by omega)]

/-- An address at which memory or the cartridge answers. -/
def Stored (address : UInt16) : Prop := address < 0x2000 ∨ 0x6000 ≤ address

theorem stored_inPage {page : UInt8} (stored : page < 0x20 ∨ 0x60 ≤ page) {place : Nat}
    (inside : place < 256) : Stored (UInt16.ofNat (256 * page.toNat + place)) := by
  have bound := page.toNat_lt
  have number : (UInt16.ofNat (256 * page.toNat + place)).toNat = 256 * page.toNat + place := by
    rw [UInt16.toNat_ofNat', Nat.mod_eq_of_lt (by omega)]
  unfold Stored
  rw [UInt16.lt_iff_toNat_lt, UInt16.le_iff_toNat_le, number]
  rw [UInt8.lt_iff_toNat_lt, UInt8.le_iff_toNat_le] at stored
  change page.toNat < 0x20 ∨ 0x60 ≤ page.toNat at stored
  change _ < 0x2000 ∨ 0x6000 ≤ _
  omega

theorem Stored.peek {address : UInt16} (stored : Stored address) (system : System) :
    system.peek address =
      if address < 0x2000 then ramAt system.ram address else system.cart.read address := by
  unfold System.peek
  rcases stored with low | high
  · simp only [if_pos low]
  · have above : ¬ address < 0x4000 := by grind
    simp only [if_neg above, if_pos high]

/-- What is read there is what is seen there, and only the bus takes notice. -/
theorem Stored.read {address : UInt16} (stored : Stored address) (system : System) :
    system.read address = (system.peek address, system.drive (system.peek address)) := by
  rw [stored.peek]
  unfold System.read
  rcases stored with low | high
  · simp only [if_pos low]
  · have below : ¬ address < 0x2000 := by grind
    have above : ¬ address < 0x4000 := by grind
    simp only [if_neg below, if_neg above, if_pos high]

/-- The copy so far: as many bytes of the page as have been copied follow each other from the
current place on, and the last of them is on the bus. -/
theorem copyToOam_stored {page : UInt8} (stored : page < 0x20 ∨ 0x60 ≤ page) {count : Nat}
    (most : count ≤ 256) :
    ∃ oam openBus,
      system.copyToOam (page.toUInt16 <<< 8) count =
        { system with
          ppu := { system.ppu with oam, oamAddr := system.ppu.oamAddr + UInt8.ofNat count }
          openBus } ∧
      (∀ place < count, oam[(system.ppu.oamAddr.toNat + place) % 256] =
        system.peek (UInt16.ofNat (256 * page.toNat + place))) ∧
      ∀ last, count = last + 1 →
        openBus = system.peek (UInt16.ofNat (256 * page.toNat + last)) := by
  induction count with
  | zero =>
    refine ⟨system.ppu.oam, system.openBus, ?_, nofun, nofun⟩
    simp [copyToOam]
  | succ count ih =>
    obtain ⟨oam, openBus, copied, bytes, -⟩ := ih (by omega)
    have inside : count < 256 := by omega
    have address := stored_inPage stored inside
    have current : (system.ppu.oamAddr + UInt8.ofNat count).toNat =
        (system.ppu.oamAddr.toNat + count) % 256 := by
      rw [UInt8.toNat_add, UInt8.toNat_ofNat', Nat.add_mod_mod]
    have seen : (system.copyToOam (page.toUInt16 <<< 8) count).peek
        (UInt16.ofNat (256 * page.toNat + count)) =
          system.peek (UInt16.ofNat (256 * page.toNat + count)) := by
      rw [copied, address.peek, address.peek]
    generalize byte : system.peek (UInt16.ofNat (256 * page.toNat + count)) = value at seen
    refine ⟨oam.set ((system.ppu.oamAddr.toNat + count) % 256) value, value, ?_, ?_, ?_⟩
    · rw [copyToOam, inPage page inside, address.read, seen, copied]
      simp only [drive, Ppu.writeOam, current, UInt8.ofNat_add, UInt8.add_assoc]
      rfl
    · intro place before
      rw [Vector.getElem_set]
      split
      · rename_i same
        obtain rfl : place = count := by omega
        exact byte.symm
      · exact bytes place (by omega)
    · rintro last same
      obtain rfl : count = last := by omega
      exact byte.symm

/-- A write of the page copies it: its bytes follow each other from the current place on, and what
else there is stays, but for the bus, which has seen the last byte. -/
theorem oamDma_stored {page : UInt8} (stored : page < 0x20 ∨ 0x60 ≤ page) :
    ∃ oam : Oam,
      system.write 0x4014 page =
        { system with
          ppu := { system.ppu with oam }
          openBus := system.peek (UInt16.ofNat (256 * page.toNat + 255))
          dmaPending := true } ∧
      ∀ place < 256, oam[(system.ppu.oamAddr.toNat + place) % 256]? =
        some (system.peek (UInt16.ofNat (256 * page.toNat + place))) := by
  obtain ⟨oam, openBus, copied, bytes, last⟩ :=
    @copyToOam_stored (system.drive page) page stored 256 (Nat.le_refl _)
  have same {place : Nat} (inside : place < 256) :
      (system.drive page).peek (UInt16.ofNat (256 * page.toNat + place)) =
        system.peek (UInt16.ofNat (256 * page.toNat + place)) := by
    rw [(stored_inPage stored inside).peek, (stored_inPage stored inside).peek]
    rfl
  refine ⟨oam, ?_, fun place inside => ?_⟩
  · have written : system.write 0x4014 page = (system.drive page).oamDma page := rfl
    rw [written, oamDma, copied, last 255 rfl, same (by decide)]
    simp [drive]
  · rw [Vector.getElem?_eq_getElem (Nat.mod_lt _ (by decide)), ← same inside]
    exact congrArg some (bytes place inside)

/-! ### What the copy costs -/

/-- The copy takes 513 cycles, and one more if the instruction has an odd number of cycles before
its last one, from power-on on. -/
theorem dmaDebt_toNat (pending : system.dmaPending = true) (cycles : UInt64) :
    (system.dmaDebt cycles).toNat = 513 + ((system.cycles + cycles).toNat - 1) % 2 := by
  have parity (cycle : UInt64) : (oamDmaCycles + (cycle &&& 1)).toNat = 513 + cycle.toNat % 2 := by
    have bit : (cycle &&& 1).toNat = cycle.toNat % 2 := by
      rw [UInt64.toNat_and]
      exact Nat.and_one_is_mod _
    rw [UInt64.toNat_add, bit]
    change (513 + cycle.toNat % 2) % 2 ^ 64 = _
    omega
  simp only [dmaDebt, pending, if_true, parity]
  split
  · rename_i zero
    rw [eq_of_beq zero]
    rfl
  · rename_i positive
    have least : (1 : UInt64) ≤ system.cycles + cycles := by
      rw [UInt64.le_iff_toNat_le]
      refine Nat.one_le_iff_ne_zero.mpr fun zero => positive (beq_of_eq ?_)
      exact UInt64.toNat_inj.mp zero
    rw [UInt64.toNat_sub_of_le _ _ least]
    rfl

theorem read_chips (system : System) (address : UInt16) :
    (system.read address).2.apu.state.dmc = system.apu.state.dmc ∧
      (system.read address).2.dmaPending = system.dmaPending := by
  simp only [read]
  repeat' split
  all_goals exact ⟨rfl, rfl⟩

theorem copyToOam_dmc (system : System) (page : UInt16) (count : Nat) :
    (system.copyToOam page count).apu.state.dmc = system.apu.state.dmc := by
  induction count with
  | zero => rfl
  | succ count ih => exact (read_chips _ _).1.trans ih

end System

theorem Dmc.write_bytesRemaining (dmc : Dmc) (register : UInt16) (data : UInt8) :
    (dmc.write register data).bytesRemaining = dmc.bytesRemaining := by
  unfold write
  split <;> rfl

/-- Only the register that switches channels on begins a sample. -/
theorem Apu.State.write_bytesRemaining (apu : Apu.State) {address : UInt16}
    (other : address ≠ 0x4015) (data : UInt8) :
    (apu.write address data).dmc.bytesRemaining = apu.dmc.bytesRemaining := by
  unfold write
  repeat' split
  all_goals first
    | rfl
    | exact apu.dmc.write_bytesRemaining address data
    | exact congrArg Dmc.bytesRemaining (apu.writeFrameCounter_dmc data)
    | grind

namespace System

variable {system : System}

theorem write_bytesRemaining (system : System) {address : UInt16} (other : address ≠ 0x4015)
    (data : UInt8) :
    (system.write address data).apu.state.dmc.bytesRemaining =
      system.apu.state.dmc.bytesRemaining := by
  have copied := (system.drive data).copyToOam_dmc (data.toUInt16 <<< 8) 256
  simp only [write]
  repeat' split
  all_goals first
    | rfl
    | exact congrArg Dmc.bytesRemaining copied
    | exact system.apu.state.write_bytesRemaining other data

theorem write_dmaPending (system : System) (address : UInt16) (data : UInt8)
    (copied : address = 0x4014 ∨ system.dmaPending = true) :
    (system.write address data).dmaPending = true := by
  rcases copied with rfl | pending
  · rfl
  · simp only [write]
    repeat' split
    all_goals first
      | exact pending
      | rfl

/-- The sample has ended, and a copy waits to be charged if one has been asked for. -/
structure Copied (recorder : Recorder System) : Prop where
  ended : recorder.bus.apu.state.dmc.bytesRemaining = 0
  pending : ∀ page, .write 0x4014 page ∈ recorder.recent → recorder.bus.dmaPending = true

theorem Copied.read {recorder : Recorder System} (copied : Copied recorder) (address : UInt16) :
    Copied (Bus.read recorder address).2 := by
  obtain ⟨dmc, pending⟩ := recorder.bus.read_chips address
  refine ⟨(congrArg Dmc.bytesRemaining dmc).trans copied.ended, fun page member => ?_⟩
  rcases List.mem_cons.mp member with now | before
  · cases now
  · exact pending.trans (copied.pending page before)

theorem Copied.write {recorder : Recorder System} (copied : Copied recorder) {address : UInt16}
    (other : address ≠ 0x4015) (data : UInt8) : Copied (Bus.write recorder address data) := by
  refine ⟨(recorder.bus.write_bytesRemaining other data).trans copied.ended, fun page member => ?_⟩
  apply recorder.bus.write_dmaPending address data
  rcases List.mem_cons.mp member with now | before
  · cases now
    exact .inl rfl
  · exact .inr (copied.pending page before)

end System

namespace Machine

variable {machine : Machine System}

/-- Once the sample has ended and no copy waits to be charged, settling spends what is owed and no
more. -/
theorem settle_ended {owed : UInt64} (played : machine.bus.Ended owed)
    (pending : machine.bus.dmaPending = false) (paid : machine.cpu.stall = 0) (rounds : Nat) :
    (machine.settle (rounds + 2)).cpu.cycles = machine.cpu.cycles + owed := by
  have debt : machine.takeStall.1 = owed := by
    change machine.cpu.stall + machine.bus.stall = owed
    rw [paid, played.stall, UInt64.zero_add]
  have quiet : machine.takeStall.2.bus.Quiet := ⟨⟨played.dmc, rfl⟩, played.ended, pending⟩
  rw [settle]
  simp only [debt]
  split
  · rename_i nothing
    rw [eq_of_beq nothing, UInt64.add_zero]
    rfl
  · have after : ((machine.takeStall.2.charge owed).tick owed).takeStall.1 = 0 := by
      change 0 + (machine.takeStall.2.bus.tick owed).stall = 0
      rw [(quiet.tick owed).stall, UInt64.zero_add]
    simp only [settle, after, beq_self_eq_true, if_true]
    rfl

/-- What asks for a copy of object memory is an instruction that costs what the table says. The
copy then waits to be charged, and no sample has begun. -/
theorem AtRest.serve_asked (rest : machine.AtRest)
    (ended : machine.bus.apu.state.dmc.bytesRemaining = 0) {page : UInt8}
    (asked : .write 0x4014 page ∈ machine.recorded.step.2.bus.accesses) :
    machine.turn = .instruction machine.latchNmi.decoded ∧
      machine.latchNmi.serve.cpu.clock =
        (machine.cpu.cycles + machine.latchNmi.decoded.cycles.toUInt64, machine.cpu.stall) ∧
      machine.latchNmi.serve.bus.Ended 0 ∧ machine.latchNmi.serve.bus.dmaPending = true := by
  have outside {address : UInt16} (high : 0x200 ≤ address.toNat) (sp : UInt8) :
      address ≠ stackAddress sp := by
    rintro rfl
    have place := toNat_stackAddress sp
    have bound := sp.toNat_lt
    omega
  obtain ⟨turn, writes, recorded⟩ := written_by_instruction asked (outside (by decide))
  have executed : machine.recorded.latchNmi.serve = machine.recorded.latchNmi.execute :=
    machine.recorded.serve_instruction turn
  obtain ⟨cpu, bus⟩ := machine.recorded_serve
  have clock := execute_clock (stores_of_destination writes)
  rw [← executed, cpu] at clock
  have copied : System.Copied machine.recorded.latchNmi.serve.bus := by
    rw [executed]
    refine execute_keeps System.Copied.read ?_ ?_ ⟨ended, fun page member => nomatch member⟩
    · exact fun copied sp data => copied.write (outside (by decide) sp).symm data
    · rintro address destination recorder copied data
      obtain rfl := Option.some.inj (writes.symm.trans destination)
      exact copied.write (by decide) data
  have latched : machine.latchNmi.bus.Settled :=
    System.Settled.pollNmi ⟨Dmc.validate_iff.mp rest.dmc, rest.bus⟩
  have settled : machine.latchNmi.serve.bus.Settled :=
    serve_preserves System.Settled.read System.Settled.write latched
  exact ⟨turn, clock, ⟨settled.dmc, bus ▸ copied.ended, settled.stall⟩,
    bus ▸ copied.pending page recorded⟩

/-- Between two steps, and with the sample ended, an instruction that asks for a copy of object
memory takes its own cycles and those of one copy. -/
theorem AtRest.step_copy (rest : machine.AtRest)
    (ended : machine.bus.apu.state.dmc.bytesRemaining = 0) {page : UInt8}
    (asked : .write 0x4014 page ∈ machine.recorded.step.2.bus.accesses) :
    ∃ opcode, machine.turn = .instruction opcode ∧
      machine.step.1.toNat = opcode.cycles.toNat + 513 +
        ((machine.bus.cycles + opcode.cycles.toUInt64).toNat - 1) % 2 := by
  obtain ⟨turn, clock, played, waiting⟩ := rest.serve_asked ended asked
  have running := (turn_eq_instruction_iff.mp turn).1
  obtain ⟨counted, requested⟩ := Prod.mk.inj clock
  generalize machine.latchNmi.decoded = opcode at turn counted
  have passing : machine.latchNmi.serve.cpu.cycles - machine.cpu.cycles =
      opcode.cycles.toUInt64 := by
    rw [counted, UInt64.add_comm, UInt64.add_sub_cancel]
  have served : machine.served = machine.latchNmi.serve.tick opcode.cycles.toUInt64 := by
    rw [Machine.served]
    simp only [passing]
  have charged := played.tick opcode.cycles.toUInt64
  rw [UInt64.zero_add] at charged
  have debt := System.dmaDebt_toNat waiting opcode.cycles.toUInt64
  have early : machine.latchNmi.serve.bus.cycles = machine.bus.cycles :=
    (serve_elapses .none).cycles.trans (UInt64.add_zero _)
  rw [early] at debt
  generalize machine.latchNmi.serve.bus.dmaDebt opcode.cycles.toUInt64 = owed at charged debt
  have spent : (machine.served.settle settleRounds).cpu.cycles =
      machine.cpu.cycles + opcode.cycles.toUInt64 + owed := by
    rw [served, ← counted]
    exact @settle_ended (machine.latchNmi.serve.tick opcode.cycles.toUInt64) owed charged
      (System.tick_dmaPending _ _) (requested.trans rest.cpu) 62
  have few := opcode.cycles.toNat_lt
  refine ⟨opcode, turn, ?_⟩
  rw [step_eq machine running]
  dsimp only
  rw [spent, UInt64.add_assoc, UInt64.add_comm, UInt64.add_sub_cancel, UInt64.toNat_add, debt,
    UInt8.toNat_toUInt64]
  omega

end Machine

end Nes
