import Nes.Proofs.Audio.Playback
import Nes.Proofs.Bus.Debt

/-!
Playback of a sample in the system. While cycles pass, the sample channel goes on by itself, and
each byte that it reads costs the processor four cycles.
-/

namespace Nes

namespace System

open Dmc (record)

/-- The memory that the sample channel finds in a cycle. -/
def heard (system : System) (cycle : Nat) : UInt16 → UInt8 :=
  let drawn := (run cycle system).stepPpu.stepPpu.stepPpu
  sampleMemory drawn.ram drawn.cart drawn.openBus

theorem run_succ (count : Nat) (system : System) :
    run (count + 1) system = (run count system).cycle := by
  induction count generalizing system with
  | zero => rfl
  | succ count ih => exact ih system.cycle

/-- What so many reads cost. -/
def readCost (count : Nat) : UInt64 := 4 * UInt64.ofNat count

theorem readCost_add (first second : Nat) :
    readCost (first + second) = readCost first + readCost second := by
  rw [readCost, UInt64.ofNat_add, UInt64.mul_add]
  rfl

/-- A cycle moves the channel on and charges what the channel reads. -/
theorem cycle_dmc (system : System) :
    let step := system.apu.state.dmc.step (system.heard 0)
    system.cycle.apu.state.dmc = step.2 ∧
      system.cycle.stall = system.stall + readCost step.1.toList.length := by
  intro step
  let drawn := system.stepPpu.stepPpu.stepPpu
  obtain ⟨read, channel⟩ := drawn.apu.step_dmc (system.heard 0)
  obtain ⟨fetched, apu, stepped, sounded⟩ := drawn.stepApu_eq
  have heard : drawn.apu.step (system.heard 0) = (fetched, apu) := stepped
  rw [heard] at read channel
  have cost : (if fetched.isSome then system.stall + Dmc.stallCycles else system.stall) =
      system.stall + readCost fetched.toList.length := by
    cases fetched with
    | none => exact (UInt64.add_zero _).symm
    | some address => rfl
  have turned : system.cycle = drawn.stepApu.finish := system.cycle_eq
  rw [turned, sounded]
  exact ⟨channel, cost.trans
    (congrArg (fun read => system.stall + readCost (Option.toList read).length) read)⟩

/-- While cycles pass, the channel's recording goes on, and each read in it is charged once. -/
theorem run_record (system : System) (count : Nat) :
    let tape := record system.heard system.apu.state.dmc count
    (run count system).apu.state.dmc = tape.dmc ∧
      (run count system).stall = system.stall + readCost tape.addresses.length := by
  induction count with
  | zero => exact ⟨rfl, (UInt64.add_zero _).symm⟩
  | succ count ih =>
    obtain ⟨channel, stall⟩ := ih
    obtain ⟨next, cost⟩ := (run count system).cycle_dmc
    have heard : (run count system).heard 0 = system.heard count := rfl
    rw [heard, channel] at next cost
    rw [run_succ, next, cost, stall]
    refine ⟨rfl, ?_⟩
    rw [UInt64.add_assoc, ← readCost_add]
    exact congrArg (fun count => system.stall + readCost count) List.length_append.symm

end System

/-- A sample that is started on an idle channel is read from its first to its last byte, then again
or up to an interrupt, at four cycles for each byte. From the cycle in which the shift register takes
the first byte, the bits of these bytes follow each other at the sample's rate, least significant
first, none of them left out or repeated, and nothing else moves the level. -/
theorem Dmc.record_started {dmc : Dmc} (valid : dmc.validate = .ok ())
    (ended : dmc.bytesRemaining = 0) (empty : dmc.sampleBuffer = none)
    (silent : dmc.silence = true) (control address length : UInt8)
    (memory : Nat → UInt16 → UInt8) (count : Nat) :
    let sample := Sample.ofRegisters control address length
    let start := dmc.started control address length
    let tape := record memory start count
    let time := (count - (start.wait + 1)) / sample.rate
    (tape.addresses.map UInt16.toNat =
        (List.range (sample.cap 1 (sample.due start.wait count))).map sample.place ∧
      (∀ contents, (∀ cycle, memory cycle = contents) →
        tape.bytes = tape.addresses.map contents) ∧
      ∀ system : System, system.apu.state.dmc = start → system.heard = memory →
        (System.run count system).apu.state.dmc = tape.dmc ∧
          (System.run count system).stall =
            system.stall + System.readCost tape.addresses.length) ∧
    ((tape.dmc.active = true ↔
        sample.looping = true ∨ tape.addresses.length < sample.length) ∧
      (tape.dmc.irqPending = true ↔ sample.irqEnabled = true ∧ sample.looping = false ∧
        tape.addresses.length = sample.length)) ∧
    tape.bits = (tape.bytes.flatMap (lowBits 8)).take time ∧
    tape.bits.length = sample.cap 8 time ∧
    tape.dmc.outputLevel.toNat = tape.bits.foldl moved dmc.outputLevel.toNat := by
  intro sample start tape time
  have ready : start.Ready sample :=
    started_ready (validate_iff.mp valid) ended empty silent control address length
  have reads := ready.record_reads memory count
  have faithful := ready.record_faithful memory count
  obtain ⟨read, played⟩ := ready.record_length memory count
  refine ⟨⟨?_, ?_, ?_⟩, ⟨reads.active_iff, ?_⟩, ready.record_bits memory count, played, ?_⟩
  · rw [← read]
    exact reads.addresses
  · intro contents constant
    exact record_bytes constant start count
  · intro system channel heard
    have recorded := system.run_record count
    rw [heard, channel] at recorded
    exact recorded
  · rw [reads.irqPending, Bool.and_eq_true, Bool.and_eq_true, beq_iff_eq, Bool.not_eq_true',
      and_assoc]
  · have level : start.outputLevel = dmc.outputLevel :=
      (congrArg Dmc.outputLevel (started_eq ended control address length)).trans rfl
    exact level ▸ faithful.level

/-- A sample over the end of memory: 64 bytes from `0xFFC0`, and the last one at `0x8000`. -/
theorem Dmc.record_started_wraps :
    let tape := record (fun _ address => address.toUInt8) (({} : Dmc).started 0x8F 0xFF 0x04) 28460
    tape.addresses.map UInt16.toNat = List.range' 0xFFC0 64 ++ [0x8000] ∧
      tape.dmc.active = false ∧ tape.dmc.irqPending = true ∧ tape.bits.length = 520 := by
  have valid : ({} : Dmc).validate = .ok () :=
    Dmc.validate_iff.mpr Apu.State.powerOn_bounded.dmc
  obtain ⟨⟨addresses, -⟩, ⟨active, irqPending⟩, -, bits, -⟩ :=
    Dmc.record_started valid rfl rfl rfl 0x8F 0xFF 0x04 (fun _ address => address.toUInt8) 28460
  generalize record (fun _ address => address.toUInt8) (({} : Dmc).started 0x8F 0xFF 0x04) 28460 =
    tape at *
  have places : (List.range ((Sample.ofRegisters 0x8F 0xFF 0x04).cap 1
      ((Sample.ofRegisters 0x8F 0xFF 0x04).due (({} : Dmc).started 0x8F 0xFF 0x04).wait 28460))).map
      (Sample.ofRegisters 0x8F 0xFF 0x04).place = List.range' 0xFFC0 64 ++ [0x8000] := by
    decide +kernel
  rw [places] at addresses
  have count : tape.addresses.length = 65 := by
    rw [← List.length_map, addresses]
    rfl
  rw [count] at active irqPending
  have ended : ¬ tape.dmc.active = true := mt active.mp (by decide +kernel)
  exact ⟨addresses, Bool.eq_false_iff.mpr ended, irqPending.mpr (by decide +kernel),
    bits.trans (by decide +kernel)⟩

end Nes
