import Nes.Proofs.Bus.Elapsed
import Nes.Proofs.Checked.System

/-!
The processor with every operation asked for, on a bus that asks. What stopped the bus stops the
processor before it counts further cycles, so that an overrun of its 64-bit counter never hides
another reason. On a sound system there is no other reason, and not even this one where the count
has room.
-/

namespace Nes

open Checked

namespace Checked

variable {α β : Type} {fits : Prop}

/-- An outcome that has a property, or an overrun of a 64-bit counter where counts need not fit. -/
def Proceeds (fits : Prop) (checked : Checked α) (holds : α → Prop) : Prop :=
  match checked with
  | .ok value => holds value
  | .error trap => trap = .counter ∧ ¬ fits

theorem Proceeds.ok {holds : α → Prop} {value : α} (held : holds value) :
    Proceeds fits (.ok value) holds := held

theorem Proceeds.bind {checked : Checked α} {next : α → Checked β} {holds : α → Prop}
    {after : β → Prop} (first : Proceeds fits checked holds)
    (rest : ∀ value, holds value → Proceeds fits (next value) after) :
    Proceeds fits (checked >>= next) after := by
  cases checked with
  | ok value => exact rest value first
  | error trap => exact first

theorem Proceeds.eq_or {checked : Checked α} {value : α}
    (proceeds : Proceeds fits checked (· = value)) :
    checked = .ok value ∨ checked = .error .counter := by
  cases checked with
  | ok other => exact .inl (congrArg Except.ok proceeds)
  | error trap => exact .inr (congrArg Except.error proceeds.1)

theorem Proceeds.eq_ok {checked : Checked α} {value : α}
    (proceeds : Proceeds fits checked (· = value)) (fit : fits) : checked = .ok value := by
  cases checked with
  | ok other => exact congrArg Except.ok proceeds
  | error trap => exact absurd fit proceeds.2

end Checked

/-! ### The adder -/

namespace Cpu

/-- The sum is one of two words of 16 bits and the carry. -/
def addChecked (cpu : Cpu) (value : UInt8) : Checked Cpu := do
  let sum ← Checked.add (← Checked.add cpu.a.toUInt16 value.toUInt16) cpu.carry.toUInt16
  let result := sum.toUInt8
  let overflow := (value ^^^ result) &&& (result ^^^ cpu.a) &&& 0x80 != 0
  return ((cpu.withFlag .carry (0xFF < sum)).withFlag .overflow overflow).withA result

/-- No accumulator, value and carry are too much for the adder. -/
theorem addChecked_eq (cpu : Cpu) (value : UInt8) : cpu.addChecked value = .ok (cpu.add value) := by
  have first := cpu.a.toNat_lt
  have second := value.toNat_lt
  have third : cpu.carry.toNat ≤ 1 := by
    unfold carry
    split <;> decide
  have pair : (cpu.a.toUInt16 + value.toUInt16).toNat = cpu.a.toNat + value.toNat := by
    rw [UInt16.toNat_add, UInt8.toNat_toUInt16, UInt8.toNat_toUInt16]
    omega
  have total : (cpu.a.toUInt16 + value.toUInt16 + cpu.carry.toUInt16).toNat =
      cpu.a.toNat + value.toNat + cpu.carry.toNat := by
    rw [UInt16.toNat_add, pair, UInt8.toNat_toUInt16]
    omega
  have fits : cpu.a.toUInt16.toNat + value.toUInt16.toNat < 2 ^ 16 := by
    rw [UInt8.toNat_toUInt16, UInt8.toNat_toUInt16]
    omega
  have further : (cpu.a.toUInt16 + value.toUInt16).toNat + cpu.carry.toUInt16.toNat < 2 ^ 16 := by
    rw [pair, UInt8.toNat_toUInt16]
    omega
  have result : (cpu.a.toUInt16 + value.toUInt16 + cpu.carry.toUInt16).toUInt8 =
      UInt8.ofNat (cpu.a.toNat + value.toNat + cpu.carry.toNat) := by
    rw [← total]
    rfl
  have carries : (0xFF < cpu.a.toUInt16 + value.toUInt16 + cpu.carry.toUInt16) ↔
      0xFF < cpu.a.toNat + value.toNat + cpu.carry.toNat := by
    rw [← total, UInt16.lt_iff_toNat_lt]
    rfl
  rw [addChecked, add_ok _ _ fits, ok_bind, add_ok _ _ further, ok_bind]
  simp only [add, result, carries]
  rfl

end Cpu

/-! ### Instructions and interrupt entries -/

def Opcode.ofByteChecked (byte : UInt8) : Checked Opcode := do
  entry (← entry table (byte.toNat / 16)) (byte.toNat % 16)

theorem Opcode.ofByteChecked_eq (byte : UInt8) : ofByteChecked byte = .ok (ofByte byte) := by
  have small := byte.toNat_lt
  have row : byte.toNat / 16 < 16 := by omega
  rw [ofByteChecked, entry_ok row, ok_bind, entry_ok (Nat.mod_lt _ (by decide))]
  rfl

namespace Machine

/-- Counts cycles on a bus that runs on. -/
def chargeChecked (machine : Machine (Checked System)) (cycles : UInt64) :
    Checked (Machine (Checked System)) := do
  let _ ← machine.bus
  let cycles ← count machine.cpu.cycles cycles
  return machine.mapCpu ({ · with cycles })

def branchChecked (machine : Machine (Checked System)) (condition : Bool) (target : UInt16) :
    Checked (Machine (Checked System)) :=
  if condition then do
    let extra := if crossesPage machine.cpu.pc target then 2 else 1
    return (← machine.chargeChecked extra).jump target
  else return machine

/-- Only a branch counts cycles of its own. -/
def performChecked (machine : Machine (Checked System)) (opcode : Opcode) (operand : Operand) :
    Checked (Machine (Checked System)) :=
  match opcode.mnemonic.operation with
  | .branch condition => machine.branchChecked (condition machine.cpu) operand.address
  | _ => return machine.perform opcode operand

def executeChecked (machine : Machine (Checked System)) : Checked (Machine (Checked System)) := do
  let (byte, machine) := machine.fetchByte
  let opcode ← Opcode.ofByteChecked byte
  let (operand, machine) := machine.operand opcode
  let machine ← machine.chargeChecked (baseCycles opcode operand)
  let before := machine.cpu.has .interruptDisable
  let machine ← machine.performChecked opcode operand
  return machine.mapCpu fun cpu =>
    { cpu with
      irqInhibit :=
        if opcode.mnemonic.delaysMask then before else cpu.has .interruptDisable }

def interruptChecked (machine : Machine (Checked System)) (vector : UInt16) :
    Checked (Machine (Checked System)) :=
  let machine := machine.enter machine.cpu.interruptStatus vector
  (machine.mapCpu ({ · with irqInhibit := true })).chargeChecked interruptCycles

def serveChecked (machine : Machine (Checked System)) : Checked (Machine (Checked System)) :=
  match machine.next with
  | .nmi => (machine.mapCpu ({ · with nmiPending := false })).interruptChecked nmiVector
  | .irq => machine.interruptChecked irqVector
  | .instruction => machine.executeChecked

/-! ### Steps -/

def settleChecked : Nat → Machine (Checked System) → Checked (Machine (Checked System))
  | 0, machine => return machine
  | rounds + 1, machine =>
    let (owed, machine) := machine.takeStall
    if owed == 0 then return machine
    else do settleChecked rounds ((← machine.chargeChecked owed).tick owed)

/-- The cycles that have passed are differences of counts. -/
def stepChecked (machine : Machine (Checked System)) :
    Checked (UInt64 × Machine (Checked System)) :=
  if machine.cpu.halted then return (0, machine)
  else do
    let start := machine.cpu.cycles
    let machine ← machine.latchNmi.serveChecked
    let machine := machine.tick (← sub machine.cpu.cycles start)
    let machine ← machine.settleChecked settleRounds
    return (← sub machine.cpu.cycles start, machine)

def resetChecked (machine : Machine (Checked System)) : Checked (Machine (Checked System)) := do
  let machine := machine.mapCpu fun cpu =>
    { cpu.withFlag .interruptDisable true with sp := cpu.sp - 3, irqInhibit := true }
  let (target, machine) := machine.readWord resetVector
  let machine := machine.mapCpu
    ({ · with pc := target, halted := false, nmiPending := false, stall := 0 })
  return (← machine.chargeChecked interruptCycles).tick interruptCycles

/-! ### Room to count -/

/-- Nothing is owed, and the counter has room for a number of steps of 600 cycles. -/
structure Room (machine : Machine System) (steps : Nat) : Prop where
  rest : machine.AtRest
  count : machine.cpu.cycles.toNat + 600 * steps < UInt64.size

theorem Room.fewer {machine : Machine System} {steps less : Nat} (room : machine.Room steps)
    (fewer : less ≤ steps) : machine.Room less := by
  obtain ⟨rest, count⟩ := room
  exact ⟨rest, by omega⟩

theorem Room.step {machine : Machine System} {steps : Nat} (room : machine.Room (steps + 1)) :
    machine.step.2.Room steps := by
  obtain ⟨rest, count⟩ := room
  refine ⟨rest.step_sound.2.2, ?_⟩
  cases halted : machine.cpu.halted with
  | true =>
    simp only [step_halted machine halted]
    omega
  | false =>
    obtain ⟨elapsed, -, most, -, counted, -⟩ := rest.step_elapses halted
    have few : elapsed < UInt64.size := Nat.lt_of_le_of_lt most (by decide)
    rw [counted, UInt64.toNat_add, UInt64.toNat_ofNat_of_lt' few]
    apply Nat.lt_of_le_of_lt (Nat.add_le_add_right (Nat.mod_le _ _) _)
    omega

/-! ### Sound systems -/

/-- The machine is the one that it would be if nothing were asked, and has counted on from a start
without an overrun; where counts are to fit there is room for more. -/
structure Ahead (origin : Cartridge) (rate : Float) (fits : Prop) (start : UInt64) (room : Nat)
    (first : Machine (Checked System)) (second : Machine System) : Prop
    extends Matches (Follows origin rate) first second where
  later : start ≤ second.cpu.cycles
  room : fits → second.cpu.cycles.toNat + room < UInt64.size

variable {origin : Cartridge} {rate : Float} {fits : Prop} {start : UInt64} {room less : Nat}
variable {first : Machine (Checked System)} {second : Machine System}

theorem Ahead.reserve (ahead : Ahead origin rate fits start room first second)
    (enough : fits → less ≤ room) : Ahead origin rate fits start less first second where
  toMatches := ahead.toMatches
  later := ahead.later
  room fit := by
    have wide := ahead.room fit
    have narrow := enough fit
    omega

/-- What leaves the machines matching and the counter alone leaves them ahead. -/
theorem Ahead.keep {next : Machine (Checked System)} {after : Machine System}
    (ahead : Ahead origin rate fits start room first second)
    (same : Matches (Follows origin rate) next after)
    (clock : after.cpu.clock = second.cpu.clock) :
    Ahead origin rate fits start room next after := by
  have cycles : after.cpu.cycles = second.cpu.cycles := congrArg Prod.fst clock
  exact ⟨same, cycles ▸ ahead.later, cycles ▸ ahead.room⟩

theorem Ahead.chargeChecked (ahead : Ahead origin rate fits start room first second)
    {cycles : UInt64} (enough : fits → cycles.toNat + less ≤ room) :
    Proceeds fits (first.chargeChecked cycles)
      (Ahead origin rate fits start less · (second.charge cycles)) := by
  obtain ⟨⟨cpu, bus, sound⟩, later, wide⟩ := ahead
  rw [Machine.chargeChecked, bus, ok_bind, cpu, count]
  split
  · rename_i counts
    have total : (second.cpu.cycles + cycles).toNat = second.cpu.cycles.toNat + cycles.toNat := by
      rw [UInt64.toNat_add]
      exact Nat.mod_eq_of_lt counts
    have counted : start ≤ second.cpu.cycles + cycles := by
      rw [UInt64.le_iff_toNat_le] at later ⊢
      rw [total]
      exact Nat.le_add_right_of_le later
    have left (fit : fits) : (second.cpu.cycles + cycles).toNat + less < UInt64.size := by
      have below := wide fit
      have spent := enough fit
      omega
    refine Proceeds.ok ⟨⟨?_, bus, sound⟩, counted, left⟩
    exact congrArg (fun cpu : Cpu => { cpu with cycles := second.cpu.cycles + cycles }) cpu
  · rename_i overruns
    refine ⟨rfl, fun fit => overruns ?_⟩
    have below := wide fit
    have spent := enough fit
    omega

variable (full : origin.Full)
include full

theorem Ahead.performChecked (ahead : Ahead origin rate fits start room first second)
    (enough : fits → 2 + less ≤ room) (opcode : Opcode) (operand : Operand) :
    Proceeds fits (first.performChecked opcode operand)
      (Ahead origin rate fits start less · (second.perform opcode operand)) := by
  have done := ahead.toMatches.perform (simulates full).toRespects opcode operand
  have free := @perform_clock _ second _ opcode operand
  have kept := ahead.reserve fun fit => Nat.le_of_add_left_le (enough fit)
  unfold Machine.performChecked
  split
  · rename_i condition branches
    simp only [Machine.perform, branches, branchChecked, Machine.branch, ahead.cpu]
    split
    · have short :
          (if crossesPage second.cpu.pc operand.address then (2 : UInt64) else 1).toNat ≤ 2 := by
        split <;> decide
      have spent (fit : fits) := Nat.le_trans (Nat.add_le_add_right short less) (enough fit)
      apply (ahead.chargeChecked spent).bind
      intro next charged
      exact Proceeds.ok (charged.keep (charged.toMatches.jump _) rfl)
    · exact Proceeds.ok kept
  · rename_i straight
    apply Proceeds.ok
    apply kept.keep done
    apply free
    cases kind : opcode.mnemonic.operation with
    | branch condition => exact absurd kind (straight condition)
    | _ => rfl

theorem Ahead.executeChecked (ahead : Ahead origin rate fits start room first second)
    (enough : fits → 10 + less ≤ room) :
    Proceeds fits first.executeChecked
      (Ahead origin rate fits start less · second.execute) := by
  have respects := (@simulates origin rate full).toRespects
  have byte := ahead.toMatches.fetchByte respects
  have operand := byte.machine.operand respects (Opcode.ofByte second.fetchByte.1)
  obtain ⟨-, most, -⟩ := Opcode.ofByte_cycles second.fetchByte.1
  obtain ⟨-, base⟩ := baseCycles_toNat
    (second.fetchByte.2.operand (Opcode.ofByte second.fetchByte.1)).1 most
  have found := ahead.keep operand.machine
    (second.fetchByte.2.operand_clock (Opcode.ofByte second.fetchByte.1))
  simp only [Machine.executeChecked, Machine.execute, byte.answer, Opcode.ofByteChecked_eq,
    ok_bind, operand.answer]
  have spent {cycles : Nat} (few : cycles ≤ 8) (fit : fits) : cycles + (2 + less) ≤ room := by
    have wide := enough fit
    omega
  apply (found.chargeChecked (spent base)).bind
  intro charged counted
  rw [counted.cpu]
  apply (counted.performChecked full (fun _ => Nat.le_refl _) _ _).bind
  intro done performed
  exact Proceeds.ok (performed.keep (performed.toMatches.mapCpu _) rfl)

theorem Ahead.interruptChecked (ahead : Ahead origin rate fits start room first second)
    (enough : fits → 10 + less ≤ room) (vector : UInt16) :
    Proceeds fits (first.interruptChecked vector)
      (Ahead origin rate fits start less · (second.interrupt vector)) := by
  have entered := ahead.toMatches.enter (simulates full).toRespects
    second.cpu.interruptStatus vector
  have masked := ahead.keep (entered.mapCpu ({ · with irqInhibit := true })) rfl
  have seven : interruptCycles.toNat ≤ 10 := by decide
  rw [Machine.interruptChecked, ahead.cpu]
  exact masked.chargeChecked fun fit =>
    Nat.le_trans (Nat.add_le_add_right seven less) (enough fit)

theorem Ahead.serveChecked (ahead : Ahead origin rate fits start room first second)
    (enough : fits → 10 + less ≤ room) :
    Proceeds fits first.serveChecked (Ahead origin rate fits start less · second.serve) := by
  have line : Bus.irqLine first.bus = Bus.irqLine second.bus :=
    (simulates full).irqLine ahead.bus
  have next : first.next = second.next := by
    simp only [Machine.next, ahead.cpu, line]
  unfold Machine.serveChecked Machine.serve
  rw [next]
  cases second.next with
  | nmi =>
    have taken := ahead.keep (ahead.toMatches.mapCpu ({ · with nmiPending := false })) rfl
    exact taken.interruptChecked full enough nmiVector
  | irq => exact ahead.interruptChecked full enough irqVector
  | instruction => exact ahead.executeChecked full enough

theorem Ahead.tick (ahead : Ahead origin rate fits start room first second) (cycles : UInt64) :
    Ahead origin rate fits start room (first.tick cycles) (second.tick cycles) :=
  ahead.keep (ahead.toMatches.tick (simulates full) cycles) rfl

/-- Where counts are to fit there must be room for the debt. -/
theorem Ahead.settleChecked (ahead : Ahead origin rate fits start room first second)
    (enough : fits → second.Charged ∧ second.debt ≤ 107 * room) (rounds : Nat) :
    Proceeds fits (first.settleChecked rounds)
      (Ahead origin rate fits start 0 · (second.settle rounds)) := by
  induction rounds generalizing first second room with
  | zero => exact Proceeds.ok (ahead.reserve fun _ => Nat.zero_le room)
  | succ rounds ih =>
    have taken := ahead.toMatches.takeStall (simulates full)
    have paid : Ahead origin rate fits start room first.takeStall.2 second.takeStall.2 :=
      ⟨taken.machine, ahead.later, ahead.room⟩
    simp only [Machine.settleChecked, Machine.settle, taken.answer]
    split
    · exact Proceeds.ok (paid.reserve fun _ => Nat.zero_le room)
    · -- a round spends what was owed and leaves no more debt than the rest of the room allows
      have left (fit : fits) : second.takeStall.1.toNat + (room - second.takeStall.1.toNat) ≤ room ∧
          second.spend.Charged ∧
          second.spend.debt ≤ 107 * (room - second.takeStall.1.toNat) := by
        obtain ⟨charged, within⟩ := enough fit
        obtain ⟨next, rest⟩ := charged.spend_debt
        rw [debt] at within
        exact ⟨by omega, next, by omega⟩
      apply (paid.chargeChecked fun fit => (left fit).1).bind
      intro next charged
      exact ih (charged.tick full _) fun fit => (left fit).2

/-- On a sound system nothing but an overrun of the counter stops a step. -/
theorem Matches.stepChecked (same : Matches (Follows origin rate) first second)
    (room : fits → second.Room 1) :
    Proceeds fits first.stepChecked (Agrees (Follows origin rate) · second.step) := by
  unfold Machine.stepChecked Machine.step Machine.stepWithin
  rw [same.cpu]
  split
  · exact Proceeds.ok ⟨rfl, same⟩
  · have latched :
        Ahead origin rate fits second.cpu.cycles 600 first.latchNmi second.latchNmi :=
      ⟨same.latchNmi (simulates full), UInt64.le_refl _, fun fit => (room fit).count⟩
    have owed (fit : fits) : second.served.Charged ∧ second.served.debt ≤ 107 * 590 := by
      obtain ⟨charged, cycles, -, most, -, debt⟩ := (room fit).rest.served
      exact ⟨charged, by omega⟩
    apply (latched.serveChecked full fun _ => (by decide : 10 + 590 ≤ 600)).bind
    intro served ahead
    rw [ahead.cpu, sub_ok _ _ (UInt64.le_iff_toNat_le.mp ahead.later), ok_bind]
    apply ((ahead.tick full _).settleChecked full owed _).bind
    intro settled last
    rw [last.cpu, sub_ok _ _ (UInt64.le_iff_toNat_le.mp last.later)]
    exact Proceeds.ok ⟨rfl, last.toMatches⟩

theorem Matches.resetChecked (same : Matches (Follows origin rate) first second)
    (room : fits → second.cpu.cycles.toNat + 600 < UInt64.size) :
    Proceeds fits first.resetChecked (Matches (Follows origin rate) · second.reset) := by
  have masked := same.mapCpu fun cpu =>
    { cpu.withFlag .interruptDisable true with sp := cpu.sp - 3, irqInhibit := true }
  have target := masked.readWord (simulates full).toRespects resetVector
  have started : Ahead origin rate fits 0 600 _ _ :=
    ⟨target.machine.mapCpu ({ · with
      pc := ((second.mapCpu fun cpu =>
        { cpu.withFlag .interruptDisable true with sp := cpu.sp - 3, irqInhibit := true }).readWord
          resetVector).1
      halted := false
      nmiPending := false
      stall := 0 }), UInt64.zero_le, room⟩
  simp only [Machine.resetChecked, Machine.reset, target.answer]
  apply (started.chargeChecked fun _ => (by decide : interruptCycles.toNat + 0 ≤ 600)).bind
  intro next charged
  exact Proceeds.ok (charged.tick full _).toMatches

end Machine

end Nes
