import Nes.Proofs.Cpu.Flat

/-!
Undocumented instructions that do the work of two documented ones. On flat memory each of them
leaves the registers, the flags and the memory as its two parts do, one after the other at the same
address; only the place in the program and the cycles tell them apart.
-/

namespace Nes

/-- An undocumented instruction with the two documented ones whose work it does. -/
inductive Mnemonic.Combines : Mnemonic → Mnemonic → Mnemonic → Prop where
  | slo : Combines .slo .asl .ora
  | rla : Combines .rla .rol .and
  | sre : Combines .sre .lsr .eor
  | rra : Combines .rra .ror .adc
  | dcp : Combines .dcp .dec .cmp
  | isb : Combines .isb .inc .sbc
  | lax : Combines .lax .lda .ldx

namespace Cpu

/-- The processor but for its place in the program and its count of cycles. -/
def placeless (cpu : Cpu) : Cpu := { cpu with pc := 0, cycles := 0 }

/-- The same without the mask as the next poll sees it, which every instruction sets anew. -/
def core (cpu : Cpu) : Cpu := { cpu.placeless with irqInhibit := false }

theorem placeless_eq {first second : Cpu} (core : first.core = second.core)
    (inhibit : first.irqInhibit = second.irqInhibit) : first.placeless = second.placeless := by
  have whole (cpu : Cpu) : cpu.placeless = { cpu.core with irqInhibit := cpu.irqInhibit } := rfl
  rw [whole, whole, core, inhibit]

/-- Two equal results in a row set the flags once. -/
theorem withResult_withResult (cpu : Cpu) (value : UInt8) :
    (cpu.withResult value).withResult value = cpu.withResult value := by
  have all (zero negative : Bool) (status : UInt8) :
      let flags : UInt8 → UInt8 := fun status =>
        let status := if zero then status ||| Flag.zero.mask else status &&& ~~~Flag.zero.mask
        if negative then status ||| Flag.negative.mask else status &&& ~~~Flag.negative.mask
      flags (flags status) = flags status := by
    revert status
    refine byte_all _ ?_
    cases zero <;> cases negative <;> decide +kernel
  exact congrArg (fun status => { cpu with status }) (all _ _ cpu.status)

theorem withX_withA (cpu : Cpu) (value : UInt8) :
    (cpu.withA value).withX value = cpu.loadBoth value :=
  ({ cpu with a := value, x := value } : Cpu).withResult_withResult value

end Cpu

namespace Mnemonic.Combines

variable {whole first second : Mnemonic}

/-- A pair replaces the operand and then reads it, or reads it twice. -/
theorem operation_cases (pair : Combines whole first second) :
    (∃ change effect, whole.operation = .modify change effect ∧
      first.operation = .modify change only ∧ second.operation = .read effect) ∨
    (whole.operation = .read Cpu.loadBoth ∧ first.operation = .read Cpu.withA ∧
      second.operation = .read Cpu.withX) := by
  cases pair
  case lax => exact .inr ⟨rfl, rfl, rfl⟩
  all_goals exact .inl ⟨_, _, rfl, rfl, rfl⟩

/-- None of them delays what it does to the interrupt mask. -/
theorem prompt (pair : Combines whole first second) :
    whole.delaysMask = false ∧ second.delaysMask = false := by
  cases pair <;> exact ⟨rfl, rfl⟩

/-- Neither the whole nor the second part is one of the shifts. -/
theorem notMem_shifts (pair : Combines whole first second) :
    whole ∉ [asl, lsr, rol, ror] ∧ second ∉ [asl, lsr, rol, ror] := by
  cases pair <;> decide

end Mnemonic.Combines

/-- In the table only shifts and rotations work on the accumulator. -/
theorem Opcode.ofByte_accumulator (byte : UInt8) :
    (ofByte byte).mode = .accumulator →
      (ofByte byte).mnemonic ∈ [Mnemonic.asl, .lsr, .rol, .ror] := by
  revert byte
  refine byte_all _ ?_
  decide +kernel

/-- The operand stands in memory, and nothing but the registers, the flags and the memory plays a
part in what is done with it. -/
def Opcode.Local (opcode : Opcode) : Prop :=
  match opcode.mnemonic.operation with
  | .read effect => ∀ cpu value, (effect cpu.core value).core = (effect cpu value).core
  | .modify change after =>
    opcode.mode ≠ .accumulator ∧
      (∀ cpu value, (change cpu.core value).1 = (change cpu value).1 ∧
        (change cpu.core value).2.core = (change cpu value).2.core) ∧
      ∀ cpu value, (after cpu.core value).core = (after cpu value).core
  | _ => False

theorem Mnemonic.Combines.local {whole first second : Mnemonic}
    (pair : whole.Combines first second) {opcode early late : Opcode}
    (combined : opcode.mnemonic = whole) (stored : opcode.mode ≠ .accumulator)
    (one : early.mnemonic = first) (here : early.mode ≠ .accumulator)
    (other : late.mnemonic = second) : opcode.Local ∧ early.Local ∧ late.Local := by
  simp only [Opcode.Local, combined, one, other]
  cases pair
  case lax => exact ⟨fun _ _ => rfl, fun _ _ => rfl, fun _ _ => rfl⟩
  all_goals
    exact ⟨⟨stored, fun _ _ => ⟨rfl, rfl⟩, fun _ _ => rfl⟩,
      ⟨here, fun _ _ => ⟨rfl, rfl⟩, fun _ _ => rfl⟩, fun _ _ => rfl⟩

namespace Machine

/-! ### After the operand -/

section carryOut

variable {β : Type} [Bus β]

/-- What `execute` does with an instruction whose operand is resolved. -/
def carryOut (machine : Machine β) (opcode : Opcode) (operand : Operand) : Machine β :=
  let machine := machine.charge (baseCycles opcode operand)
  let performed := machine.perform opcode operand
  performed.mapCpu fun cpu =>
    { cpu with
      irqInhibit :=
        if opcode.mnemonic.delaysMask then machine.cpu.has .interruptDisable
        else cpu.has .interruptDisable }

theorem execute_carryOut (machine : Machine β) :
    machine.execute = machine.resolved.2.carryOut machine.decoded machine.resolved.1 := rfl

/-- What is left of an instruction on flat memory besides its length and its cycles. -/
def outcome (memory : β → FlatMemory) (machine : Machine β) : Machine FlatMemory :=
  (machine.bare memory).mapCpu Cpu.placeless

variable {memory : β → FlatMemory}

theorem carryOut_bare (flat : Bus.Flat memory) (machine : Machine β) (opcode : Opcode)
    (operand : Operand) :
    (machine.carryOut opcode operand).bare memory =
      (machine.bare memory).carryOut opcode operand := by
  have same : Matches (fun bus bytes => memory bus = bytes) machine (machine.bare memory) :=
    ⟨rfl, rfl⟩
  have performed := (same.charge (baseCycles opcode operand)).perform (respects_bare flat)
    opcode operand
  exact bare_eq ⟨congrArg (fun cpu : Cpu => { cpu with
    irqInhibit := if opcode.mnemonic.delaysMask then machine.cpu.has .interruptDisable
      else cpu.has .interruptDisable }) performed.cpu, performed.bus⟩

end carryOut

section bare

variable {machine other : Machine FlatMemory} {opcode : Opcode} {operand : Operand}

/-- To resolve an operand only reads. -/
theorem operand_bus (machine : Machine FlatMemory) (opcode : Opcode) :
    (machine.operand opcode).2.bus = machine.bus := by
  have indexed (machine : Machine FlatMemory) (base : UInt16) (index : UInt8) :
      (machine.indexed opcode base index).2.bus = machine.bus := by
    simp only [Machine.indexed]
    split <;> rfl
  unfold operand
  cases opcode.mode
  case absoluteX | absoluteY | indirectY => exact indexed _ _ _
  all_goals rfl

theorem resolved_placeless (machine : Machine FlatMemory) :
    machine.resolved.2.mapCpu Cpu.placeless = machine.mapCpu Cpu.placeless := by
  have bus : machine.resolved.2.bus = machine.bus := operand_bus _ _
  have cpu : machine.resolved.2.cpu.placeless = machine.cpu.placeless := by
    rw [resolved, operand_cpu]
    rfl
  simp only [mapCpu, bus, cpu]

theorem modify_bare (machine : Machine FlatMemory) (address : UInt16)
    (change : Cpu → UInt8 → UInt8 × Cpu) (after : Cpu → UInt8 → Cpu) :
    machine.modify address change after =
      let old := machine.bus.read address
      let (new, cpu) := change machine.cpu old
      { cpu := after (cpu.withResult new) new
        bus := (machine.bus.write address old).write address new } := rfl

/-- A replacement with something after it, and the replacement with a read after it. -/
theorem modify_read (machine : Machine FlatMemory) (address : UInt16)
    (change : Cpu → UInt8 → UInt8 × Cpu) (effect : Cpu → UInt8 → Cpu) :
    let replaced := machine.modify address change Mnemonic.only
    machine.modify address change effect =
      replaced.mapCpu fun cpu => effect cpu (replaced.bus.read address) := by
  simp only [modify_bare, FlatMemory.read_write_self]
  rfl

theorem perform_core (inner : opcode.Local)
    (same : machine.mapCpu Cpu.core = other.mapCpu Cpu.core) :
    (machine.perform opcode operand).mapCpu Cpu.core =
      (other.perform opcode operand).mapCpu Cpu.core := by
  have canonical (machine : Machine FlatMemory) :
      ((machine.mapCpu Cpu.core).perform opcode operand).mapCpu Cpu.core =
        (machine.perform opcode operand).mapCpu Cpu.core := by
    unfold Opcode.Local at inner
    unfold perform
    cases operation : opcode.mnemonic.operation <;> rw [operation] at inner
    case read effect =>
      exact congrArg (fun cpu => ({ cpu, bus := machine.bus } : Machine FlatMemory))
        (inner machine.cpu _)
    case modify change after =>
      obtain ⟨stored, changes, continues⟩ := inner
      obtain ⟨value, cpu⟩ := changes machine.cpu (machine.bus.read operand.address)
      have flagged {first second : Cpu} (same : first.core = second.core) (new : UInt8) :
          (first.withResult new).core = (second.withResult new).core :=
        congrArg (·.withResult new |>.core) same
      have continued {first second : Cpu} (same : first.core = second.core) (new : UInt8) :
          (after first new).core = (after second new).core := by
        rw [← continues, same, continues]
      simp only [stored, if_false, modify_bare, mapCpu, value]
      rw [continued (flagged cpu _)]
    all_goals exact inner.elim
  rw [← canonical machine, same, canonical]

/-- The cycles of an instruction and the poll at its end are no part of what it works on. -/
theorem carryOut_core (inner : opcode.Local)
    (same : machine.mapCpu Cpu.core = other.mapCpu Cpu.core) :
    (machine.carryOut opcode operand).mapCpu Cpu.core =
      (other.perform opcode operand).mapCpu Cpu.core :=
  @perform_core (machine.charge (baseCycles opcode operand)) other opcode operand inner same

/-- On memory alone the combined instruction does what its parts do. -/
theorem perform_combined {whole first second : Mnemonic} (pair : whole.Combines first second)
    (machine : Machine FlatMemory) {opcode early late : Opcode} {operand before behind : Operand}
    (combined : opcode.mnemonic = whole) (stored : opcode.mode ≠ .accumulator)
    (one : early.mnemonic = first) (here : early.mode ≠ .accumulator)
    (other : late.mnemonic = second) (place : before.address = operand.address)
    (again : behind.address = operand.address) :
    machine.perform opcode operand = (machine.perform early before).perform late behind := by
  subst combined one other
  rcases pair.operation_cases with ⟨change, effect, whole, first, second⟩ | ⟨whole, first, second⟩
  · simp only [perform, whole, first, second, stored, here, place, again, if_false]
    exact machine.modify_read operand.address change effect
  · simp only [perform, whole, first, second, place, again]
    exact congrArg (fun cpu => ({ cpu, bus := machine.bus } : Machine FlatMemory))
      (machine.cpu.withX_withA _).symm

end bare

section flat

variable {β : Type} [Bus β] {memory : β → FlatMemory} (flat : Bus.Flat memory)
variable {machine other after : Machine β}
include flat

/-- To find the operand moves nothing but the place in the program. -/
theorem resolved_core (machine : Machine β) :
    (machine.resolved.2.bare memory).mapCpu Cpu.core = (machine.bare memory).mapCpu Cpu.core := by
  have same : Matches (fun bus bytes => memory bus = bytes) machine (machine.bare memory) :=
    ⟨rfl, rfl⟩
  have found := bare_eq (same.resolved (respects_bare flat)).machine
  have placeless := (machine.bare memory).resolved_placeless
  rw [found]
  exact congrArg (fun machine => machine.mapCpu Cpu.core) placeless

/-- A combined instruction on one machine and its parts on another one, from the same registers,
flags and memory; what comes between the parts leaves these alone. -/
theorem carryOut_combined {whole first second : Mnemonic} (pair : whole.Combines first second)
    {opcode early late : Opcode} {operand before behind : Operand}
    (combined : opcode.mnemonic = whole) (stored : opcode.mode ≠ .accumulator)
    (one : early.mnemonic = first) (here : early.mode ≠ .accumulator)
    (last : late.mnemonic = second) (place : before.address = operand.address)
    (again : behind.address = operand.address)
    (start : (machine.bare memory).mapCpu Cpu.core = (other.bare memory).mapCpu Cpu.core)
    (between : (after.bare memory).mapCpu Cpu.core =
      ((other.carryOut early before).bare memory).mapCpu Cpu.core) :
    (machine.carryOut opcode operand).outcome memory =
      (after.carryOut late behind).outcome memory := by
  obtain ⟨innerWhole, innerFirst, innerSecond⟩ := pair.local combined stored one here last
  obtain ⟨prompt, promptly⟩ := pair.prompt
  have core : ((machine.carryOut opcode operand).bare memory).mapCpu Cpu.core =
      ((after.carryOut late behind).bare memory).mapCpu Cpu.core := by
    rw [carryOut_bare flat, carryOut_core innerFirst rfl] at between
    rw [carryOut_bare flat, carryOut_bare flat, carryOut_core innerWhole start,
      carryOut_core innerSecond between]
    exact congrArg (fun machine => machine.mapCpu Cpu.core)
      (perform_combined pair (other.bare memory) combined stored one here last place again)
  obtain ⟨cpu, bus⟩ := Machine.mk.inj core
  have inhibit : (machine.carryOut opcode operand).cpu.irqInhibit =
      (after.carryOut late behind).cpu.irqInhibit := by
    have polled {machine : Machine β} {opcode : Opcode} (operand : Operand)
        (prompt : opcode.mnemonic.delaysMask = false) :
        (machine.carryOut opcode operand).cpu.irqInhibit =
          (machine.carryOut opcode operand).cpu.core.has .interruptDisable := by
      simp only [carryOut, prompt, Bool.false_eq_true, if_false]
      rfl
    rw [polled operand (combined ▸ prompt), polled behind (last ▸ promptly)]
    exact congrArg (·.has .interruptDisable) cpu
  have alike := Cpu.placeless_eq cpu inhibit
  simp only [outcome, mapCpu]
  rw [Machine.mk.injEq]
  exact ⟨alike, bus⟩

end flat

variable {β : Type} [Bus β]

/-- An instruction that combines two leaves the registers, the flags and the memory as they do when
they are carried out in its place at the same address, and as a program does that has them in a row
and starts with the same registers, flags and memory. -/
theorem execute_combined (memory : β → FlatMemory) (flat : Bus.Flat memory)
    {whole first second : Mnemonic} (pair : whole.Combines first second) (machine : Machine β)
    (combined : machine.decoded.mnemonic = whole) :
    (∀ (early late : Opcode) (before behind : Operand),
      early.mnemonic = first → early.mode ≠ .accumulator → late.mnemonic = second →
      before.address = machine.resolved.1.address →
      behind.address = machine.resolved.1.address →
        machine.execute.outcome memory =
          ((machine.carryOut early before).carryOut late behind).outcome memory) ∧
    ∀ other : Machine β, other.outcome memory = machine.outcome memory →
      other.decoded.mnemonic = first → other.decoded.mode ≠ .accumulator →
      other.resolved.1.address = machine.resolved.1.address →
      other.execute.decoded.mnemonic = second →
      other.execute.resolved.1.address = machine.resolved.1.address →
        machine.execute.outcome memory = other.execute.execute.outcome memory := by
  have stored : machine.decoded.mode ≠ .accumulator := fun mode =>
    pair.notMem_shifts.1 (combined ▸ Opcode.ofByte_accumulator _ mode)
  constructor
  · intro early late before behind one here last place again
    rw [execute_carryOut]
    exact carryOut_combined flat pair combined stored one here last place again
      (resolved_core flat machine) rfl
  · intro other alike one here place last again
    have core : (other.bare memory).mapCpu Cpu.core = (machine.bare memory).mapCpu Cpu.core :=
      congrArg (fun machine => machine.mapCpu Cpu.core) alike
    have start : (machine.resolved.2.bare memory).mapCpu Cpu.core =
        (other.resolved.2.bare memory).mapCpu Cpu.core :=
      (resolved_core flat machine).trans (core.symm.trans (resolved_core flat other).symm)
    exact carryOut_combined flat pair combined stored one here last place again start
      (resolved_core flat other.execute)

/-- `SLO ($08),Y` doubles the byte at `0x20` and joins it to A, and so do `ASL $20` and `ORA $20`
behind it. -/
theorem execute_combined_indexed :
    let bus := (FlatMemory.load {} 0
      [0x13, 0x08, 0x06, 0x20, 0x05, 0x20, 0x00, 0x00, 0x10, 0x00]).write 0x20 0xC1
    let whole : Machine FlatMemory := { cpu := { a := 0x05, y := 0x10, pc := 0 }, bus }
    let parts : Machine FlatMemory := { cpu := { a := 0x05, y := 0x10, pc := 2 }, bus }
    let place : Operand := { address := 0x20 }
    whole.execute.outcome id =
        ((whole.carryOut (Opcode.ofByte 0x06) place).carryOut (Opcode.ofByte 0x05) place).outcome
          id ∧
      whole.execute.outcome id = parts.execute.execute.outcome id ∧
      whole.execute.cpu.a = 0x87 ∧ whole.execute.bus.read 0x20 = 0x82 := by
  intro bus whole parts place
  obtain ⟨inPlace, inRow⟩ :=
    execute_combined id FlatMemory.flat .slo whole (by decide +kernel)
  have alike : parts.outcome id = whole.outcome id := rfl
  refine ⟨inPlace _ _ place place rfl (by decide) rfl (by decide +kernel) (by decide +kernel),
    inRow parts alike ?_ ?_ ?_ ?_ ?_, ?_, ?_⟩ <;> decide +kernel

end Machine

end Nes
