import Nes.Proofs.Cpu.Run

/-!
When the interrupt line is answered. The poll looks at a copy of the mask, which three instructions
let lag by one step; told by the history of a run, the copy is the mask itself or the mask before
the last step. In how many rounds a step spends what is owed does not matter.
-/

namespace Nes

/-- A flag that was switched reads as it was switched. -/
theorem Cpu.has_withFlag (cpu : Cpu) (flag : Flag) (on : Bool) :
    (cpu.withFlag flag on).has flag = on := by
  have all (status : UInt8) :
      ((if on then status ||| flag.mask else status &&& ~~~flag.mask) &&& flag.mask != 0) = on := by
    revert status
    cases flag <;> cases on <;>
      · refine byte_all _ ?_
        decide +kernel
  exact all cpu.status

namespace Machine

variable {β : Type} {machine : Machine β} {opcode : Opcode}

/-- The interrupt mask. -/
def masked (machine : Machine β) : Bool := machine.cpu.has .interruptDisable

theorem masked_of_timeless {other : Machine β} (same : machine.cpu.timeless = other.cpu.timeless) :
    machine.masked = other.masked ∧ machine.cpu.irqInhibit = other.cpu.irqInhibit :=
  ⟨(congrArg (fun cpu => cpu.has .interruptDisable) same :),
    (congrArg Cpu.irqInhibit same :)⟩

variable [Bus β]

/-! ### Steps -/

theorem interrupt_masked (vector : UInt16) :
    (machine.interrupt vector).masked = true ∧ (machine.interrupt vector).cpu.irqInhibit = true :=
  ⟨Cpu.has_withFlag _ .interruptDisable true, rfl⟩

/-- The entry of an interrupt masks the line at once. -/
theorem step_masked_of_interrupt (turn : machine.turn = .nmi ∨ machine.turn = .irq)
    (rounds : Nat) :
    (machine.stepWithin rounds).2.masked = true ∧
      (machine.stepWithin rounds).2.cpu.irqInhibit = true := by
  rcases turn with turn | turn
  · obtain ⟨masked, inhibit⟩ :=
      masked_of_timeless (step_timeless (turn_eq_nmi_iff.mp turn).1 rounds)
    rw [masked, inhibit, serve_nmi turn]
    exact interrupt_masked nmiVector
  · obtain ⟨masked, inhibit⟩ :=
      masked_of_timeless (step_timeless (turn_eq_irq_iff.mp turn).1 rounds)
    rw [masked, inhibit, serve_irq turn]
    exact interrupt_masked irqVector

/-- After an instruction the poll sees the mask that the instruction left, or the one that it found
if it delays its change. -/
theorem step_irqInhibit (turn : machine.turn = .instruction opcode) (rounds : Nat) :
    (machine.stepWithin rounds).2.cpu.irqInhibit =
      if opcode.mnemonic.delaysMask then machine.masked
      else (machine.stepWithin rounds).2.masked := by
  obtain ⟨running, -, decoded⟩ := turn_eq_instruction_iff.mp turn
  obtain ⟨masked, inhibit⟩ := masked_of_timeless (step_timeless running rounds)
  have before : machine.latchNmi.readied.masked = machine.masked :=
    congrArg (fun cpu => cpu.has .interruptDisable) machine.latchNmi.readied_cpu
  rw [masked, inhibit, serve_instruction turn, execute_eq, decoded, ← before]
  rfl

theorem step_masked_of_instruction (turn : machine.turn = .instruction opcode) (rounds : Nat) :
    (machine.stepWithin rounds).2.masked =
      (machine.latchNmi.readied.perform opcode machine.latchNmi.resolved.1).masked := by
  obtain ⟨running, -, decoded⟩ := turn_eq_instruction_iff.mp turn
  rw [(masked_of_timeless (step_timeless running rounds)).1, serve_instruction turn, execute_eq,
    decoded]
  rfl

theorem step_cli (turn : machine.turn = .instruction opcode) (cli : opcode.mnemonic = .cli)
    (rounds : Nat) : (machine.stepWithin rounds).2.masked = false := by
  rw [step_masked_of_instruction turn, perform, cli]
  exact Cpu.has_withFlag _ .interruptDisable false

theorem step_brk (turn : machine.turn = .instruction opcode) (brk : opcode.mnemonic = .brk)
    (rounds : Nat) : (machine.stepWithin rounds).2.masked = true := by
  rw [step_masked_of_instruction turn, perform, brk]
  exact Cpu.has_withFlag _ .interruptDisable true

theorem reset_masked : machine.reset.masked = true ∧ machine.reset.cpu.irqInhibit = true :=
  ⟨Cpu.has_withFlag machine.cpu .interruptDisable true, rfl⟩

/-! ### Histories -/

/-- A run ends in requests that come after a step, after a reset, or after power-on. -/
theorem exists_requests (stimuli : List Stimulus) :
    ∃ core requests, stimuli = core ++ requests ∧
      (∀ request ∈ requests, request.isRequest = true) ∧
      (core = [] ∨ (∃ earlier rounds, core = earlier ++ [.step rounds]) ∨
        ∃ earlier, core = earlier ++ [.reset]) := by
  induction stimuli using List.reverseRecOn with
  | nil => exact ⟨[], [], rfl, by simp, .inl rfl⟩
  | append_singleton stimuli stimulus ih =>
    obtain ⟨core, requests, rfl, asking, ends⟩ := ih
    have asked (asks : stimulus.isRequest = true) :
        ∀ request ∈ requests ++ [stimulus], request.isRequest = true := by
      intro request member
      rcases List.mem_append.mp member with old | new
      · exact asking request old
      · exact List.mem_singleton.mp new ▸ asks
    cases stimulus with
    | step rounds => exact ⟨_, [], (List.append_nil _).symm, by simp, .inr (.inl ⟨_, _, rfl⟩)⟩
    | reset => exact ⟨_, [], (List.append_nil _).symm, by simp, .inr (.inr ⟨_, rfl⟩)⟩
    | requestNmi => exact ⟨core, _, List.append_assoc .., asked rfl, ends⟩
    | requestStall cycles => exact ⟨core, _, List.append_assoc .., asked rfl, ends⟩

/-- Requests leave the mask and its copy alone, and halt nothing. -/
theorem follow_requests {requests : List Stimulus}
    (asking : ∀ request ∈ requests, request.isRequest = true) (machine : Machine β) :
    (follow machine requests).masked = machine.masked ∧
      (follow machine requests).cpu.irqInhibit = machine.cpu.irqInhibit ∧
      (follow machine requests).cpu.halted = machine.cpu.halted := by
  induction requests generalizing machine with
  | nil => exact ⟨rfl, rfl, rfl⟩
  | cons request rest ih =>
    obtain ⟨asks, others⟩ := List.forall_mem_cons.mp asking
    have later := ih others (machine.receive request)
    cases request with
    | requestNmi | requestStall => exact later
    | step | reset => cases asks

/-- The last step of a run has carried out an instruction; at most requests came later. -/
def LastCarriedOut (bus : β) (stimuli earlier : List Stimulus) (rounds : Nat)
    (opcode : Opcode) : Prop :=
  (after bus earlier).turn = .instruction opcode ∧
    ∃ requests, stimuli = earlier ++ .step rounds :: requests ∧
      ∀ request ∈ requests, request.isRequest = true

/-- The line is answered behind a mask only if the instruction before has just set it, with a
delay. -/
theorem masked_irq {bus : β} {stimuli : List Stimulus} (turn : (after bus stimuli).turn = .irq)
    (masked : (after bus stimuli).masked = true) :
    ∃ earlier rounds opcode, LastCarriedOut bus stimuli earlier rounds opcode ∧
      (opcode.mnemonic = .sei ∨ opcode.mnemonic = .plp) ∧
      (after bus earlier).masked = false ∧
      ((after bus earlier).receive (.step rounds)).masked = true := by
  obtain ⟨running, -, unmasked, -⟩ := turn_eq_irq_iff.mp turn
  obtain ⟨core, requests, rfl, asking, ends⟩ := exists_requests stimuli
  rw [after_append] at running unmasked masked
  obtain ⟨sameMask, sameCopy, sameHalt⟩ := follow_requests asking (after bus core)
  rw [sameMask] at masked
  rw [sameCopy] at unmasked
  rw [sameHalt] at running
  rcases ends with rfl | ⟨earlier, rounds, rfl⟩ | ⟨earlier, rfl⟩
  · cases unmasked
  · rw [after_snoc, receive] at unmasked running masked
    cases last : (after bus earlier).turn with
    | rest =>
      rw [step_rest last, turn_eq_rest_iff.mp last] at running
      cases running
    | nmi => rw [(step_masked_of_interrupt (.inl last) rounds).2] at unmasked; cases unmasked
    | irq => rw [(step_masked_of_interrupt (.inr last) rounds).2] at unmasked; cases unmasked
    | instruction opcode =>
      rw [step_irqInhibit last] at unmasked
      cases delays : opcode.mnemonic.delaysMask with
      | false =>
        rw [delays, masked] at unmasked
        cases unmasked
      | true =>
        rw [delays] at unmasked
        refine ⟨earlier, rounds, opcode, ⟨last, requests, by simp, asking⟩, ?_, unmasked, masked⟩
        cases mnemonic : opcode.mnemonic
        case cli =>
          rw [step_cli last mnemonic] at masked
          cases masked
        case sei => exact .inl rfl
        case plp => exact .inr rfl
        all_goals rw [mnemonic] at delays; cases delays
  · rw [after_snoc, receive, reset_masked.2] at unmasked
    cases unmasked

/-- The line waits to be answered: nothing but the copy of the mask can stand in its way. -/
structure IrqDue (machine : Machine β) : Prop where
  running : machine.cpu.halted = false
  unmasked : machine.masked = false
  quiet : machine.latchNmi.cpu.nmiPending = false
  line : Bus.irqLine machine.latchNmi.bus = true

/-- If the copy stands in the way, it does so for one step only. -/
theorem IrqDue.turn {rounds : Nat} (due : machine.IrqDue)
    (again : (machine.receive (.step rounds)).IrqDue) :
    machine.turn = .irq ∨ (machine.receive (.step rounds)).turn = .irq := by
  cases turn : machine.turn with
  | irq => exact .inl rfl
  | rest => exact absurd (turn_eq_rest_iff.mp turn) (by simp [due.running])
  | nmi => exact absurd (turn_eq_nmi_iff.mp turn).2 (by simp [due.quiet])
  | instruction opcode =>
    have unmasked : (machine.stepWithin rounds).2.masked = false := again.unmasked
    have copied : (machine.stepWithin rounds).2.cpu.irqInhibit = false := by
      rw [step_irqInhibit turn, due.unmasked, unmasked, ite_self]
    exact .inr (turn_eq_irq_iff.mpr ⟨again.running, again.quiet, copied, again.line⟩)

/-- The stimulus masks the line: the reset, the entry of an interrupt, or the instruction that asks
for one. -/
def Masks (machine : Machine β) : Stimulus → Prop
  | .reset => True
  | .step _ => machine.turn = .nmi ∨ machine.turn = .irq ∨
      ∃ opcode, machine.turn = .instruction opcode ∧ opcode.mnemonic = .brk
  | _ => False

/-- The line is masked without delay. -/
def Shielded (machine : Machine β) : Prop := machine.masked = true ∧ machine.cpu.irqInhibit = true

theorem Masks.shielded {stimulus : Stimulus} (masks : machine.Masks stimulus) :
    (machine.receive stimulus).Shielded := by
  cases stimulus with
  | reset => exact reset_masked
  | step rounds =>
    rcases masks with turn | turn | ⟨opcode, turn, brk⟩
    · exact step_masked_of_interrupt (.inl turn) rounds
    · exact step_masked_of_interrupt (.inr turn) rounds
    · refine ⟨step_brk turn brk rounds, ?_⟩
      rw [receive, step_irqInhibit turn, brk]
      exact step_brk turn brk rounds
  | requestNmi | requestStall => exact masks.elim

/-- The next step carries out an instruction that clears the mask. -/
def Unmasks (machine : Machine β) (rounds : Nat) : Prop :=
  (∃ opcode, machine.turn = .instruction opcode) ∧ machine.masked = true ∧
    (machine.receive (.step rounds)).masked = false

/-- Only an instruction ends the shield. -/
theorem Shielded.receive (shielded : machine.Shielded) (stimulus : Stimulus) :
    (machine.receive stimulus).Shielded ∨
      ∃ rounds, stimulus = .step rounds ∧ machine.Unmasks rounds := by
  cases stimulus with
  | reset => exact .inl reset_masked
  | requestNmi | requestStall => exact .inl shielded
  | step rounds =>
    rw [Machine.receive]
    cases turn : machine.turn with
    | rest =>
      rw [step_rest turn]
      exact .inl shielded
    | nmi => exact .inl (step_masked_of_interrupt (.inl turn) rounds)
    | irq => exact .inl (step_masked_of_interrupt (.inr turn) rounds)
    | instruction opcode =>
      cases masked : (machine.stepWithin rounds).2.masked with
      | false => exact .inr ⟨rounds, rfl, ⟨opcode, turn⟩, shielded.1, masked⟩
      | true =>
        refine .inl ⟨masked, ?_⟩
        rw [step_irqInhibit turn, masked, shielded.1, ite_self]

theorem Shielded.follow (shielded : machine.Shielded) (stimuli : List Stimulus) :
    (follow machine stimuli).Shielded ∨
      ∃ before rounds rest, stimuli = before ++ .step rounds :: rest ∧
        (follow machine before).Unmasks rounds := by
  induction stimuli using List.reverseRecOn with
  | nil => exact .inl shielded
  | append_singleton stimuli stimulus ih =>
    rcases ih with shielded | ⟨before, rounds, rest, rfl, unmasks⟩
    · rw [follow_snoc]
      refine (shielded.receive stimulus).imp_right ?_
      rintro ⟨rounds, rfl, unmasks⟩
      exact ⟨stimuli, rounds, [], rfl, unmasks⟩
    · exact .inr ⟨before, rounds, rest ++ [stimulus], by simp, unmasks⟩

/-- When the interrupt line is answered. It is answered only if no edge waits and, unless the mask
is clear, the step before has set it with a delay. Of two steps in a row that find the line asserted
and nothing in its way, one answers it. And once the line is masked by a reset, by the entry of an
interrupt or by the instruction for it, an instruction has to clear the mask first. All of it holds
in however many rounds each step spends what is owed. -/
theorem irq_latency :
    (∀ (bus : β) stimuli, (after bus stimuli).turn = .irq →
      (after bus stimuli).latchNmi.cpu.nmiPending = false ∧
        ((after bus stimuli).masked = false ∨
          ∃ earlier rounds opcode, LastCarriedOut bus stimuli earlier rounds opcode ∧
            (opcode.mnemonic = .sei ∨ opcode.mnemonic = .plp) ∧
            (after bus earlier).masked = false ∧
            ((after bus earlier).receive (.step rounds)).masked = true)) ∧
    (∀ (machine : Machine β) rounds, machine.IrqDue → (machine.receive (.step rounds)).IrqDue →
      machine.turn = .irq ∨ (machine.receive (.step rounds)).turn = .irq) ∧
    ∀ (bus : β) earlier stimulus later, (after bus earlier).Masks stimulus →
      (after bus (earlier ++ stimulus :: later)).turn = .irq →
        ∃ before rounds rest, later = before ++ .step rounds :: rest ∧
          (after bus (earlier ++ stimulus :: before)).Unmasks rounds := by
  refine ⟨?_, fun machine rounds due again => due.turn again, ?_⟩
  · intro bus stimuli turn
    refine ⟨(turn_eq_irq_iff.mp turn).2.1, ?_⟩
    cases masked : (after bus stimuli).masked with
    | false => exact .inl rfl
    | true => exact .inr (masked_irq turn masked)
  · intro bus earlier stimulus later masks turn
    simp only [after_append] at turn ⊢
    rcases Shielded.follow masks.shielded later with shielded | unmasks
    · cases shielded.2.symm.trans (turn_eq_irq_iff.mp turn).2.2.1
    · exact unmasks

end Machine

/-- A program that cannot be written to and clears the mask wherever it says nothing else, under an
interrupt line that is always asserted. -/
structure Nagging where
  program : List UInt8

instance : Bus Nagging where
  read bus address := (bus.program.getD address.toNat 0x58, bus)
  write bus _ _ := bus
  peek bus address := bus.program.getD address.toNat 0x58
  irqLine _ := true

namespace Machine

theorem irq_latency_nagging :
    (∃ earlier rounds opcode,
      LastCarriedOut (Nagging.mk [0x58, 0x78]) [.step 0, .step settleRounds] earlier rounds opcode ∧
      (opcode.mnemonic = .sei ∨ opcode.mnemonic = .plp) ∧
      (after (Nagging.mk [0x58, 0x78]) earlier).masked = false ∧
      ((after (Nagging.mk [0x58, 0x78]) earlier).receive (.step rounds)).masked = true) ∧
    ((after (Nagging.mk []) [.step 0]).turn = .irq ∨
      (after (Nagging.mk []) [.step 0]).step.2.turn = .irq) ∧
    ∃ before rounds rest, [Stimulus.step 0, .step 1] = before ++ .step rounds :: rest ∧
      (after (Nagging.mk []) ([] ++ .reset :: before)).Unmasks rounds := by
  obtain ⟨answered, due, shielded⟩ := @irq_latency Nagging _
  refine ⟨?_, ?_, ?_⟩
  · obtain ⟨-, unmasked | behind⟩ :=
      answered (Nagging.mk [0x58, 0x78]) [.step 0, .step settleRounds] (by decide +kernel)
    · exact absurd unmasked (by decide +kernel)
    · exact behind
  · exact due (after (Nagging.mk []) [.step 0]) settleRounds
      ⟨by decide +kernel, by decide +kernel, by decide +kernel, by decide +kernel⟩
      ⟨by decide +kernel, by decide +kernel, by decide +kernel, by decide +kernel⟩
  · exact shielded (Nagging.mk []) [] .reset [.step 0, .step 1] trivial (by decide +kernel)

end Machine

end Nes
