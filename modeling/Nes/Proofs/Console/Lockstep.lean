import Nes.Proofs.Bus.Elapsed
import Nes.Proofs.Console.Timing

/-!
Processor and chips in step. From power-on on, each cycle that the processor counts is one in which
the chips move on, and between two steps nothing is left over: no cycles are owed, no copy of object
memory waits to be charged, and the board takes the next write. A snapshot need not record the last
two.
-/

namespace Nes

namespace System

/-- What is done to a system between steps: the reset line, and what a host does. -/
inductive HostAccess (system : System) : System → Prop where
  | reset : HostAccess system system.reset
  | setButtons (port : Nat) (buttons : UInt8) : HostAccess system (system.setButtons port buttons)
  | clearFrame : HostAccess system system.clearFrame

/-- A number of cycles over several steps, with accesses of the host between them. -/
inductive Uptime (start : System) : Nat → System → Prop where
  | start : Uptime start 0 start
  | elapses {count more : Nat} {system next : System} (before : Uptime start count system)
    (elapses : Elapses system more next) : Uptime start (count + more) next
  | host {count : Nat} {system next : System} (before : Uptime start count system)
    (access : system.HostAccess next) : Uptime start count next

variable {start system next : System} {count more : Nat}

theorem HostAccess.cycles (access : system.HostAccess next) : next.cycles = system.cycles := by
  cases access with
  | setButtons port buttons =>
    unfold System.setButtons
    split <;> rfl
  | reset | clearFrame => rfl

theorem Uptime.cycles (uptime : Uptime start count next) :
    next.cycles = start.cycles + UInt64.ofNat count := by
  induction uptime with
  | start => exact (UInt64.add_zero _).symm
  | elapses before elapses ih =>
    rw [elapses.cycles, ih, UInt64.ofNat_add, UInt64.add_assoc]
  | host before access ih => exact access.cycles.trans ih

theorem Uptime.trans (head : Uptime start count system) (tail : Uptime system more next) :
    Uptime start (count + more) next := by
  induction tail with
  | start => exact head
  | elapses before elapses ih =>
    rw [← Nat.add_assoc]
    exact ih.elapses elapses
  | host before access ih => exact ih.host access

end System

namespace Machine

variable {machine final : Machine System}

/-- Between two steps: nothing is owed or waits to be charged, and the board takes the next
write. -/
structure Quiescent (machine : Machine System) : Prop extends AtRest machine where
  dmaPending : machine.bus.dmaPending = false
  ready : machine.bus.cart.board.Ready

theorem Settles.ready (settles : Settles machine final) (ready : machine.bus.cart.board.Ready) :
    final.bus.cart.board.Ready := by
  induction settles with
  | done paid => exact ready
  | @round machine final owed rest ih =>
    exact ih (@System.tick_ready machine.takeStall.2.bus machine.takeStall.1 (.inr ready))

/-- After a step of a running processor the machine is quiescent, whatever the board did. -/
theorem AtRest.step_quiescent (rest : machine.AtRest) (running : machine.cpu.halted = false) :
    machine.step.2.Quiescent := by
  obtain ⟨charged, -⟩ := rest.served
  have settles := charged.settles_settle
  obtain ⟨-, -, -, last, -, -⟩ := settles.spent_le charged
  have ready : machine.served.bus.cart.board.Ready := by
    obtain ⟨cycles, least, -, -, same⟩ := machine.served_eq
    rw [same]
    exact System.tick_ready (.inl (by omega))
  have next := rest.step_sound.2.2
  rw [step_eq machine running] at next ⊢
  exact ⟨next, last.dmaPending, settles.ready ready⟩

theorem reset_quiescent (quiet : machine.bus.Quiet) : machine.reset.Quiescent := by
  obtain ⟨system, cycles, moves, ticked⟩ : ∃ (system : System) (cycles : UInt64),
      cycles.toNat ≠ 0 ∧ machine.reset.bus = system.tick cycles :=
    ⟨_, interruptCycles, by decide, rfl⟩
  refine ⟨reset_atRest quiet, ?_, ?_⟩ <;> rw [ticked]
  · exact System.tick_dmaPending _ _
  · exact System.tick_ready (.inl moves)

end Machine

namespace Console

variable {console middle next : Console} {elapsed later : Nat}

/-! ### Commands -/

/-- From one console to another a number of cycles has passed, and the processor has counted each of
them once. -/
structure Passes (console : Console) (elapsed : Nat) (next : Console) : Prop where
  uptime : System.Uptime console.system elapsed next.system
  counted : next.machine.cpu.cycles = console.machine.cpu.cycles + UInt64.ofNat elapsed

theorem Passes.none (console : Console) : console.Passes 0 console :=
  ⟨.start, (UInt64.add_zero _).symm⟩

theorem Passes.trans (head : console.Passes elapsed middle) (tail : middle.Passes later next) :
    console.Passes (elapsed + later) next := by
  refine ⟨head.uptime.trans tail.uptime, ?_⟩
  rw [tail.counted, head.counted, UInt64.ofNat_add, UInt64.add_assoc]

/-- A step lets the cycles pass that it reports, each of them once. -/
theorem step_passes (quiescent : console.machine.Quiescent) :
    console.step.2.machine.Quiescent ∧
      ∃ elapsed ≤ 600, console.step.1 = UInt64.ofNat elapsed ∧
        System.Elapses console.system elapsed console.step.2.system ∧
        console.Passes elapsed console.step.2 := by
  cases halted : console.machine.cpu.halted with
  | true =>
    have still : console.machine.step = (0, console.machine) :=
      console.machine.step_halted halted
    have same : console.step = (0, console) := by simp only [step, still]
    rw [same]
    exact ⟨quiescent, 0, Nat.zero_le _, rfl, .none, .none console⟩
  | false =>
    obtain ⟨elapsed, -, most, reported, counted, passed⟩ :=
      quiescent.toAtRest.step_elapses halted
    have origin : System.Uptime console.system 0 console.system := .start
    have uptime := origin.elapses passed
    rw [Nat.zero_add] at uptime
    exact ⟨quiescent.toAtRest.step_quiescent halted, elapsed, most, reported, passed, uptime,
      counted⟩

theorem clearFrame_quiescent (quiescent : console.machine.Quiescent) :
    (console.mapSystem System.clearFrame).machine.Quiescent :=
  ⟨⟨quiescent.dmc, quiescent.bus, quiescent.cpu⟩, quiescent.dmaPending, quiescent.ready⟩

theorem stepFrameFrom_passes (quiescent : console.machine.Quiescent) (cycles : UInt64)
    (limit : Nat) :
    (stepFrameFrom cycles limit console).2.machine.Quiescent ∧
      ∃ elapsed, console.Passes elapsed (stepFrameFrom cycles limit console).2 := by
  induction limit generalizing console cycles with
  | zero => exact ⟨quiescent, 0, .none console⟩
  | succ limit ih =>
    obtain ⟨stepped, elapsed, -, -, -, passes⟩ := step_passes quiescent
    simp only [stepFrameFrom]
    split
    · exact ⟨clearFrame_quiescent stepped, elapsed, passes.uptime.host .clearFrame,
        passes.counted⟩
    · split
      · exact ⟨stepped, elapsed, passes⟩
      · obtain ⟨last, later, rest⟩ := ih stepped (cycles + console.step.1)
        exact ⟨last, elapsed + later, passes.trans rest⟩

theorem reset_passes (quiescent : console.machine.Quiescent) :
    console.reset.machine.Quiescent ∧ console.Passes 7 console.reset := by
  have quiet := System.reset_quiet (Dmc.validate_iff.mp quiescent.dmc)
  have origin : System.Uptime console.system 0 console.system := .start
  have line := origin.host .reset
  exact ⟨@Machine.reset_quiescent (console.mapSystem System.reset).machine quiet,
    line.elapses (console.mapSystem System.reset).machine.reset_elapses, rfl⟩

theorem setButtons_passes (quiescent : console.machine.Quiescent) (port : Nat) (buttons : UInt8) :
    (console.setButtons port buttons).machine.Quiescent ∧
      console.Passes 0 (console.setButtons port buttons) := by
  have origin : System.Uptime console.system 0 console.system := .start
  refine ⟨?_, origin.host (.setButtons port buttons), (UInt64.add_zero _).symm⟩
  simp only [setButtons, System.setButtons]
  split <;> exact ⟨⟨quiescent.dmc, quiescent.bus, quiescent.cpu⟩, quiescent.dmaPending,
    quiescent.ready⟩

theorem perform_passes (quiescent : console.machine.Quiescent) {command : Command}
    (keeps : ∀ bytes, command ≠ .load bytes) :
    (console.perform command).2.machine.Quiescent ∧
      ∃ elapsed, console.Passes elapsed (console.perform command).2 := by
  cases command with
  | step =>
    obtain ⟨next, elapsed, -, -, -, passes⟩ := step_passes quiescent
    exact ⟨next, elapsed, passes⟩
  | stepFrame => exact stepFrameFrom_passes quiescent 0 frameStepLimit
  | reset =>
    obtain ⟨next, passes⟩ := reset_passes quiescent
    exact ⟨next, 7, passes⟩
  | setButtons port buttons =>
    obtain ⟨next, passes⟩ := setButtons_passes quiescent port buttons
    exact ⟨next, 0, passes⟩
  | load bytes => exact absurd rfl (keeps bytes)

/-! ### Runs -/

theorem follow_passes (quiescent : console.machine.Quiescent) {commands : List Command}
    (keeps : ∀ bytes, .load bytes ∉ commands) :
    (console.follow commands).machine.Quiescent ∧
      ∃ elapsed, console.Passes elapsed (console.follow commands) := by
  induction commands generalizing console with
  | nil => exact ⟨quiescent, 0, .none console⟩
  | cons command rest ih =>
    have first : ∀ bytes, command ≠ .load bytes := by
      rintro bytes rfl
      exact keeps bytes List.mem_cons_self
    obtain ⟨next, elapsed, passes⟩ := perform_passes quiescent first
    obtain ⟨last, later, others⟩ := ih next fun bytes member =>
      keeps bytes (List.mem_cons_of_mem command member)
    exact ⟨last, elapsed + later, passes.trans others⟩

theorem powerOn_quiescent (cart : Cartridge) (settings : Settings) :
    (powerOn cart settings).machine.Quiescent :=
  Machine.reset_quiescent ⟨⟨Apu.State.powerOn_bounded.dmc, rfl⟩, rfl, rfl⟩

/-- Without loads, the processor's counter of cycles and the bus's are both the number of cycles in
which the chips have moved on since power-on. Nothing is owed between two steps, no copy of object
memory waits to be charged, and the board takes writes. The next step, too, lets exactly the cycles
pass that it reports. -/
theorem after_lockstep (cart : Cartridge) (settings : Settings) (history : List Command)
    (keeps : ∀ bytes, .load bytes ∉ history) :
    ∃ elapsed : Nat,
      System.Uptime (System.powerOn cart settings) elapsed (after cart settings history).system ∧
      (after cart settings history).machine.cpu.cycles = UInt64.ofNat elapsed ∧
      (after cart settings history).system.cycles =
        (after cart settings history).machine.cpu.cycles ∧
      (after cart settings history).machine.cpu.stall = 0 ∧
      (after cart settings history).system.stall = 0 ∧
      (after cart settings history).system.dmaPending = false ∧
      (after cart settings history).system.cart.board.Ready ∧
      ∃ passed ≤ 600,
        System.Elapses (after cart settings history).system passed
          (after cart settings history).step.2.system ∧
        (after cart settings history).step.1 = UInt64.ofNat passed ∧
        (after cart settings history).step.2.machine.cpu.cycles =
          (after cart settings history).machine.cpu.cycles +
            (after cart settings history).step.1 := by
  obtain ⟨quiescent, elapsed, passes⟩ := follow_passes (powerOn_quiescent cart settings) keeps
  have started : System.Uptime (System.powerOn cart settings) 7 (powerOn cart settings).system :=
    .elapses .start (Machine.reset_elapses { bus := System.powerOn cart settings })
  have uptime := started.trans passes.uptime
  have counted : (after cart settings history).machine.cpu.cycles =
      UInt64.ofNat (7 + elapsed) := by
    rw [UInt64.ofNat_add]
    exact passes.counted
  have chips : (after cart settings history).system.cycles = UInt64.ofNat (7 + elapsed) :=
    uptime.cycles.trans (UInt64.zero_add _)
  obtain ⟨-, passed, most, reported, stepped, next⟩ := step_passes quiescent
  exact ⟨7 + elapsed, uptime, counted, chips.trans counted.symm, quiescent.cpu, quiescent.bus,
    quiescent.dmaPending, quiescent.ready, passed, most, stepped, reported,
    reported ▸ next.counted⟩

/-- A cartridge that has just been written to when it is inserted, so that its board does not take
the next write yet. -/
def writtenCart : Cartridge :=
  { Cartridge.idle with
    board := .mmc1 { Mmc1.powerOn Cartridge.idle.memory with writeReady := false }
    mapperId := 1 }

def session : List Command := [.step, .setButtons 0 8, .stepFrame, .reset, .step]

theorem after_lockstep_session :
    (∀ bytes, .load bytes ∉ session) ∧
      ∃ elapsed : Nat,
        System.Uptime (System.powerOn writtenCart {}) elapsed
          (after writtenCart {} session).system ∧
        (after writtenCart {} session).machine.cpu.cycles = UInt64.ofNat elapsed ∧
        (after writtenCart {} session).system.cycles =
          (after writtenCart {} session).machine.cpu.cycles ∧
        (after writtenCart {} session).machine.cpu.stall = 0 ∧
        (after writtenCart {} session).system.stall = 0 ∧
        (after writtenCart {} session).system.dmaPending = false ∧
        (after writtenCart {} session).system.cart.board.Ready ∧
        ∃ passed ≤ 600,
          System.Elapses (after writtenCart {} session).system passed
            (after writtenCart {} session).step.2.system ∧
          (after writtenCart {} session).step.1 = UInt64.ofNat passed ∧
          (after writtenCart {} session).step.2.machine.cpu.cycles =
            (after writtenCart {} session).machine.cpu.cycles +
              (after writtenCart {} session).step.1 := by
  have keeps : ∀ bytes, .load bytes ∉ session := by simp [session]
  exact ⟨keeps, after_lockstep writtenCart {} session keeps⟩

end Console

end Nes
