import Nes.Proofs.Console.Run

/-!
How long a step takes. Between two steps of a run nothing is owed, unless a host has loaded a
snapshot that owes cycles; from there a step spends all that it comes to owe, within 600 cycles.
-/

namespace Nes

/-- The command loads no snapshot in which cycles are owed. -/
def Command.OwesNothing : Command → Prop
  | .load bytes => ∀ state, MachineState.decode bytes = .ok state →
      state.cpu.stall = 0 ∧ state.bus.stall = 0
  | .step | .stepFrame | .reset | .setButtons _ _ => True

namespace Machine

variable {machine : Machine System}

/-- The reset line leaves the processor with nothing owed if the chips are silent. -/
theorem reset_atRest (quiet : machine.bus.Quiet) : machine.reset.AtRest := by
  have read := (quiet.read resetVector).read (resetVector + 1)
  have passed : machine.reset.bus.Quiet := read.tick interruptCycles
  exact ⟨Dmc.validate_iff.mpr passed.dmc, passed.stall, rfl⟩

end Machine

namespace Console

variable {console : Console}

/-! ### Commands -/

theorem stepFrameFrom_atRest (rest : console.machine.AtRest) (cycles : UInt64) (limit : Nat) :
    (stepFrameFrom cycles limit console).2.machine.AtRest := by
  induction limit generalizing console cycles with
  | zero => exact rest
  | succ limit ih =>
    have stepped : console.step.2.machine.AtRest := rest.step_sound.2.2
    simp only [stepFrameFrom]
    split
    · exact ⟨stepped.dmc, stepped.bus, stepped.cpu⟩
    · split
      · exact stepped
      · exact ih stepped _

/-- A refused snapshot leaves nothing owed; an accepted one owes what it records. -/
theorem loadState_atRest (rest : console.machine.AtRest) {state : MachineState}
    (paid : state.cpu.stall = 0 ∧ state.bus.stall = 0) :
    (console.loadState state).2.machine.AtRest := by
  unfold loadState
  simp only
  split
  · exact rest
  · rename_i checked
    obtain ⟨ppu, restored, checked⟩ := Snapshot.bind_eq_ok checked
    obtain ⟨bus, loaded, checked⟩ := Snapshot.bind_eq_ok checked
    obtain ⟨apu, sounded, checked⟩ := Snapshot.bind_eq_ok checked
    obtain ⟨rfl, rfl, rfl⟩ := by simpa using Except.ok.inj checked
    split
    · exact ⟨rest.dmc, rest.bus, rest.cpu⟩
    · obtain ⟨sound, rfl⟩ := Apu.load_ok sounded
      have owed : bus.stall = state.bus.stall :=
        congrArg SystemState.stall (System.load_ok loaded).1
      exact ⟨Dmc.validate_iff.mpr sound.dmc, owed.trans paid.2, paid.1⟩

theorem perform_atRest (rest : console.machine.AtRest) {command : Command}
    (paid : command.OwesNothing) : (console.perform command).2.machine.AtRest := by
  cases command with
  | step => exact rest.step_sound.2.2
  | stepFrame => exact stepFrameFrom_atRest rest 0 frameStepLimit
  | reset =>
    exact @Machine.reset_atRest (console.mapSystem System.reset).machine
      (System.reset_quiet (Dmc.validate_iff.mp rest.dmc))
  | setButtons port buttons =>
    simp only [perform, setButtons, System.setButtons]
    split <;> exact ⟨rest.dmc, rest.bus, rest.cpu⟩
  | load bytes =>
    simp only [perform, load]
    split
    · exact rest
    · rename_i state decoded
      exact loadState_atRest rest (paid state decoded)

/-! ### Runs -/

theorem powerOn_atRest (cart : Cartridge) (settings : Settings) :
    (powerOn cart settings).machine.AtRest :=
  Machine.reset_atRest ⟨⟨Apu.State.powerOn_bounded.dmc, rfl⟩, rfl, rfl⟩

/-- Between two steps of a run nothing is owed. -/
theorem follow_atRest (rest : console.machine.AtRest) {commands : List Command}
    (paid : ∀ command ∈ commands, command.OwesNothing) :
    (console.follow commands).machine.AtRest := by
  induction commands generalizing console with
  | nil => exact rest
  | cons command later ih =>
    have next := perform_atRest rest (paid command List.mem_cons_self)
    exact ih next fun other member => paid other (List.mem_cons_of_mem command member)

/-- Whatever a loaded snapshot owes, the next step spends it all. -/
theorem step_atRest {rom : Rom} {cart : Cartridge} (built : Cartridge.ofRom rom = .ok cart)
    (settings : Settings) (history : List Command)
    (running : (after cart settings history).machine.cpu.halted = false) :
    Machine.Settles (after cart settings history).machine.served
        (after cart settings history).step.2.machine ∧
      (after cart settings history).step.2.machine.AtRest := by
  have boundary := Machine.served_boundary (after_boundary built settings history)
  have charged : (after cart settings history).machine.served.Charged :=
    ⟨boundary.apu.dmc, boundary.dmaPending⟩
  have settles := charged.settles_settle
  obtain ⟨-, -, -, last, bus, cpu⟩ := settles.spent_le charged
  have stepped : (after cart settings history).step.2.machine =
      (after cart settings history).machine.served.settle Machine.settleRounds :=
    congrArg Prod.snd (Machine.step_eq _ running)
  rw [stepped]
  exact ⟨settles, Dmc.validate_iff.mpr last.dmc, bus, cpu⟩

end Console

/-! ### Steps -/

namespace Machine

/-- With nothing owed, the loop that spends owed cycles at the end of a step comes to an end, and
the step takes at most 600 cycles; and nothing is owed between two steps of a run. -/
theorem step_settles :
    (∀ machine : Machine System, machine.AtRest →
      (machine.cpu.halted = true ∨ Settles machine.served machine.step.2) ∧
        machine.step.1.toNat ≤ 600) ∧
    ∀ (cart : Cartridge) (settings : Settings) (history : List Command),
      (∀ command ∈ history, command.OwesNothing) →
        (Console.after cart settings history).machine.AtRest := by
  constructor
  · intro machine rest
    exact ⟨rest.step_sound.1, rest.step_sound.2.1⟩
  · intro cart settings history paid
    exact Console.follow_atRest (Console.powerOn_atRest cart settings) paid

/-- A machine whose sample of one byte starts over and over, at the fastest rate, when the next
byte is due and a copy of object memory waits to be charged. -/
def busy : Machine System where
  bus :=
    { System.powerOn .idle {} with
      apu :=
        { Apu.powerOn {} with
          state :=
            { dmc := { looping := true, rate := 54, bytesRemaining := 1, bitsRemaining := 1 } } }
      dmaPending := true }

theorem step_settles_busy :
    (busy.cpu.halted = true ∨ Settles busy.served busy.step.2) ∧ busy.step.1.toNat ≤ 600 ∧
      (Console.after .idle {} [.step, .reset, .load []]).machine.AtRest := by
  have bounded : busy.bus.apu.state.dmc.Bounded :=
    ⟨(Vector.getElem_mem _ : Dmc.rateOf 15 ∈ Dmc.rateTable), by decide, by decide, by decide⟩
  have loop := step_settles.1 busy ⟨Dmc.validate_iff.mpr bounded, rfl, rfl⟩
  have run := step_settles.2 .idle {} [.step, .reset, .load []]
    (by simp [Command.OwesNothing, MachineState.decode])
  exact ⟨loop.1, loop.2, run⟩

end Machine

end Nes
