import Nes.Proofs.Checked.Processor
import Nes.Proofs.Console.Snapshot
import Nes.Proofs.Console.Timing

/-!
The console with every operation asked for. Whatever snapshot it has accepted, no later command
reaches outside a table, below zero, past the end of a word or past its width, unless the count of
cycles runs over; and that takes 2^64 cycles if the snapshot owes none.
-/

namespace Nes

open Checked

namespace Machine

/-- The machine on a bus that asks. -/
def asking (machine : Machine System) : Machine (Checked System) where
  cpu := machine.cpu
  bus := .ok machine.bus

/-- The machine behind a bus that has run on. -/
def answered (machine : Machine (Checked System)) : Checked (Machine System) :=
  return { cpu := machine.cpu, bus := ← machine.bus }

variable {origin : Cartridge} {rate : Float}
variable {first : Machine (Checked System)} {second : Machine System}

theorem asking_matches (sound : second.bus.Sound origin rate) :
    Matches (Follows origin rate) second.asking second :=
  ⟨rfl, rfl, sound⟩

theorem Matches.answered (same : Matches (Follows origin rate) first second) :
    first.answered = .ok second := by
  rw [Machine.answered, same.bus.1, same.cpu]
  rfl

end Machine

namespace Console

/-! ### Commands -/

def stepChecked (console : Console) : Checked (UInt64 × Console) := do
  let (elapsed, machine) ← console.machine.asking.stepChecked
  return (elapsed, { console with machine := ← machine.answered })

def stepFrameFromChecked (cycles : UInt64) (limit : Nat) (console : Console) :
    Checked (UInt64 × Console) :=
  match limit with
  | 0 => return (cycles, console)
  | limit + 1 => do
    let (elapsed, console) ← console.stepChecked
    if console.system.frameReady then
      return (cycles + elapsed, console.mapSystem System.clearFrame)
    else if elapsed == 0 then return (cycles, console)
    else stepFrameFromChecked (cycles + elapsed) limit console

def resetChecked (console : Console) : Checked Console := do
  let console := console.mapSystem System.reset
  let machine ← console.machine.asking.resetChecked
  return { console with machine := ← machine.answered }

/-- Buttons and snapshots are taken over as they are. -/
def performChecked (console : Console) : Command → Checked (UInt64 × Console)
  | .step => console.stepChecked
  | .stepFrame => stepFrameFromChecked 0 frameStepLimit console
  | .reset => return (0, ← console.resetChecked)
  | .setButtons port buttons => return (0, console.setButtons port buttons)
  | .load bytes => return (0, (console.load bytes).2)

def followChecked (console : Console) : List Command → Checked Console
  | [] => return console
  | command :: rest => do (← console.performChecked command).2.followChecked rest

/-! ### Room to count -/

end Console

/-- The most steps that a command takes; a snapshot brings a count of its own. -/
def Command.steps : Command → Nat
  | .step | .reset => 1
  | .stepFrame => Console.frameStepLimit
  | .setButtons _ _ | .load _ => 0

def Command.stepsOf : List Command → Nat
  | [] => 0
  | command :: rest => stepsOf rest + command.steps

namespace Console

variable {console : Console} {steps : Nat}

theorem stepFrameFrom_room {limit : Nat} (room : console.machine.Room (steps + limit))
    (cycles : UInt64) : (stepFrameFrom cycles limit console).2.machine.Room steps := by
  induction limit generalizing console cycles with
  | zero => exact room
  | succ limit ih =>
    have stepped : console.step.2.machine.Room (steps + limit) := room.step
    have spare := stepped.fewer (Nat.le_add_right steps limit)
    simp only [stepFrameFrom]
    split
    · exact ⟨⟨spare.rest.dmc, spare.rest.bus, spare.rest.cpu⟩, spare.count⟩
    · split
      · exact spare
      · exact ih stepped _

theorem reset_room (room : console.machine.Room (steps + 1)) :
    console.reset.machine.Room steps := by
  obtain ⟨rest, count⟩ := room
  refine ⟨@perform_atRest console rest .reset trivial, ?_⟩
  have counted : console.reset.machine.cpu.cycles =
      console.machine.cpu.cycles + Machine.interruptCycles := rfl
  have seven : Machine.interruptCycles.toNat = 7 := by decide
  rw [counted, UInt64.toNat_add, seven]
  apply Nat.lt_of_le_of_lt (Nat.add_le_add_right (Nat.mod_le _ _) _)
  omega

theorem perform_room {command : Command} (room : console.machine.Room (steps + command.steps))
    (plays : ∀ bytes, command ≠ .load bytes) :
    (console.perform command).2.machine.Room steps := by
  cases command with
  | step => exact room.step
  | stepFrame => exact stepFrameFrom_room room 0
  | reset => exact reset_room room
  | setButtons port buttons =>
    obtain ⟨rest, count⟩ := room
    exact ⟨@perform_atRest console rest (.setButtons port buttons) trivial, count⟩
  | load bytes => exact absurd rfl (plays bytes)

/-- A snapshot brings the count and the debt of the console that it was made from. -/
theorem resuming_room {host : Console} {cart : Cartridge} (room : console.machine.Room steps) :
    (host.resuming console cart).machine.Room steps :=
  ⟨⟨room.rest.dmc, room.rest.bus, room.rest.cpu⟩, room.count⟩

/-! ### Runs -/

variable {origin : Cartridge} {rate : Float} {fits : Prop} (full : origin.Full)
include full

theorem stepChecked_proceeds (sound : console.system.Sound origin rate)
    (room : fits → console.machine.Room 1) :
    Proceeds fits console.stepChecked (· = console.step) := by
  apply ((Machine.asking_matches sound).stepChecked full room).bind
  rintro ⟨elapsed, machine⟩ ⟨rfl, same⟩
  simp only [same.answered]
  exact Proceeds.ok rfl

theorem stepFrameFromChecked_proceeds (boundary : console.system.Boundary origin rate)
    (cycles : UInt64) (limit : Nat) (room : fits → console.machine.Room limit) :
    Proceeds fits (stepFrameFromChecked cycles limit console)
      (· = stepFrameFrom cycles limit console) := by
  induction limit generalizing console cycles with
  | zero => exact Proceeds.ok rfl
  | succ limit ih =>
    have stepped : console.step.2.system.Boundary origin rate := Machine.step_boundary boundary
    have one (fit : fits) := (room fit).fewer (Nat.le_add_left 1 limit)
    apply (stepChecked_proceeds full boundary.toSound one).bind
    rintro _ rfl
    simp only [stepFrameFrom]
    split
    · exact Proceeds.ok rfl
    · split
      · exact Proceeds.ok rfl
      · exact ih stepped _ fun fit => (room fit).step

theorem resetChecked_proceeds (boundary : console.system.Boundary origin rate)
    (room : fits → console.machine.Room 1) :
    Proceeds fits console.resetChecked (· = console.reset) := by
  have cleared : (console.mapSystem System.reset).machine.bus.Sound origin rate :=
    boundary.reset.toSound
  apply ((Machine.asking_matches cleared).resetChecked full fun fit => (room fit).count).bind
  intro machine same
  simp only [same.answered]
  exact Proceeds.ok rfl

theorem performChecked_proceeds (boundary : console.system.Boundary origin rate)
    (command : Command) (room : fits → console.machine.Room command.steps) :
    Proceeds fits (console.performChecked command) (· = console.perform command) := by
  cases command with
  | step => exact stepChecked_proceeds full boundary.toSound room
  | stepFrame => exact stepFrameFromChecked_proceeds full boundary 0 frameStepLimit room
  | reset =>
    apply (resetChecked_proceeds full boundary room).bind
    rintro _ rfl
    exact Proceeds.ok rfl
  | setButtons port buttons => exact Proceeds.ok rfl
  | load bytes => exact Proceeds.ok rfl

theorem followChecked_proceeds (boundary : console.system.Boundary origin rate)
    (identified : origin.Identified) (commands : List Command)
    (room : fits → console.machine.Room (Command.stepsOf commands) ∧
      ∀ bytes, .load bytes ∉ commands) :
    Proceeds fits (console.followChecked commands) (· = console.follow commands) := by
  induction commands generalizing console with
  | nil => exact Proceeds.ok rfl
  | cons command rest ih =>
    have performed := perform_boundary boundary identified command
    have now (fit : fits) := (room fit).1.fewer (Nat.le_add_left command.steps _)
    apply (performChecked_proceeds full boundary command now).bind
    rintro _ rfl
    apply ih performed
    intro fit
    obtain ⟨left, plays⟩ := room fit
    refine ⟨perform_room left ?_, fun bytes later => plays bytes (List.mem_cons_of_mem _ later)⟩
    rintro bytes rfl
    exact plays bytes List.mem_cons_self

omit full

/-- No snapshot that a console accepts can stop it later: whatever commands follow, each operation
that they need can be carried out, unless a 64-bit counter runs over; and none runs over that has
room for their cycles. Reads for a trace can always be carried out, and so can the sum of the
adder. -/
theorem load_harmless {rom : Rom} {cart : Cartridge} (built : Cartridge.ofRom rom = .ok cart)
    (settings : Settings) (history : List Command) {bytes : List UInt8} {next : Console}
    (accepted : (after cart settings history).load bytes = (.ok (), next))
    (later : List Command) :
    (next.followChecked later = .ok (next.follow later) ∨
        next.followChecked later = .error .counter) ∧
      (next.machine.Room (Command.stepsOf later) → (∀ bytes, .load bytes ∉ later) →
        next.followChecked later = .ok (next.follow later)) ∧
      (∀ address, (next.follow later).system.peekChecked address =
        .ok ((next.follow later).system.peek address)) ∧
      ∀ (cpu : Cpu) (value : UInt8), cpu.addChecked value = .ok (cpu.add value) := by
  obtain ⟨identified, -⟩ := Cartridge.ofRom_sound built
  obtain ⟨full, -⟩ := Cartridge.ofRom_size built
  have reached := load_boundary (after_boundary built settings history) identified bytes
  rw [accepted] at reached
  have followed := follow_boundary reached identified later
  refine ⟨?_, ?_, ?_, ?_⟩
  · exact (followChecked_proceeds full reached identified later False.elim).eq_or
  · intro room plays
    exact (followChecked_proceeds full reached identified later
      fun _ => ⟨room, plays⟩).eq_ok trivial
  · exact followed.toSound.peekChecked_eq full
  · exact Cpu.addChecked_eq

theorem load_harmless_idle :
    ∃ next, (after .idle {} []).load (after .idle {} []).save = (.ok (), next) ∧
      next.followChecked [.stepFrame, .reset] = .ok (next.follow [.stepFrame, .reset]) ∧
      ∀ address, (next.follow [.stepFrame, .reset]).system.peekChecked address =
        .ok ((next.follow [.stepFrame, .reset]).system.peek address) := by
  have boundary := after_boundary Cartridge.ofRom_idle {} []
  have room : (after .idle {} []).machine.Room (Command.stepsOf [.stepFrame, .reset]) :=
    ⟨powerOn_atRest .idle {}, by decide +kernel⟩
  have accepted := load_resuming Cartridge.ofRom_idle boundary (by decide +kernel) boundary
  obtain ⟨-, runs, peeks, -⟩ :=
    load_harmless Cartridge.ofRom_idle {} [] accepted [.stepFrame, .reset]
  exact ⟨_, accepted, runs (resuming_room room) (by simp), peeks⟩

end Console

end Nes
