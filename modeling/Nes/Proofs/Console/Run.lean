import Nes.Console.Basic
import Nes.Proofs.Bus.Sound
import Nes.Proofs.Bus.Settling

/-!
Whole runs of a console. A host gives commands one after the other; every command, an accepted or
refused snapshot included, leaves the console in the state that holds between two steps.
-/

namespace Nes

/-- What a host can ask of a console. -/
inductive Command where
  | step
  | stepFrame
  | reset
  | setButtons (port : Nat) (buttons : UInt8)
  | load (bytes : List UInt8)
  deriving DecidableEq

/-- What a host sees of a console after a command: the cycles that have passed, the bytes of a
snapshot, and the picture. -/
structure Report where
  cycles : UInt64
  bytes : List UInt8
  frame : Vector UInt8 (frameWidth * frameHeight)

/-! ### Steps -/

namespace Machine

variable {origin : Cartridge} {rate : Float} {machine : Machine System}

/-- What comes next leaves the parts within their bounds, and passing its cycles brings the system
to the state between two steps. -/
theorem served_boundary (boundary : machine.bus.Boundary origin rate) :
    machine.served.bus.Boundary origin rate := by
  have done : machine.latchNmi.serve.bus.Sound origin rate :=
    serve_preserves System.Sound.read System.Sound.write boundary.toSound.pollNmi
  obtain ⟨cycles, least, -, -, same⟩ := machine.served_eq
  rw [same]
  exact done.tick (.inl (by omega))

theorem settle_boundary (boundary : machine.bus.Boundary origin rate) (rounds : Nat) :
    (machine.settle rounds).bus.Boundary origin rate := by
  induction rounds generalizing machine with
  | zero => exact boundary
  | succ rounds ih =>
    have taken : machine.takeStall.2.bus.Boundary origin rate :=
      ⟨⟨boundary.picture, boundary.apu, boundary.rate⟩, boundary.dmaPending, boundary.ready⟩
    simp only [settle]
    split
    · exact taken
    · exact ih (taken.toSound.tick (.inr taken.ready))

theorem step_boundary (boundary : machine.bus.Boundary origin rate) :
    machine.step.2.bus.Boundary origin rate := by
  cases halted : machine.cpu.halted with
  | true =>
    rw [step_halted machine halted]
    exact boundary
  | false =>
    rw [step_eq machine halted]
    exact settle_boundary (served_boundary boundary) _

theorem reset_boundary (sound : machine.bus.Sound origin rate) :
    machine.reset.bus.Boundary origin rate := by
  have read : ((machine.mapCpu fun cpu =>
      { cpu.withFlag .interruptDisable true with sp := cpu.sp - 3, irqInhibit := true }).readWord
        resetVector).2.bus.Sound origin rate :=
    readWord_preserves System.Sound.read System.Sound.write sound resetVector
  exact read.tick (.inl (by decide))

end Machine

/-! ### Loading -/

namespace Cartridge

/-- Loading is all or nothing: a refused record leaves the cartridge exactly as it was, although the
record's memories may have been taken over before its registers were refused. -/
theorem loadCart_eq {cart : Cartridge} (identified : cart.Identified)
    (current : cart.board.Current cart.memory) (ready : cart.board.Ready) (state : CartridgeState) :
    Console.loadCart cart state =
      match cart.load state with
      | (.ok (), next) => (.ok (), next)
      | (.error fault, _) => (.error fault, cart) := by
  unfold Console.loadCart
  rcases loaded : cart.load state with ⟨result, partly⟩
  cases result with
  | ok _ => rfl
  | error fault =>
    have restored := load_recorded (load_error_blank loaded) identified current ready
    simp only [restored]

theorem loadCart_error {cart next : Cartridge} {state : CartridgeState} {fault : Snapshot.Fault}
    (identified : cart.Identified) (current : cart.board.Current cart.memory)
    (ready : cart.board.Ready) (refused : Console.loadCart cart state = (.error fault, next)) :
    next = cart := by
  rw [loadCart_eq identified current ready] at refused
  split at refused
  · cases refused
  · exact (Prod.mk.inj refused).2.symm

theorem loadCart_ok {cart next : Cartridge} {state : CartridgeState}
    (accepted : Console.loadCart cart state = (.ok (), next)) : cart.load state = (.ok (), next) := by
  unfold Console.loadCart at accepted
  cases loaded : cart.load state with
  | mk result partly =>
    cases result with
    | ok _ => simpa [loaded] using accepted
    | error reason =>
      simp only [loaded] at accepted
      split at accepted <;> simp at accepted

end Cartridge

theorem System.load_ok {system next : System} {state : SystemState}
    (success : system.load state = .ok next) :
    next.save = state ∧ next.dmaPending = system.dmaPending := by
  obtain ⟨ram, sized, result⟩ := Snapshot.bind_eq_ok success
  obtain rfl := Except.ok.inj result
  refine ⟨?_, rfl⟩
  simp only [System.save, Snapshot.toList_of_sized sized]

namespace Console

variable {origin : Cartridge} {rate : Float} {console next : Console}

/-- The cartridge in a console is of the kind of the one that was inserted. -/
theorem cart_identified (boundary : console.system.Boundary origin rate)
    (identified : origin.Identified) : console.system.cart.Identified :=
  identified.of_blank boundary.picture.cart.blank

/-- A snapshot that is refused, at whatever stage, leaves the whole console as it was. -/
theorem loadState_error {state : MachineState} {fault : Snapshot.Fault}
    (boundary : console.system.Boundary origin rate) (identified : origin.Identified)
    (refused : console.loadState state = (.error fault, next)) : next = console := by
  unfold loadState at refused
  simp only at refused
  split at refused
  · exact (Prod.mk.inj refused).2.symm
  · split at refused
    · rename_i stopped
      have same := Cartridge.loadCart_error (cart_identified boundary identified)
        boundary.picture.cart.current boundary.ready stopped
      rw [← (Prod.mk.inj refused).2, same]
      rfl
    · cases refused

/-- A snapshot that is accepted is taken over whole, but patterns that it lacks stay as they are;
the console is between two steps again. -/
theorem loadState_ok {state : MachineState} (boundary : console.system.Boundary origin rate)
    (identified : origin.Identified) (accepted : console.loadState state = (.ok (), next)) :
    next.system.Boundary origin rate ∧ next.saveState =
      { state with
        mapper := { state.mapper with
          chrRam := state.mapper.chrRam.or console.system.cart.memory.chrRam } } := by
  unfold loadState at accepted
  simp only at accepted
  split at accepted
  · cases accepted
  · rename_i checked
    obtain ⟨ppu, restored, checked⟩ := Snapshot.bind_eq_ok checked
    obtain ⟨bus, loaded, checked⟩ := Snapshot.bind_eq_ok checked
    obtain ⟨apu, sounded, checked⟩ := Snapshot.bind_eq_ok checked
    obtain ⟨rfl, rfl, rfl⟩ := by simpa using Except.ok.inj checked
    split at accepted
    · cases accepted
    · rename_i cart inserted
      obtain rfl := (Prod.mk.inj accepted).2
      obtain ⟨bounded, picture⟩ := Ppu.of_restore restored
      obtain ⟨saved, pending⟩ := System.load_ok loaded
      obtain ⟨sound, rfl⟩ := Apu.load_ok sounded
      obtain ⟨blank, current, ready, recorded⟩ := Cartridge.load_ok
        (cart_identified boundary identified) (Cartridge.loadCart_ok inserted)
      refine ⟨⟨⟨⟨bounded, blank.trans boundary.picture.cart.blank, current⟩, sound,
        boundary.rate⟩, pending.trans boundary.dmaPending, ready⟩, ?_⟩
      change MachineState.mk state.cpu ppu.save state.apu bus.save cart.save = _
      rw [picture, saved, recorded]

/-- Loading bytes is loading the snapshot that they decode to, if they do. -/
theorem load_ok {bytes : List UInt8} (accepted : console.load bytes = (.ok (), next)) :
    ∃ state, MachineState.decode bytes = .ok state ∧ console.loadState state = (.ok (), next) := by
  unfold load at accepted
  split at accepted
  · cases accepted
  · rename_i state decoded
    exact ⟨state, decoded, accepted⟩

theorem load_error {bytes : List UInt8} {fault : Snapshot.Fault}
    (boundary : console.system.Boundary origin rate) (identified : origin.Identified)
    (refused : console.load bytes = (.error fault, next)) : next = console := by
  unfold load at refused
  split at refused
  · exact (Prod.mk.inj refused).2.symm
  · exact loadState_error boundary identified refused

theorem load_boundary (boundary : console.system.Boundary origin rate)
    (identified : origin.Identified) (bytes : List UInt8) :
    (console.load bytes).2.system.Boundary origin rate := by
  cases loaded : console.load bytes with
  | mk result next =>
    cases result with
    | error fault =>
      rw [load_error boundary identified loaded]
      exact boundary
    | ok _ =>
      obtain ⟨state, -, accepted⟩ := load_ok loaded
      exact (loadState_ok boundary identified accepted).1

/-! ### Runs -/

theorem stepFrameFrom_boundary (boundary : console.system.Boundary origin rate)
    (cycles : UInt64) (limit : Nat) :
    (stepFrameFrom cycles limit console).2.system.Boundary origin rate := by
  induction limit generalizing console cycles with
  | zero => exact boundary
  | succ limit ih =>
    have stepped : console.step.2.system.Boundary origin rate := Machine.step_boundary boundary
    simp only [stepFrameFrom]
    split
    · exact stepped.clearFrame
    · split
      · exact stepped
      · exact ih stepped _

/-- Carries out a command; answers the cycles that have passed. -/
def perform (console : Console) : Command → UInt64 × Console
  | .step => console.step
  | .stepFrame => console.stepFrame
  | .reset => (0, console.reset)
  | .setButtons port buttons => (0, console.setButtons port buttons)
  | .load bytes => (0, (console.load bytes).2)

/-- The console after a list of commands. -/
def follow (console : Console) : List Command → Console
  | [] => console
  | command :: rest => (console.perform command).2.follow rest

/-- What the host sees after each command of a list. -/
def transcript (console : Console) : List Command → List Report
  | [] => []
  | command :: rest =>
    let (cycles, console) := console.perform command
    { cycles, bytes := console.save, frame := console.frame } :: console.transcript rest

theorem perform_boundary (boundary : console.system.Boundary origin rate)
    (identified : origin.Identified) (command : Command) :
    (console.perform command).2.system.Boundary origin rate := by
  cases command with
  | step => exact Machine.step_boundary boundary
  | stepFrame => exact stepFrameFrom_boundary boundary 0 frameStepLimit
  | reset =>
    exact @Machine.reset_boundary _ _ (console.mapSystem System.reset).machine
      boundary.reset.toSound
  | setButtons port buttons => exact boundary.setButtons port buttons
  | load bytes => exact load_boundary boundary identified bytes

theorem follow_boundary (boundary : console.system.Boundary origin rate)
    (identified : origin.Identified) (commands : List Command) :
    (console.follow commands).system.Boundary origin rate := by
  induction commands generalizing console with
  | nil => exact boundary
  | cons command rest ih => exact ih (perform_boundary boundary identified command)

/-- The console that a host has after power-on and a list of commands. -/
def after (cart : Cartridge) (settings : Settings) (history : List Command) : Console :=
  (powerOn cart settings).follow history

/-- Every console that a host can reach from power-on is between two steps. -/
theorem after_boundary {rom : Rom} {cart : Cartridge} (built : Cartridge.ofRom rom = .ok cart)
    (settings : Settings) (history : List Command) :
    (after cart settings history).system.Boundary cart settings.cyclesPerSample := by
  obtain ⟨identified, -⟩ := Cartridge.ofRom_sound built
  have started : (powerOn cart settings).system.Boundary cart settings.cyclesPerSample :=
    Machine.reset_boundary (System.powerOn_boundary built settings).toSound
  exact follow_boundary started identified history

end Console

end Nes
