import Nes.Proofs.Bus.Core
import Nes.Proofs.Codec.Formats
import Nes.Proofs.Console.Run

/-!
Snapshots and what follows them. A snapshot of a console is accepted by every console with the same
cartridge and settings, and the two go on alike; a refused snapshot changes nothing; an accepted one
is recorded again as it was, but for patterns that it lacks.
-/

namespace Nes

/-- The command neither looks at the latch that announces a picture nor loads a snapshot. -/
def Command.plain : Command → Bool
  | .step | .reset | .setButtons _ _ => true
  | .stepFrame | .load _ => false

namespace Console

variable {origin : Cartridge} {rate : Float} {first second console host next : Console}

/-! ### Consoles that go on alike -/

/-- Equal processors on systems with equal cores. -/
def Alike (first second : Console) : Prop :=
  Machine.Matches (fun first second : System => first.core = second.core) first.machine
    second.machine

theorem Alike.saveState (alike : Alike first second) : first.saveState = second.saveState := by
  have core := alike.bus
  have ppu : first.system.ppu.save = second.system.ppu.save :=
    congrArg (fun system => system.ppu.save) core
  have apu : first.system.apu.state = second.system.apu.state :=
    congrArg (fun system => system.apu.state) core
  have bus : first.system.save = second.system.save :=
    (congrArg System.save core : first.system.core.save = second.system.core.save)
  have cart : first.system.cart.save = second.system.cart.save :=
    congrArg (fun system => system.cart.save) core
  simp only [Console.saveState, alike.cpu, ppu, apu, bus, cart]

theorem Alike.frame (alike : Alike first second) : first.frame = second.frame :=
  congrArg (fun system => system.ppu.frame) alike.bus

theorem Alike.perform (alike : Alike first second) {command : Command}
    (plain : command.plain) :
    (first.perform command).1 = (second.perform command).1 ∧
      Alike (first.perform command).2 (second.perform command).2 := by
  cases command with
  | step =>
    have stepped := Machine.Matches.step System.core_simulates alike
    exact ⟨stepped.answer, stepped.machine⟩
  | stepFrame => cases plain
  | reset =>
    have core := congrArg (fun system => system.reset.core) alike.bus
    simp only [System.reset_core] at core
    exact ⟨rfl, Machine.Matches.reset System.core_simulates ⟨alike.cpu, core⟩⟩
  | setButtons port buttons =>
    have core := congrArg (fun system => (system.setButtons port buttons).core) alike.bus
    simp only [System.setButtons_core] at core
    exact ⟨rfl, alike.cpu, core⟩
  | load bytes => cases plain

/-- Alike consoles show the host the same after each of any plain commands. -/
theorem Alike.transcript (alike : Alike first second) {commands : List Command}
    (plain : ∀ command ∈ commands, command.plain) :
    first.transcript commands = second.transcript commands := by
  induction commands generalizing first second with
  | nil => rfl
  | cons command rest ih =>
    obtain ⟨cycles, next⟩ := alike.perform (plain command List.mem_cons_self)
    have behind := ih next fun other member => plain other (List.mem_cons_of_mem command member)
    simp only [Console.transcript, cycles, behind, next.frame, Console.save, next.saveState]

/-! ### Records of reached consoles -/

private theorem vector_countable {α : Type} {size : Nat} (values : Vector α size)
    (small : size < UInt64.size) : values.toList.length < UInt64.size := by
  rwa [Vector.length_toList]

/-- The lists of a snapshot are far shorter than their length fields can count. -/
theorem saveState_countable {rom : Rom} (built : Cartridge.ofRom rom = .ok origin)
    (boundary : console.system.Boundary origin rate) : console.saveState.Countable := by
  obtain ⟨sram, patterns⟩ := Cartridge.ofRom_size built
  have same := CartridgeMemory.SameBuild.of_blank
    (Cartridge.memory_blank boundary.picture.cart.blank)
  have ppu : console.system.ppu.save.Countable :=
    ⟨vector_countable _ (by decide), vector_countable _ (by decide),
      vector_countable _ (by decide), vector_countable _ (by decide)⟩
  refine ⟨ppu, vector_countable _ (by decide), ?_, ?_⟩
  · have size : console.system.cart.memory.sram.toList.length = sramSize :=
      same.sramSize.trans sram
    exact Nat.lt_of_le_of_lt (Nat.le_of_eq size) (by decide)
  · intro bytes member
    simp only [saveState, Cartridge.save, CartridgeMemory.chrRam] at member
    split at member
    · rename_i writable
      rw [same.chrWritable] at writable
      obtain rfl := Option.some.inj member
      exact Nat.lt_of_le_of_lt (Nat.le_of_eq (same.chrSize.trans (patterns writable))) (by decide)
    · cases member

/-! ### Taking a record back -/

/-- `host` with all that a snapshot of `console` records, but with the cartridge `cart`. -/
def resuming (host console : Console) (cart : Cartridge) : Console :=
  { host with
    machine :=
      { cpu := console.machine.cpu
        bus :=
          { host.system with
            ram := console.system.ram
            cart
            ppu := console.system.ppu.unlatched
            apu := host.system.apu.restore console.system.apu.state
            controllers := console.system.controllers
            openBus := console.system.openBus
            cycles := console.system.cycles
            stall := console.system.stall } } }

/-- What a console has recorded passes every check but perhaps those of the host's cartridge. -/
theorem loadState_saved (boundary : console.system.Boundary origin rate)
    (phase : console.system.apu.state.samplePhase.valid) (host : Console)
    (record : CartridgeState) :
    host.loadState { console.saveState with mapper := record } =
      match loadCart host.system.cart record with
      | (.error fault, cart) => (.error fault, host.mapSystem ({ · with cart }))
      | (.ok (), cart) => (.ok (), host.resuming console cart) := by
  have ppu : console.system.ppu.save.restore = .ok console.system.ppu.unlatched :=
    boundary.picture.ppu.restore_save
  have apu : host.system.apu.load console.system.apu.state =
      .ok (host.system.apu.restore console.system.apu.state) :=
    Apu.load_bounded boundary.apu phase
  have bus : host.system.load console.system.save =
      .ok { host.system with
        ram := console.system.ram
        controllers := console.system.controllers
        openBus := console.system.openBus
        cycles := console.system.cycles
        stall := console.system.stall } := by
    simp only [System.load, System.save, Snapshot.sized_toList, bind, Except.bind, pure,
      Except.pure]
  simp only [loadState, saveState, ppu, bus, apu, bind, Except.bind, pure, Except.pure]
  rfl

theorem loadState_resuming {record : CartridgeState} {cart : Cartridge}
    (boundary : console.system.Boundary origin rate)
    (phase : console.system.apu.state.samplePhase.valid)
    (inserted : host.system.cart.load record = (.ok (), cart)) :
    host.loadState { console.saveState with mapper := record } =
      (.ok (), host.resuming console cart) := by
  have whole : loadCart host.system.cart record = (.ok (), cart) := by
    simp only [loadCart, inserted]
  rw [loadState_saved boundary phase host record, whole]

theorem resuming_alike (boundary : console.system.Boundary origin rate)
    (hosted : host.system.Boundary origin rate) :
    Alike (host.resuming console console.system.cart) console := by
  refine ⟨rfl, ?_⟩
  have pending := hosted.dmaPending.trans boundary.dmaPending.symm
  have paced := hosted.rate.trans boundary.rate.symm
  simp only [resuming, System.core, Apu.core, Apu.restore, pending, paced]
  rfl

/-- The bytes of a snapshot decode to what they were made from. -/
theorem load_encode {state : MachineState} (countable : state.Countable) (host : Console) :
    host.load state.encode = host.loadState state := by
  have decoded := MachineState.decode_encode countable []
  rw [List.append_nil] at decoded
  simp only [load, decoded]

/-- A host takes back whole what another console with the same cartridge and rate has saved. -/
theorem load_resuming {rom : Rom} (built : Cartridge.ofRom rom = .ok origin)
    (boundary : console.system.Boundary origin rate)
    (phase : console.system.apu.state.samplePhase.valid)
    (hosted : host.system.Boundary origin rate) :
    host.load console.save = (.ok (), host.resuming console console.system.cart) := by
  obtain ⟨identified, -⟩ := Cartridge.ofRom_sound built
  have inserted : host.system.cart.load console.system.cart.save =
      (.ok (), console.system.cart) :=
    Cartridge.load_recorded
      (hosted.picture.cart.blank.trans boundary.picture.cart.blank.symm)
      (cart_identified boundary identified) boundary.picture.cart.current boundary.ready
  exact (load_encode (saveState_countable built boundary) host).trans
    (loadState_resuming boundary phase inserted)

/-- A host that has taken back what another console has saved is like it. -/
theorem load_saved {rom : Rom} (built : Cartridge.ofRom rom = .ok origin)
    (boundary : console.system.Boundary origin rate)
    (phase : console.system.apu.state.samplePhase.valid)
    (hosted : host.system.Boundary origin rate) :
    ∃ resumed, host.load console.save = (.ok (), resumed) ∧ Alike resumed console :=
  ⟨_, load_resuming built boundary phase hosted, resuming_alike boundary hosted⟩

/-- The record of a console with other work memory and the registers of another board. -/
def otherBoard (console : Console) (sram : List UInt8) (board : BoardState) : MachineState :=
  let state := console.saveState
  { state with mapper := { state.mapper with sram, board } }

/-- A console refuses its own snapshot with the registers of another board. -/
theorem load_otherBoard {rom : Rom} (built : Cartridge.ofRom rom = .ok origin)
    (boundary : console.system.Boundary origin rate)
    (phase : console.system.apu.state.samplePhase.valid) {sram : List UInt8}
    (size : sram.length = sramSize) {board : BoardState}
    (other : ∀ memory, console.system.cart.board.restore? memory board = none) :
    console.load (console.otherBoard sram board).encode =
      (.error (.sizeMismatch .board), console) := by
  obtain ⟨identified, -⟩ := Cartridge.ofRom_sound built
  have same := CartridgeMemory.SameBuild.of_blank
    (Cartridge.memory_blank boundary.picture.cart.blank)
  have fits : sram.length = console.system.cart.memory.sram.size := by
    rw [size, same.sramSize, (Cartridge.ofRom_size built).1]
  have countable : (console.otherBoard sram board).Countable := by
    obtain ⟨ppu, ram, mapper⟩ := saveState_countable built boundary
    refine ⟨ppu, ram, ?_, mapper.chrRam⟩
    exact Nat.lt_of_le_of_lt (Nat.le_of_eq size) (by decide)
  have refused := Cartridge.load_otherBoard (cart_identified boundary identified) fits other
  have whole := Cartridge.loadCart_eq (cart_identified boundary identified)
    boundary.picture.cart.current boundary.ready
    { console.system.cart.save with sram, board }
  rw [refused] at whole
  rw [load_encode countable]
  refine (loadState_saved boundary phase console _).trans ?_
  simp only [saveState, whole]
  rfl

/-- The record of a console without its patterns. -/
def patternless (console : Console) : MachineState :=
  let state := console.saveState
  { state with mapper := { state.mapper with chrRam := none } }

theorem patternless_countable {rom : Rom} (built : Cartridge.ofRom rom = .ok origin)
    (boundary : console.system.Boundary origin rate) : console.patternless.Countable := by
  obtain ⟨ppu, ram, mapper⟩ := saveState_countable built boundary
  exact ⟨ppu, ram, mapper.sram, fun _ absent => nomatch absent⟩

/-- A console accepts its own snapshot without the patterns. -/
theorem load_patternless {rom : Rom} (built : Cartridge.ofRom rom = .ok origin)
    (boundary : console.system.Boundary origin rate)
    (phase : console.system.apu.state.samplePhase.valid) :
    console.load console.patternless.encode =
      (.ok (), console.resuming console console.system.cart) := by
  obtain ⟨identified, -⟩ := Cartridge.ofRom_sound built
  rw [load_encode (patternless_countable built boundary)]
  exact loadState_resuming boundary phase <|
    Cartridge.load_patternless (cart_identified boundary identified)
      boundary.picture.cart.current boundary.ready

/-! ### Saving and loading -/

/-- A console takes back what another one with the same cartridge and settings has saved, and then
shows the host the same as that one, whatever either went through before. -/
theorem load_resumes {rom : Rom} {cart : Cartridge} (built : Cartridge.ofRom rom = .ok cart)
    (settings : Settings) (history others : List Command)
    (phase : (after cart settings history).system.apu.state.samplePhase.valid) :
    ∃ resumed,
      (after cart settings others).load (after cart settings history).save = (.ok (), resumed) ∧
        ∀ later : List Command, (∀ command ∈ later, command.plain) →
          resumed.transcript later = (after cart settings history).transcript later := by
  obtain ⟨resumed, accepted, alike⟩ := load_saved built (after_boundary built settings history)
    phase (after_boundary built settings others)
  exact ⟨resumed, accepted, fun _ plain => alike.transcript plain⟩

theorem load_resumes_idle :
    (after .idle {} [.reset, .setButtons 0 0x81]).system.apu.state.samplePhase.valid ∧
      ∃ resumed,
        (after .idle {} [.step, .load []]).load
            (after .idle {} [.reset, .setButtons 0 0x81]).save = (.ok (), resumed) ∧
          ∀ later : List Command, (∀ command ∈ later, command.plain) →
            resumed.transcript later =
              (after .idle {} [.reset, .setButtons 0 0x81]).transcript later := by
  have phase : (after .idle {} [.reset, .setButtons 0 0x81]).system.apu.state.samplePhase.valid := by
    decide +kernel
  exact ⟨phase, load_resumes Cartridge.ofRom_idle {} _ _ phase⟩

/-- A refused snapshot changes nothing at all. -/
theorem load_refused {rom : Rom} {cart : Cartridge} (built : Cartridge.ofRom rom = .ok cart)
    (settings : Settings) (history : List Command) {bytes : List UInt8} {fault : Snapshot.Fault}
    {next : Console} (refused : (after cart settings history).load bytes = (.error fault, next)) :
    next = after cart settings history := by
  obtain ⟨identified, -⟩ := Cartridge.ofRom_sound built
  exact load_error (after_boundary built settings history) identified refused

theorem load_refused_idle :
    ∃ next, (after .idle {} [.reset]).load ((after .idle {} [.reset]).otherBoard
        (List.replicate sramSize 0xFF) (.axRom 1)).encode = (.error (.sizeMismatch .board), next) ∧
      next = after .idle {} [.reset] := by
  have boundary := after_boundary Cartridge.ofRom_idle {} [.reset]
  have kind := Cartridge.board_blank boundary.picture.cart.blank
  have other (memory : CartridgeMemory) :
      (after .idle {} [.reset]).system.cart.board.restore? memory (.axRom 1) = none := by
    cases board : (after .idle {} [.reset]).system.cart.board <;> rw [board] at kind <;>
      first
        | rfl
        | cases kind
  have size : (List.replicate sramSize (0xFF : UInt8)).length = sramSize := List.length_replicate
  have refused := load_otherBoard Cartridge.ofRom_idle boundary (by decide +kernel) size other
  exact ⟨_, refused, load_refused Cartridge.ofRom_idle {} [.reset] refused⟩

/-- The bytes of the accepted state are saved again if nothing is kept in place of patterns that it
lacks, and only then. -/
theorem save_eq_encode_iff {rom : Rom} (built : Cartridge.ofRom rom = .ok origin)
    (boundary : console.system.Boundary origin rate) {state : MachineState} {rest : List UInt8}
    (decoded : MachineState.decode (state.encode ++ rest) = .ok state)
    (accepted : console.loadState state = (.ok (), next)) :
    next.save = state.encode ↔
      state.mapper.chrRam.isSome ∨ origin.memory.chrWritable = false := by
  obtain ⟨identified, -⟩ := Cartridge.ofRom_sound built
  obtain ⟨between, saved⟩ := loadState_ok boundary identified accepted
  have same := CartridgeMemory.SameBuild.of_blank
    (Cartridge.memory_blank boundary.picture.cart.blank)
  have kept : next.save = state.encode ↔ next.saveState = state := by
    constructor
    · intro bytes
      have read := MachineState.decode_encode (saveState_countable built between) rest
      rw [← save, bytes, decoded] at read
      exact (Except.ok.inj read).symm
    · exact congrArg MachineState.encode
  have patterns : next.saveState = state ↔
      state.mapper.chrRam.or console.system.cart.memory.chrRam = state.mapper.chrRam := by
    rw [saved]
    constructor
    · exact congrArg fun state : MachineState => state.mapper.chrRam
    · intro unchanged
      rw [unchanged]
  rw [kept, patterns, ← same.chrWritable]
  cases state.mapper.chrRam with
  | some bytes => simp
  | none => simp [CartridgeMemory.chrRam]

/-- An accepted snapshot is what the bytes begin with, and all of it is taken over; a snapshot
without patterns leaves writable ones as they were, and then it is not what is saved next. -/
theorem save_of_load {rom : Rom} {cart : Cartridge} (built : Cartridge.ofRom rom = .ok cart)
    (settings : Settings) (history : List Command) {bytes : List UInt8} {next : Console}
    (accepted : (after cart settings history).load bytes = (.ok (), next)) :
    ∃ state rest, MachineState.decode bytes = .ok state ∧ bytes = state.encode ++ rest ∧
      next.saveState =
        { state with
          mapper := { state.mapper with
            chrRam := state.mapper.chrRam.or
              (after cart settings history).system.cart.memory.chrRam } } ∧
      (next.save = state.encode ↔
        state.mapper.chrRam.isSome ∨ cart.memory.chrWritable = false) := by
  have boundary := after_boundary built settings history
  obtain ⟨identified, -⟩ := Cartridge.ofRom_sound built
  obtain ⟨state, decoded, loaded⟩ := load_ok accepted
  obtain ⟨rest, rfl⟩ := MachineState.encode_of_decode decoded
  exact ⟨state, rest, decoded, rfl, (loadState_ok boundary identified loaded).2,
    save_eq_encode_iff built boundary decoded loaded⟩

theorem save_of_load_idle :
    ∃ next, (after .idle {} []).load (after .idle {} []).patternless.encode = (.ok (), next) ∧
      ∃ state rest, MachineState.decode (after .idle {} []).patternless.encode = .ok state ∧
        (after .idle {} []).patternless.encode = state.encode ++ rest ∧
        next.saveState =
          { state with
            mapper := { state.mapper with
              chrRam := state.mapper.chrRam.or
                (after .idle {} []).system.cart.memory.chrRam } } ∧
        (next.save = state.encode ↔
          state.mapper.chrRam.isSome ∨ Cartridge.idle.memory.chrWritable = false) := by
  have accepted := load_patternless Cartridge.ofRom_idle (after_boundary Cartridge.ofRom_idle {} [])
    (by decide +kernel)
  exact ⟨_, accepted, save_of_load Cartridge.ofRom_idle {} [] accepted⟩

/-- Not every accepted snapshot is saved again: an idle console accepts its own without patterns,
and saves it with them. -/
theorem idle_keeps_patterns :
    ¬ ∀ (rom : Rom) (cart : Cartridge) (settings : Settings) (history : List Command)
      (bytes : List UInt8) (next : Console), Cartridge.ofRom rom = .ok cart →
        (after cart settings history).load bytes = (.ok (), next) →
        ∃ state rest, MachineState.decode bytes = .ok state ∧ bytes = state.encode ++ rest ∧
          next.save = state.encode := by
  intro identity
  have boundary := after_boundary Cartridge.ofRom_idle {} []
  have countable := patternless_countable Cartridge.ofRom_idle boundary
  have accepted := load_patternless Cartridge.ofRom_idle boundary (by decide +kernel)
  obtain ⟨state, rest, decoded, bytes, saved⟩ :=
    identity _ _ {} [] _ _ Cartridge.ofRom_idle accepted
  have read := MachineState.decode_encode countable []
  rw [List.append_nil, decoded] at read
  obtain rfl := Except.ok.inj read
  rw [bytes] at decoded
  rw [load_encode countable] at accepted
  have kept := (save_eq_encode_iff Cartridge.ofRom_idle boundary decoded accepted).mp saved
  rcases kept with recorded | fixed
  · cases recorded
  · cases fixed

end Console

end Nes
