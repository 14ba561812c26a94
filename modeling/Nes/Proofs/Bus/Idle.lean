import Mathlib.Logic.Function.Iterate
import Nes.Proofs.Audio.FrameCounter
import Nes.Proofs.Bus.Debt
import Nes.Proofs.Cartridge.Contents
import Nes.Proofs.Video.Interrupt

/-!
Cycles in which nothing is at work: the picture is not drawn and raises no interrupt, every note and
the sample have ended, and the board takes writes. The counters go on, and so does the filter of a
board that follows the address line. Everything else stays as it is.
-/

namespace Nes

/-! ### Boards -/

namespace Mmc3.Registers

/-- The registers after cycles without a pattern address on the bus: the filter runs down. -/
def rested (registers : Registers) (cycles : Nat) : Registers :=
  { registers with a12Filter := UInt8.ofNat (registers.a12Filter.toNat - cycles) }

theorem rested_zero (registers : Registers) : registers.rested 0 = registers := by
  rw [rested, Nat.sub_zero, UInt8.ofNat_toNat]

theorem rested_add (registers : Registers) (first second : Nat) :
    (registers.rested first).rested second = registers.rested (first + second) := by
  have left : (UInt8.ofNat (registers.a12Filter.toNat - first)).toNat =
      registers.a12Filter.toNat - first :=
    UInt8.toNat_ofNat_of_lt (Nat.lt_of_le_of_lt (Nat.sub_le _ _) registers.a12Filter.toNat_lt)
  rw [rested, rested, rested, left, Nat.sub_sub]

theorem step_eq_rested (registers : Registers) : registers.step = registers.rested 1 := by
  rw [step, rested]
  split
  · rename_i waits
    have one : (1 : UInt8) ≤ registers.a12Filter :=
      UInt8.le_iff_toNat_le.mpr (UInt8.lt_iff_toNat_lt.mp waits)
    have left : (registers.a12Filter - 1).toNat = registers.a12Filter.toNat - 1 :=
      UInt8.toNat_sub_of_le _ _ one
    rw [← left, UInt8.ofNat_toNat]
  · rename_i done
    have zero : registers.a12Filter.toNat = 0 :=
      Nat.eq_zero_of_not_pos fun waits => done (UInt8.lt_iff_toNat_lt.mpr waits)
    rw [zero, Nat.zero_sub, ← zero, UInt8.ofNat_toNat]

end Mmc3.Registers

namespace Board

variable {board : Board}

/-- The board after cycles without a pattern address on the bus. -/
def rested (board : Board) (cycles : Nat) : Board :=
  match board with
  | .mmc3 chip => .mmc3 { chip with registers := chip.registers.rested cycles }
  | board => board

theorem rested_zero (board : Board) : board.rested 0 = board := by
  cases board with
  | mmc3 chip =>
    change Board.mmc3 { chip with registers := chip.registers.rested 0 } = _
    rw [chip.registers.rested_zero]
  | nrom | mmc1 | uxRom | cnRom | axRom => rfl

theorem rested_add (board : Board) (first second : Nat) :
    (board.rested first).rested second = board.rested (first + second) := by
  cases board with
  | mmc3 chip =>
    change Board.mmc3 { chip with
      registers := (chip.registers.rested first).rested second } = _
    rw [chip.registers.rested_add]
    rfl
  | nrom | mmc1 | uxRom | cnRom | axRom => rfl

/-- A cycle of a board that takes writes is a cycle of its filter, if it has one. -/
theorem Ready.step (ready : board.Ready) : board.step = board.rested 1 := by
  cases board with
  | mmc1 chip =>
    have same : chip.step = chip := by
      rw [Mmc1.step, ← (ready : chip.writeReady = true)]
    exact congrArg Board.mmc1 same
  | mmc3 chip =>
    change Board.mmc3 { chip with registers := chip.registers.step } = _
    rw [chip.registers.step_eq_rested]
    rfl
  | nrom | uxRom | cnRom | axRom => rfl

end Board

namespace Cartridge

/-- The cartridge after cycles without a pattern address on the bus. -/
def rested (cart : Cartridge) (cycles : Nat) : Cartridge :=
  { cart with board := cart.board.rested cycles }

theorem rested_zero (cart : Cartridge) : cart.rested 0 = cart := by
  rw [rested, cart.board.rested_zero]

theorem rested_add (cart : Cartridge) (first second : Nat) :
    (cart.rested first).rested second = cart.rested (first + second) :=
  congrArg (fun board => { cart with board }) (cart.board.rested_add first second)

theorem step_eq_rested {cart : Cartridge} (ready : cart.board.Ready) :
    cart.step = cart.rested 1 :=
  congrArg (fun board => { cart with board }) ready.step

end Cartridge

/-! ### The picture unit -/

namespace Ppu

/-- The picture is not drawn, and no interrupt is raised or waits. -/
structure Dark (ppu : Ppu) : Prop where
  rendering : ppu.rendering = false
  nmiEnabled : ppu.nmiEnabled = false
  nmiPending : ppu.nmiPending = false

/-- What dots of a dark unit leave as it is, and how far they take it. -/
structure Idles (dots : Nat) (before after : Ppu) : Prop where
  setup : after.setup = before.setup
  scroll : after.scroll = before.scroll
  oamAddr : after.oamAddr = before.oamAddr
  nmiPending : after.nmiPending = before.nmiPending
  raster : after.raster = (Raster.passDot · false)^[dots] before.raster

variable {ppu before middle after : Ppu} {first second : Nat}

theorem Idles.refl (ppu : Ppu) : Idles 0 ppu ppu := ⟨rfl, rfl, rfl, rfl, rfl⟩

theorem Idles.trans (early : Idles first before middle) (late : Idles second middle after) :
    Idles (first + second) before after where
  setup := late.setup.trans early.setup
  scroll := late.scroll.trans early.scroll
  oamAddr := late.oamAddr.trans early.oamAddr
  nmiPending := late.nmiPending.trans early.nmiPending
  raster := by rw [late.raster, early.raster, Nat.add_comm, Function.iterate_add_apply]

theorem Idles.dark (idles : Idles first before after) (dark : before.Dark) : after.Dark := by
  have ctrl : after.ctrl = before.ctrl := congrArg Setup.ctrl idles.setup
  have mask : after.mask = before.mask := congrArg Setup.mask idles.setup
  refine ⟨?_, ?_, idles.nmiPending.trans dark.nmiPending⟩
  · rw [rendering, mask]
    exact dark.rendering
  · rw [nmiEnabled, ctrl]
    exact dark.nmiEnabled

/-- A dot of a dark unit puts nothing on the cartridge's bus. -/
theorem Dark.step (dark : ppu.Dark) (cart : Cartridge) :
    ∃ next, ppu.step cart = (next, cart) ∧ Idles 1 ppu next := by
  have drawn : ppu.drawn cart = (ppu.blankDot, cart) := by
    rw [Ppu.drawn, dark.rendering, if_neg Bool.false_ne_true]
  have stepped : ppu.step cart = (ppu.blankDot.markVblank.advance, cart) := by
    rw [step_eq_drawn, drawn]
  have edge := ppu.step_edge cart
  have setup := ppu.step_setup cart
  have raster := ppu.step_raster cart
  rw [dark.nmiEnabled, Bool.and_false, Bool.or_false] at edge
  rw [dark.rendering] at raster
  rw [stepped] at edge setup raster
  refine ⟨_, stepped, setup, ?_, ?_, congrArg (·.2.1) edge, raster⟩
  · rw [markVblank_frame, blankDot_frame]
    rfl
  · rw [markVblank_frame, blankDot_frame]
    rfl

end Ppu

/-! ### The sound unit -/

/-- A note that has ended stays so, whether a half frame comes or not. -/
theorem LengthCounter.Counts.ended {half : Bool} {before after : LengthCounter}
    (counts : Counts half before after) (ended : before.value = 0) : after.value = 0 := by
  have counted := counts.value
  rw [ended, UInt8.toNat_zero, Nat.zero_sub, ite_self] at counted
  exact UInt8.toNat_inj.mp counted

theorem Dmc.step_ended_irq {dmc : Dmc} (ended : dmc.bytesRemaining = 0)
    (memory : UInt16 → UInt8) : (dmc.step memory).2.irqPending = dmc.irqPending := by
  have unwanted : dmc.wantsByte = false := by simp [wantsByte, active, ended]
  rw [Dmc.step, unwanted, if_neg Bool.false_ne_true, clockOutput_frame]

namespace Apu

/-- The frame counter is `count` cycles behind a restart, every note and the sample have ended, and
no interrupt is raised. -/
structure State.Hushed (count : Nat) (apu : State) : Prop where
  frameCycle : apu.frameCycle.toNat = count
  frameIrq : apu.frameIrq = false
  dmcIrq : apu.dmc.irqPending = false
  ended : apu.dmc.bytesRemaining = 0
  pulse1 : apu.pulse1.length.value = 0
  pulse2 : apu.pulse2.length.value = 0
  triangle : apu.triangle.length.value = 0
  noise : apu.noise.length.value = 0

variable {apu : Apu} {count : Nat}

theorem State.reset_hushed (apu : State) : apu.reset.Hushed 0 :=
  ⟨rfl, rfl, rfl, rfl, rfl, rfl, rfl, rfl⟩

/-- The frame counter comes round to its interrupt only after a whole sequence. -/
theorem State.Hushed.step (hushed : apu.state.Hushed count) (short : count + 1 < 29829)
    (memory : UInt16 → UInt8) :
    (apu.step memory).1 = none ∧ (apu.step memory).2.state.Hushed (count + 1) := by
  obtain ⟨frameCycle, frameIrq, dmcIrq, ended, pulse1, pulse2, triangle, noise⟩ := hushed
  have long : 29829 < period apu.state.fiveStep := by
    unfold period
    split <;> decide
  have scheduled : Scheduled apu.state.fiveStep apu.state.irqInhibit count apu.state :=
    ⟨rfl, rfl, by rw [frameCycle, Nat.mod_eq_of_lt (by omega)]⟩
  obtain ⟨fetched, dmc⟩ := apu.step_dmc memory
  obtain ⟨unread, silent⟩ := Dmc.step_ended ended memory
  obtain ⟨phase, stepped⟩ := apu.step_state memory
  obtain ⟨next, clocked, flagged⟩ := scheduled.clock memory phase
  rw [← stepped] at next clocked flagged
  rw [Nat.mod_eq_of_lt (by omega)] at flagged
  refine ⟨fetched.trans unread, ?_, ?_, ?_, dmc ▸ silent,
    clocked.pulse1.length.ended pulse1,
    clocked.pulse2.length.ended pulse2,
    clocked.triangle.length.ended triangle,
    clocked.noise.length.ended noise⟩
  · rw [next.frameCycle, Nat.mod_eq_of_lt (by omega)]
  · have unflagged : flagAt apu.state.fiveStep apu.state.irqInhibit (count + 1) = false := by
      have other : (count + 1 == 29829) = false := beq_false_of_ne (Nat.ne_of_lt short)
      rw [flagAt, other, Bool.and_false]
    rw [flagged, frameIrq, unflagged, Bool.or_false]
  · rw [dmc, Dmc.step_ended_irq ended, dmcIrq]

theorem State.Hushed.irq {apu : State} (hushed : apu.Hushed count) : apu.irq = false := by
  rw [State.irq, hushed.frameIrq, hushed.dmcIrq, Bool.or_false]

end Apu

/-! ### The whole system -/

namespace System

/-- Nothing is at work; the frame counter is `count` cycles behind a restart. -/
structure Idle (count : Nat) (system : System) : Prop where
  dark : system.ppu.Dark
  hushed : system.apu.state.Hushed count
  ready : system.cart.board.Ready

/-- What cycles of an idle system leave as it is, and how far they take it. -/
structure Rests (cycles : Nat) (before after : System) : Prop where
  ram : after.ram = before.ram
  controllers : after.controllers = before.controllers
  cart : after.cart = before.cart.rested cycles
  picture : before.ppu.Idles (3 * cycles) after.ppu
  stall : after.stall = before.stall
  cycles : after.cycles = before.cycles + UInt64.ofNat cycles

variable {system before middle after : System} {count first second : Nat}

theorem Rests.refl (system : System) : Rests 0 system system :=
  ⟨rfl, rfl, (system.cart.rested_zero).symm, .refl _, rfl, (UInt64.add_zero _).symm⟩

theorem Rests.trans (early : Rests first before middle) (late : Rests second middle after) :
    Rests (first + second) before after where
  ram := late.ram.trans early.ram
  controllers := late.controllers.trans early.controllers
  cart := by rw [late.cart, early.cart, Cartridge.rested_add]
  picture := by
    rw [Nat.mul_add]
    exact early.picture.trans late.picture
  stall := late.stall.trans early.stall
  cycles := by rw [late.cycles, early.cycles, UInt64.ofNat_add, UInt64.add_assoc]

theorem stepPpu_dark (dark : system.ppu.Dark) :
    ∃ ppu, system.stepPpu = { system with ppu } ∧ system.ppu.Idles 1 ppu := by
  obtain ⟨ppu, stepped, idles⟩ := dark.step system.cart
  refine ⟨ppu, ?_, idles⟩
  rw [stepPpu, stepped]

theorem stepPpu_dark_thrice (dark : system.ppu.Dark) :
    ∃ ppu, system.stepPpu.stepPpu.stepPpu = { system with ppu } ∧ system.ppu.Idles 3 ppu := by
  obtain ⟨first, drawn, idles⟩ := stepPpu_dark dark
  obtain ⟨second, next, later⟩ :=
    @stepPpu_dark { system with ppu := first } (idles.dark dark)
  obtain ⟨third, last, latest⟩ :=
    @stepPpu_dark { system with ppu := second } (later.dark (idles.dark dark))
  refine ⟨third, ?_, (idles.trans later).trans latest⟩
  rw [drawn, next, last]

/-- A sound unit that is hushed reads no sample, so that nothing comes to be owed. -/
theorem stepApu_hushed (hushed : system.apu.state.Hushed count) (short : count + 1 < 29829) :
    ∃ apu, system.stepApu = { system with apu } ∧ apu.state.Hushed (count + 1) := by
  obtain ⟨unread, next⟩ :=
    hushed.step short (sampleMemory system.ram system.cart system.openBus)
  obtain ⟨fetched, apu, stepped, sounded⟩ := system.stepApu_eq
  rw [stepped] at unread next
  obtain rfl : fetched = none := unread
  exact ⟨apu, sounded, next⟩

/-- A cycle leaves an idle system idle, until the frame counter comes round. -/
theorem Idle.cycle (idle : Idle count system) (short : count + 1 < 29829) :
    Idle (count + 1) system.cycle ∧ Rests 1 system system.cycle := by
  obtain ⟨ppu, drawn, idles⟩ := stepPpu_dark_thrice idle.dark
  obtain ⟨apu, sounded, hushed⟩ :=
    @stepApu_hushed { system with ppu } count idle.hushed short
  have rested : system.cart.step = system.cart.rested 1 := Cartridge.step_eq_rested idle.ready
  have ready : system.cart.step.board.Ready := system.cart.board.step_ready
  have cycle : system.cycle =
      { system with ppu, apu, cart := system.cart.step, cycles := system.cycles + 1 } := by
    rw [cycle_eq, drawn, sounded]
    rfl
  rw [cycle]
  exact ⟨⟨idles.dark idle.dark, hushed, ready⟩, ⟨rfl, rfl, rested, idles, rfl, rfl⟩⟩

/-- Cycles leave an idle system idle, until the frame counter comes round. -/
theorem Idle.run (idle : Idle count system) (cycles : Nat) (short : count + cycles < 29829) :
    Idle (count + cycles) (System.run cycles system) ∧
      Rests cycles system (System.run cycles system) := by
  induction cycles generalizing count system with
  | zero => exact ⟨idle, .refl system⟩
  | succ cycles ih =>
    obtain ⟨next, rests⟩ := idle.cycle (by omega)
    obtain ⟨last, later⟩ := ih next (by omega)
    have passed := rests.trans later
    rw [Nat.add_right_comm] at last
    rw [Nat.add_comm] at passed
    exact ⟨last, passed⟩

end System

end Nes
