import Nes.Proofs.Bus.Idle
import Nes.Proofs.Console.Lockstep
import Nes.Proofs.Cpu.Masking

/-!
The reset button. Its line silences the chips, so that nothing is at work in the cycles that it
takes: they pass, and what the console remembers is as it was before. The program goes on at what
the cartridge shows at the reset vector in that moment.
-/

namespace Nes

namespace System

variable {system : System}

/-- Reading from the cartridge leaves a mark on the bus alone. -/
theorem read_cart (system : System) {address : UInt16} (above : 0x6000 ≤ address) :
    system.read address =
      (system.cart.read address, system.drive (system.cart.read address)) := by
  have notRam : ¬ address < 0x2000 := by grind
  have notPicture : ¬ address < 0x4000 := by grind
  rw [read, if_neg notRam, if_neg notPicture, if_pos above]

/-- After the reset line nothing is at work, whatever was before. -/
theorem reset_idle (ready : system.cart.board.Ready) : Idle 0 system.reset := by
  have dark : ((0 : UInt8) &&& 0x18 != 0) = false := by decide
  have unheard : ((0 : UInt8) &&& 0x80 != 0) = false := by decide
  exact ⟨⟨dark, unheard, rfl⟩, system.apu.state.reset_hushed, ready⟩

end System

namespace Machine

variable {machine : Machine System}

theorem read_cart (machine : Machine System) {address : UInt16} (above : 0x6000 ≤ address) :
    machine.read address =
      (machine.bus.cart.read address,
        { machine with bus := machine.bus.drive (machine.bus.cart.read address) }) :=
  congrArg (fun answer => (answer.1, { machine with bus := answer.2 }))
    (machine.bus.read_cart above)

theorem readWord_vector (machine : Machine System) :
    machine.readWord resetVector =
      (wordOf (machine.bus.cart.read 0xFFFC) (machine.bus.cart.read 0xFFFD),
        { machine with bus := machine.bus.drive (machine.bus.cart.read 0xFFFD) }) := by
  have low := machine.read_cart (by decide : 0x6000 ≤ resetVector)
  have high := read_cart
    { machine with bus := machine.bus.drive (machine.bus.cart.read resetVector) }
    (by decide : 0x6000 ≤ resetVector + 1)
  simp only [readWord, low, high]
  rfl

/-- A reset goes on at what the cartridge shows at the vector, and lets seven cycles pass. -/
theorem reset_eq (machine : Machine System) :
    machine.reset =
      { cpu :=
          { machine.cpu.withFlag .interruptDisable true with
            sp := machine.cpu.sp - 3
            pc := wordOf (machine.bus.cart.read 0xFFFC) (machine.bus.cart.read 0xFFFD)
            cycles := machine.cpu.cycles + 7
            halted := false
            stall := 0
            nmiPending := false
            irqInhibit := true }
        bus := (machine.bus.drive (machine.bus.cart.read 0xFFFD)).tick 7 } := by
  simp only [reset, readWord_vector]
  rfl

end Machine

namespace Console

/-- What the reset button makes of a console. -/
structure Pressed (before after : Console) : Prop where
  ram : after.system.ram = before.system.ram
  /-- Memories, banks, wiring and interrupt registers are kept; only the filter of a board that
  follows the address line runs down. -/
  cart : after.system.cart = before.system.cart.rested 7
  oam : after.system.ppu.oam = before.system.ppu.oam
  oamAddr : after.system.ppu.oamAddr = before.system.ppu.oamAddr
  nametables : after.system.ppu.nametables = before.system.ppu.nametables
  palette : after.system.ppu.palette = before.system.ppu.palette
  v : after.system.ppu.scroll.v = before.system.ppu.scroll.v
  controllers : after.system.controllers = before.system.controllers
  a : after.machine.cpu.a = before.machine.cpu.a
  x : after.machine.cpu.x = before.machine.cpu.x
  y : after.machine.cpu.y = before.machine.cpu.y
  sp : after.machine.cpu.sp = before.machine.cpu.sp - 3
  masked : after.machine.cpu.has .interruptDisable = true
  pc : after.machine.cpu.pc =
    Machine.wordOf (before.system.cart.read 0xFFFC) (before.system.cart.read 0xFFFD)
  /-- Seven cycles pass behind the processor, and it counts each of them. -/
  passes : before.Passes 7 after
  cycles : after.system.cycles = before.system.cycles + 7
  raster : after.system.ppu.raster = (Raster.passDot · false)^[21] before.system.ppu.raster
  frameCycle : after.system.apu.state.frameCycle = 7
  /-- No cycles are owed, and no copy of object memory waits to be charged. -/
  settled : after.machine.cpu.stall = 0 ∧ after.system.stall = 0 ∧
    after.system.dmaPending = false
  nmi : after.machine.cpu.nmiPending = false ∧ after.system.ppu.nmiPending = false
  irq : after.system.apu.irq = false
  pulse1 : after.system.apu.state.pulse1.length.value = 0
  pulse2 : after.system.apu.state.pulse2.length.value = 0
  triangle : after.system.apu.state.triangle.length.value = 0
  noise : after.system.apu.state.noise.length.value = 0
  sample : after.system.apu.state.dmc.bytesRemaining = 0

variable {console before later : Console}

/-- A processor that was reset, on a bus that rested from the reset line on. -/
theorem pressed_of_rests (passes : before.Passes 7 later) (next : later.machine.Quiescent)
    (cpu : later.machine.cpu =
      { before.machine.cpu.withFlag .interruptDisable true with
        sp := before.machine.cpu.sp - 3
        pc := Machine.wordOf (before.system.cart.read 0xFFFC) (before.system.cart.read 0xFFFD)
        cycles := before.machine.cpu.cycles + 7
        halted := false
        stall := 0
        nmiPending := false
        irqInhibit := true })
    (idle : later.system.Idle 7)
    (rests : System.Rests 7
      ((before.system.reset.drive (before.system.cart.read 0xFFFD)).chargeDma 7) later.system) :
    Pressed before later where
  ram := rests.ram
  cart := rests.cart
  oam := congrArg Ppu.Setup.oam rests.picture.setup
  oamAddr := rests.picture.oamAddr
  nametables := congrArg Ppu.Setup.nametables rests.picture.setup
  palette := congrArg Ppu.Setup.palette rests.picture.setup
  v := (congrArg Scroll.v rests.picture.scroll :)
  controllers := rests.controllers
  a := (congrArg Cpu.a cpu :)
  x := (congrArg Cpu.x cpu :)
  y := (congrArg Cpu.y cpu :)
  sp := congrArg Cpu.sp cpu
  masked := (congrArg (Cpu.has · .interruptDisable) cpu).trans
    (Cpu.has_withFlag before.machine.cpu .interruptDisable true)
  pc := congrArg Cpu.pc cpu
  passes := passes
  cycles := rests.cycles
  raster := rests.picture.raster
  frameCycle := UInt32.toNat_inj.mp idle.hushed.frameCycle
  settled := ⟨next.cpu, next.bus, next.dmaPending⟩
  nmi := ⟨congrArg Cpu.nmiPending cpu, idle.dark.nmiPending⟩
  irq := idle.hushed.irq
  pulse1 := idle.hushed.pulse1
  pulse2 := idle.hushed.pulse2
  triangle := idle.hushed.triangle
  noise := idle.hushed.noise
  sample := idle.hushed.ended

theorem reset_pressed (quiescent : console.machine.Quiescent) :
    Pressed console console.reset := by
  obtain ⟨next, passes⟩ := reset_passes quiescent
  have reset := (console.mapSystem System.reset).machine.reset_eq
  have line := System.reset_idle quiescent.ready
  have idle : System.Idle 0
      ((console.system.reset.drive (console.system.cart.read 0xFFFD)).chargeDma 7) :=
    ⟨⟨line.dark.rendering, line.dark.nmiEnabled, line.dark.nmiPending⟩, line.hushed, line.ready⟩
  obtain ⟨last, rests⟩ := idle.run 7 (by decide)
  have system : console.reset.system = System.run 7
      ((console.system.reset.drive (console.system.cart.read 0xFFFD)).chargeDma 7) :=
    (congrArg Machine.bus reset :)
  rw [← system] at last rests
  exact pressed_of_rests passes next (congrArg Machine.cpu reset) last rests

/-- Wherever the button is pressed in a run without loads, in the middle of a picture or while a
sample plays: what the console remembers is kept, and what the button sets is as described. -/
theorem reset_keeps (cart : Cartridge) (settings : Settings) (history : List Command)
    (keeps : ∀ bytes, .load bytes ∉ history) :
    Pressed (after cart settings history) (after cart settings history).reset :=
  reset_pressed (follow_passes (powerOn_quiescent cart settings) keeps).1

theorem reset_keeps_session :
    (∀ bytes, .load bytes ∉ session) ∧
      Pressed (after writtenCart {} session) (after writtenCart {} session).reset := by
  have keeps : ∀ bytes, .load bytes ∉ session := by simp [session]
  exact ⟨keeps, reset_keeps writtenCart {} session keeps⟩

end Console

end Nes
