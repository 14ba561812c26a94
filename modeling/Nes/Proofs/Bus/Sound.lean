import Nes.Console.Snapshot
import Nes.Proofs.Audio.Bounds
import Nes.Proofs.Bus.Debt
import Nes.Proofs.Video.Bounds

/-!
What holds of a system at all times, and what holds only between two steps. At all times every part
is within the bounds that a snapshot is checked against and the cartridge is still the one that was
inserted. Between two steps no copy of object memory waits to be charged and the board takes the
next write: two facts that a snapshot does not record.
-/

namespace Nes.System

/-- The parts are within their bounds, and the cartridge and the sampler's rate are those of
power-on. -/
structure Sound (origin : Cartridge) (rate : Float) (system : System) : Prop where
  picture : Ppu.Sound origin.Descends (system.ppu, system.cart)
  apu : system.apu.state.Bounded
  rate : system.apu.cyclesPerSample = rate

variable {origin : Cartridge} {rate : Float} {system : System}

/-! ### Accesses -/

theorem Sound.read (sound : system.Sound origin rate) (address : UInt16) :
    (system.read address).2.Sound origin rate := by
  obtain ⟨picture, apu, rate⟩ := sound
  simp only [System.read]
  repeat' split
  all_goals first
    | exact ⟨picture, apu, rate⟩
    | exact ⟨picture.readRegister (Cartridge.Descends.preserved origin) address, apu, rate⟩
    | exact ⟨picture, Apu.readStatus_bounded apu system.openBus, rate⟩

theorem Sound.copyToOam (sound : system.Sound origin rate) (page : UInt16) (count : Nat) :
    (system.copyToOam page count).Sound origin rate := by
  induction count with
  | zero => exact sound
  | succ count ih =>
    have byte := ih.read (page ||| UInt16.ofNat count)
    exact ⟨⟨byte.picture.ppu.writeOam _, byte.picture.cart⟩, byte.apu, byte.rate⟩

theorem Sound.write (sound : system.Sound origin rate) (address : UInt16) (data : UInt8) :
    (system.write address data).Sound origin rate := by
  have driven : (system.drive data).Sound origin rate := ⟨sound.picture, sound.apu, sound.rate⟩
  have copied := driven.copyToOam (data.toUInt16 <<< 8) 256
  obtain ⟨picture, apu, rate⟩ := driven
  simp only [System.write]
  repeat' split
  · exact ⟨picture, apu, rate⟩
  · exact ⟨picture.writeRegister (Cartridge.Descends.preserved origin) address data, apu, rate⟩
  · exact ⟨⟨picture.ppu, picture.cart.write address data⟩, apu, rate⟩
  · exact ⟨copied.picture, copied.apu, copied.rate⟩
  · exact ⟨picture, apu, rate⟩
  · exact ⟨picture, apu.write address data, rate⟩
  · exact ⟨picture, apu, rate⟩

theorem Sound.pollNmi (sound : system.Sound origin rate) :
    system.pollNmi.2.Sound origin rate :=
  ⟨⟨sound.picture.ppu.pollNmi, sound.picture.cart⟩, sound.apu, sound.rate⟩

/-! ### Time -/

theorem Sound.stepPpu (sound : system.Sound origin rate) : system.stepPpu.Sound origin rate :=
  ⟨sound.picture.step (Cartridge.Descends.preserved origin), sound.apu, sound.rate⟩

theorem Sound.stepApu (sound : system.Sound origin rate) : system.stepApu.Sound origin rate := by
  have bounded := Apu.step_bounded sound.apu
    (sampleMemory system.ram system.cart system.openBus)
  have paced := (system.apu.step_cyclesPerSample
    (sampleMemory system.ram system.cart system.openBus)).trans sound.rate
  obtain ⟨fetched, apu, stepped, sounded⟩ := system.stepApu_eq
  rw [stepped] at bounded paced
  rw [sounded]
  exact ⟨sound.picture, bounded, paced⟩

theorem Sound.cycle (sound : system.Sound origin rate) : system.cycle.Sound origin rate :=
  cycle_preserves Sound.stepPpu Sound.stepApu
    (fun left => ⟨⟨left.picture.ppu, left.picture.cart.step⟩, left.apu, left.rate⟩) sound

theorem Sound.run (sound : system.Sound origin rate) (count : Nat) :
    (run count system).Sound origin rate :=
  @run_preserves (System.Sound origin rate) _ Sound.cycle count sound

/-- After a cycle the board takes writes. -/
theorem cycle_ready (system : System) : system.cycle.cart.board.Ready := by
  rw [cycle_eq]
  exact Board.step_ready _

theorem run_ready (ready : system.cart.board.Ready) (count : Nat) :
    (System.run count system).cart.board.Ready :=
  @run_preserves (fun system => system.cart.board.Ready) _ (fun _ => cycle_ready _) count ready

/-- Once cycles have passed the board takes writes, and it goes on to if none pass. -/
theorem tick_ready {cycles : UInt64} (moves : cycles.toNat ≠ 0 ∨ system.cart.board.Ready) :
    (system.tick cycles).cart.board.Ready := by
  rcases moves with some | ready
  · obtain ⟨count, more⟩ := Nat.exists_eq_succ_of_ne_zero some
    rw [System.tick, more]
    exact run_ready (cycle_ready _) count
  · exact @run_ready (system.chargeDma cycles) ready _

/-- Between two steps no copy of object memory waits and the board takes the next write. -/
structure Boundary (origin : Cartridge) (rate : Float) (system : System) : Prop
    extends Sound origin rate system where
  dmaPending : system.dmaPending = false
  ready : system.cart.board.Ready

/-- Cycles that pass bring a system to the state between two steps, or keep it there. -/
theorem Sound.tick (sound : system.Sound origin rate) {cycles : UInt64}
    (moves : cycles.toNat ≠ 0 ∨ system.cart.board.Ready) :
    (system.tick cycles).Boundary origin rate := by
  have charged : (system.chargeDma cycles).Sound origin rate :=
    ⟨sound.picture, sound.apu, sound.rate⟩
  exact ⟨charged.run _, tick_dmaPending _ _, tick_ready moves⟩

/-! ### Host actions -/

theorem Boundary.setButtons (boundary : system.Boundary origin rate) (port : Nat)
    (buttons : UInt8) : (system.setButtons port buttons).Boundary origin rate := by
  obtain ⟨⟨picture, apu, rate⟩, pending, ready⟩ := boundary
  unfold System.setButtons
  split <;> exact ⟨⟨picture, apu, rate⟩, pending, ready⟩

theorem Boundary.clearFrame (boundary : system.Boundary origin rate) :
    system.clearFrame.Boundary origin rate := by
  obtain ⟨⟨⟨⟨raster, scroll, sprites⟩, cart⟩, apu, rate⟩, pending, ready⟩ := boundary
  exact ⟨⟨⟨⟨raster, scroll, sprites⟩, cart⟩, apu, rate⟩, pending, ready⟩

theorem Boundary.reset (boundary : system.Boundary origin rate) :
    system.reset.Boundary origin rate :=
  ⟨⟨⟨boundary.picture.ppu.reset, boundary.picture.cart⟩, boundary.apu.reset, boundary.rate⟩,
    rfl, boundary.ready⟩

theorem powerOn_boundary {rom : Rom} {cart : Cartridge} (built : Cartridge.ofRom rom = .ok cart)
    (settings : Settings) :
    (powerOn cart settings).Boundary cart settings.cyclesPerSample := by
  obtain ⟨-, descends, ready⟩ := Cartridge.ofRom_sound built
  exact ⟨⟨⟨Ppu.powerOn_bounded, descends⟩, Apu.State.powerOn_bounded, rfl⟩, rfl, ready⟩

end Nes.System
