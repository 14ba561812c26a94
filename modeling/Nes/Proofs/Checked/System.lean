import Nes.Proofs.Bus.Sound
import Nes.Proofs.Checked.Audio
import Nes.Proofs.Checked.Picture
import Nes.Proofs.Cpu.Simulation

/-!
Everything behind the processor with every operation asked for. A bus whose chips ask is a bus
again: once an operation could not be carried out it stays stopped. In a sound system with all its
work memory no access and no cycle stops it. Counters of 64 bits run over silently here, and
nothing depends on that.
-/

namespace Nes

open Checked

namespace Controller

variable (controller : Controller)

def bitChecked : Checked UInt8 :=
  if controller.index < 8 then do
    shift controller.index.toNat 8
    return (controller.buttons >>> controller.index) &&& 1
  else return 1

def readChecked : Checked (UInt8 × Controller) := do
  let bit ← controller.bitChecked
  let moved ←
    if !controller.strobe && controller.index < 8 then
      pure { controller with index := ← add controller.index 1 }
    else pure controller
  return (bit ||| 0x40, moved)

theorem bitChecked_eq : controller.bitChecked = .ok controller.bit := by
  unfold bitChecked bit
  split
  · rename_i within
    have short : controller.index.toNat < 8 := UInt8.lt_iff_toNat_lt.mp within
    rw [shift_ok short]
    rfl
  · rfl

/-- Any place that a snapshot records can be read from. -/
theorem readChecked_eq : controller.readChecked = .ok controller.read := by
  simp only [readChecked, read, controller.bitChecked_eq]
  split
  · rename_i moves
    have within : controller.index < 8 := of_decide_eq_true (Bool.and_eq_true_iff.mp moves).2
    have short : controller.index.toNat < 8 := UInt8.lt_iff_toNat_lt.mp within
    have fits : controller.index.toNat + 1 < 256 := by omega
    rw [add_ok controller.index 1 fits]
    rfl
  · rfl

end Controller

namespace System

/-! ### Accesses -/

def ramAtChecked (ram : Vector UInt8 0x800) (address : UInt16) : Checked UInt8 :=
  entry ram (address.toNat % 0x800)

def ramSetChecked (ram : Vector UInt8 0x800) (address : UInt16) (data : UInt8) :
    Checked (Vector UInt8 0x800) :=
  replace ram (address.toNat % 0x800) data

def readPpuChecked (system : System) (address : UInt16) : Checked (UInt8 × System) := do
  let (value, ppu, cart) ← system.ppu.readRegisterChecked system.cart address
  return (value, { system with ppu, cart, openBus := value })

def readControllerChecked (system : System) (port : Nat) : Checked (UInt8 × System) := do
  let (bits, controller) ← (← entry system.controllers port).readChecked
  let value := bits ||| (system.openBus &&& 0xE0)
  return (value, { system with
    controllers := ← replace system.controllers port controller
    openBus := value })

def readChecked (system : System) (address : UInt16) : Checked (UInt8 × System) := do
  if address < 0x2000 then
    let value ← ramAtChecked system.ram address
    return (value, system.drive value)
  else if address < 0x4000 then system.readPpuChecked address
  else if 0x6000 ≤ address then
    let value ← system.cart.readChecked address
    return (value, system.drive value)
  else if address == 0x4015 then
    let (status, apu) := system.apu.readStatus system.openBus
    return (status, { system with apu })
  else if address == 0x4016 then system.readControllerChecked 0
  else if address == 0x4017 then system.readControllerChecked 1
  else return (system.openBus, system)

def copyToOamChecked (system : System) (page : UInt16) : Nat → Checked System
  | 0 => return system
  | count + 1 => do
    let copied ← system.copyToOamChecked page count
    let (byte, system) ← copied.readChecked (page ||| UInt16.ofNat count)
    return { system with ppu := ← system.ppu.writeOamChecked byte }

def oamDmaChecked (system : System) (page : UInt8) : Checked System :=
  return { ← system.copyToOamChecked (page.toUInt16 <<< 8) 256 with dmaPending := true }

def writeChecked (system : System) (address : UInt16) (data : UInt8) : Checked System := do
  let system := system.drive data
  if address < 0x2000 then return { system with ram := ← ramSetChecked system.ram address data }
  else if address < 0x4000 then
    let (ppu, cart) ← system.ppu.writeRegisterChecked system.cart address data
    return { system with ppu, cart }
  else if 0x6000 ≤ address then
    return { system with cart := ← system.cart.writeChecked address data }
  else if address == 0x4014 then system.oamDmaChecked data
  else if address == 0x4016 then return system.strobe data
  else if address < 0x4018 then
    return { system with apu := ← system.apu.writeChecked address data }
  else return system

def peekChecked (system : System) (address : UInt16) : Checked UInt8 :=
  if address < 0x2000 then ramAtChecked system.ram address
  else if address < 0x4000 then system.ppu.peekRegisterChecked address
  else if 0x6000 ≤ address then system.cart.readChecked address
  else return system.openBus

def sampleMemoryChecked (ram : Vector UInt8 0x800) (cart : Cartridge) (openBus : UInt8)
    (address : UInt16) : Checked UInt8 :=
  if address < 0x2000 then ramAtChecked ram address
  else if 0x6000 ≤ address then cart.readChecked address
  else return openBus

/-! ### Time -/

def stepPpuChecked (system : System) : Checked System := do
  let (ppu, cart) ← system.ppu.stepChecked system.cart
  return { system with ppu, cart }

def stepApuChecked (system : System) : Checked System := do
  let (fetched, apu) ←
    system.apu.stepChecked (sampleMemoryChecked system.ram system.cart system.openBus)
  match fetched with
  | some _ => return { system with apu, stall := system.stall + Dmc.stallCycles }
  | none => return { system with apu }

def cycleChecked (system : System) : Checked System := do
  let system ← system.stepPpuChecked
  let system ← system.stepPpuChecked
  let system ← system.stepPpuChecked
  let system ← system.stepApuChecked
  return system.finish

def runChecked : Nat → System → Checked System
  | 0, system => return system
  | count + 1, system => do runChecked count (← system.cycleChecked)

def tickChecked (system : System) (cycles : UInt64) : Checked System :=
  runChecked cycles.toNat (system.chargeDma cycles)

/-! ### Sound systems -/

theorem ramAtChecked_eq (ram : Vector UInt8 0x800) (address : UInt16) :
    ramAtChecked ram address = .ok (ramAt ram address) :=
  entry_ok (Nat.mod_lt _ (by decide))

theorem ramSetChecked_eq (ram : Vector UInt8 0x800) (address : UInt16) (data : UInt8) :
    ramSetChecked ram address data = .ok (ramSet ram address data) :=
  replace_ok (Nat.mod_lt _ (by decide)) data

theorem readControllerChecked_eq (system : System) (port : Fin 2) :
    system.readControllerChecked port.val = .ok (system.readController port) := by
  rw [readControllerChecked, entry_ok port.isLt, ok_bind, Controller.readChecked_eq, ok_bind]
  simp only [replace_ok port.isLt]
  rfl

variable {origin : Cartridge} {rate : Float} {system : System} (full : origin.Full)
include full

/-- The cartridge still has all its work memory. -/
theorem Sound.stocked (sound : system.Sound origin rate) :
    Ppu.Sound Cartridge.Full (system.ppu, system.cart) :=
  ⟨sound.picture.ppu, full.of_blank sound.picture.cart.blank⟩

theorem Sound.readChecked_eq (sound : system.Sound origin rate) (address : UInt16) :
    system.readChecked address = .ok (system.read address) := by
  have picture := sound.stocked full
  simp only [readChecked, System.read]
  repeat' split
  · rw [ramAtChecked_eq]
    rfl
  · rw [readPpuChecked, picture.readRegisterChecked_eq]
    rfl
  · rw [Cartridge.readChecked_eq picture.cart]
    rfl
  · rfl
  · exact system.readControllerChecked_eq 0
  · exact system.readControllerChecked_eq 1
  · rfl

theorem Sound.peekChecked_eq (sound : system.Sound origin rate) (address : UInt16) :
    system.peekChecked address = .ok (system.peek address) := by
  have picture := sound.stocked full
  unfold peekChecked peek
  repeat' split
  · exact ramAtChecked_eq system.ram address
  · exact system.ppu.peekRegisterChecked_eq address
  · exact Cartridge.readChecked_eq picture.cart address
  · rfl

theorem Sound.copyToOamChecked_eq (sound : system.Sound origin rate) (page : UInt16)
    (count : Nat) : system.copyToOamChecked page count = .ok (system.copyToOam page count) := by
  induction count with
  | zero => rfl
  | succ count ih =>
    have copied := sound.copyToOam page count
    rw [copyToOamChecked, ih, ok_bind, copied.readChecked_eq full, ok_bind]
    simp only [Ppu.writeOamChecked_eq]
    rfl

theorem Sound.writeChecked_eq (sound : system.Sound origin rate) (address : UInt16)
    (data : UInt8) : system.writeChecked address data = .ok (system.write address data) := by
  have driven : (system.drive data).Sound origin rate := ⟨sound.picture, sound.apu, sound.rate⟩
  have picture := driven.stocked full
  simp only [writeChecked, System.write]
  repeat' split
  · rw [ramSetChecked_eq]
    rfl
  · rw [picture.writeRegisterChecked_eq]
    rfl
  · rw [Cartridge.writeChecked_eq picture.cart]
    rfl
  · rw [oamDmaChecked, driven.copyToOamChecked_eq full]
    rfl
  · rfl
  · rw [Apu.writeChecked_eq driven.apu]
    rfl
  · rfl

theorem Sound.sampleMemoryChecked_eq (sound : system.Sound origin rate) (address : UInt16) :
    sampleMemoryChecked system.ram system.cart system.openBus address =
      .ok (sampleMemory system.ram system.cart system.openBus address) := by
  have picture := sound.stocked full
  unfold sampleMemoryChecked sampleMemory
  repeat' split
  · exact ramAtChecked_eq system.ram address
  · exact Cartridge.readChecked_eq picture.cart address
  · rfl

theorem Sound.stepPpuChecked_eq (sound : system.Sound origin rate) :
    system.stepPpuChecked = .ok system.stepPpu := by
  rw [stepPpuChecked, (sound.stocked full).stepChecked_eq]
  rfl

theorem Sound.stepApuChecked_eq (sound : system.Sound origin rate) :
    system.stepApuChecked = .ok system.stepApu := by
  rw [stepApuChecked, Apu.stepChecked_eq sound.apu (sound.sampleMemoryChecked_eq full), ok_bind,
    System.stepApu]
  rcases system.apu.step (sampleMemory system.ram system.cart system.openBus) with ⟨fetched, apu⟩
  cases fetched <;> rfl

/-- No cycle stops the machine. -/
theorem Sound.cycleChecked_eq (sound : system.Sound origin rate) :
    system.cycleChecked = .ok system.cycle := by
  have first := sound.stepPpu
  have second := first.stepPpu
  have third := second.stepPpu
  rw [cycleChecked, sound.stepPpuChecked_eq full, ok_bind, first.stepPpuChecked_eq full, ok_bind,
    second.stepPpuChecked_eq full, ok_bind, third.stepApuChecked_eq full, ok_bind, cycle_eq]
  rfl

theorem Sound.runChecked_eq (sound : system.Sound origin rate) (count : Nat) :
    runChecked count system = .ok (System.run count system) := by
  induction count generalizing system with
  | zero => rfl
  | succ count ih =>
    rw [runChecked, sound.cycleChecked_eq full, ok_bind, ih sound.cycle]
    rfl

theorem Sound.tickChecked_eq (sound : system.Sound origin rate) (cycles : UInt64) :
    system.tickChecked cycles = .ok (system.tick cycles) := by
  have charged : (system.chargeDma cycles).Sound origin rate :=
    ⟨sound.picture, sound.apu, sound.rate⟩
  exact charged.runChecked_eq full cycles.toNat

end System

/-! ### The bus -/

namespace Checked

/-- The answer of an access, and the system after it; a stopped system answers with the default. -/
def answer {α : Type} (otherwise : α) (access : Checked (α × System)) : α × Checked System :=
  match access with
  | .ok (value, system) => (value, .ok system)
  | .error trap => (otherwise, .error trap)

/-- A system of which every access asks; once stopped it stays stopped. -/
instance : Bus (Checked System) where
  read bus address := answer 0 do (← bus).readChecked address
  write bus address data := do (← bus).writeChecked address data
  peek bus address := (answer 0 do return (← (← bus).peekChecked address, ← bus)).1
  tick bus cycles := do (← bus).tickChecked cycles
  pollNmi bus := answer false do return (← bus).pollNmi
  irqLine bus := (answer false do return ((← bus).irqLine, ← bus)).1
  takeStall bus := answer 0 do return (← bus).takeStall

/-- The system runs on, and is the sound system that it would be if nothing were asked. -/
def Follows (origin : Cartridge) (rate : Float) (bus : Checked System) (system : System) : Prop :=
  bus = .ok system ∧ system.Sound origin rate

variable {origin : Cartridge} {rate : Float}

/-- To the processor a sound system is the same whether its operations are asked for or not. -/
theorem simulates (full : origin.Full) : Bus.Simulates (Follows origin rate) where
  read := by
    rintro _ system ⟨rfl, sound⟩ address
    have read := sound.readChecked_eq full address
    refine ⟨?_, ?_, sound.read address⟩
    · change (answer 0 (system.readChecked address)).1 = _
      rw [read]
      rfl
    · change (answer 0 (system.readChecked address)).2 = _
      rw [read]
      rfl
  write := by
    rintro _ system ⟨rfl, sound⟩ address data
    exact ⟨sound.writeChecked_eq full address data, sound.write address data⟩
  tick := by
    rintro _ system ⟨rfl, sound⟩ cycles
    have charged : (system.chargeDma cycles).Sound origin rate :=
      ⟨sound.picture, sound.apu, sound.rate⟩
    exact ⟨sound.tickChecked_eq full cycles, charged.run cycles.toNat⟩
  pollNmi := by
    rintro _ system ⟨rfl, sound⟩
    exact ⟨rfl, rfl, sound.pollNmi⟩
  irqLine := by
    rintro _ system ⟨rfl, sound⟩
    rfl
  takeStall := by
    rintro _ system ⟨rfl, sound⟩
    exact ⟨rfl, rfl, sound.picture, sound.apu, sound.rate⟩

end Checked

end Nes
