import Nes.Cartridge.Memory

/-!
A bank switcher with eight bank registers and a scanline counter. The counter is clocked by edges
of address line 12 of the picture unit; after an edge the line has to stay quiet for a while before
the next one counts, so that the many fetches of one scanline count once.
-/

namespace Nes

namespace Mmc3

/-- Processor cycles that have to pass after an edge before another one counts. -/
def filterCycles : UInt8 := 16

/-- Which edge of the address line clocks the counter. -/
inductive Variant where
  /-- The rising edge. -/
  | sharp
  /-- The falling edge. -/
  | mcAcc
  deriving DecidableEq

/-- The chip's registers, which a snapshot records. -/
structure Registers where
  /-- The selected bank register, the program mode and the pattern order. -/
  bankSelect : UInt8 := 0
  banks : Vector UInt8 8 := #v[0, 2, 4, 5, 6, 7, 0, 1]
  mirroring : Mirroring := .horizontal
  /-- Stored and not enforced. -/
  prgRamProtect : UInt8 := 0
  irqLatch : UInt8 := 0
  irqCounter : UInt8 := 0
  irqReload : Bool := false
  irqEnabled : Bool := false
  irqPending : Bool := false
  /-- The address line as last seen. -/
  lastA12 : Bool := false
  /-- Cycles until another edge counts. -/
  a12Filter : UInt8 := 0
  deriving DecidableEq

namespace Registers

/-- The banks of the four 8 KiB program windows; -1 is the last, -2 the one before. -/
def prgBanks (registers : Registers) : Vector Int 4 :=
  let r6 : Int := (registers.banks[6].toNat % 64 : Nat)
  let r7 : Int := (registers.banks[7].toNat % 64 : Nat)
  if registers.bankSelect &&& 0x40 == 0 then #v[r6, r7, -2, -1] else #v[-2, r7, r6, -1]

def chrBanks (registers : Registers) : Vector Int 8 :=
  let low (bank : UInt8) : Int := (bank.toNat / 2 * 2 : Nat)
  let high (bank : UInt8) : Int := (bank.toNat / 2 * 2 + 1 : Nat)
  let one (bank : UInt8) : Int := (bank.toNat : Nat)
  let b := registers.banks
  if registers.bankSelect &&& 0x80 == 0 then
    #v[low b[0], high b[0], low b[1], high b[1], one b[2], one b[3], one b[4], one b[5]]
  else
    #v[one b[2], one b[3], one b[4], one b[5], low b[0], high b[0], low b[1], high b[1]]

def storeBank (registers : Registers) (data : UInt8) : Registers :=
  have : registers.bankSelect.toNat % 8 < 8 := Nat.mod_lt _ (by decide)
  { registers with banks := registers.banks.set (registers.bankSelect.toNat % 8) data }

/-- Even addresses select and configure, odd ones supply data; the upper address bits choose the
pair. -/
def write (registers : Registers) (fourScreen : Bool) (address : UInt16) (data : UInt8) :
    Registers :=
  let even := address &&& 1 == 0
  if address < 0xA000 then
    if even then { registers with bankSelect := data } else registers.storeBank data
  else if address < 0xC000 then
    if !even then { registers with prgRamProtect := data }
    else if fourScreen then registers
    else { registers with mirroring := if data &&& 1 == 0 then .vertical else .horizontal }
  else if address < 0xE000 then
    if even then { registers with irqLatch := data }
    else { registers with irqCounter := 0, irqReload := true }
  else
    if even then { registers with irqEnabled := false, irqPending := false }
    else { registers with irqEnabled := true }

/-- One clock of the scanline counter: reload at zero or on request, else count down; zero raises
the interrupt if it is enabled. -/
def clockCounter (registers : Registers) : Registers :=
  let registers :=
    if registers.irqCounter == 0 || registers.irqReload then
      { registers with irqCounter := registers.irqLatch, irqReload := false }
    else { registers with irqCounter := registers.irqCounter - 1 }
  if registers.irqCounter == 0 && registers.irqEnabled then { registers with irqPending := true }
  else registers

/-- The address line goes to `a12` in the way that clocks the counter of this variant. -/
def isEdge (registers : Registers) (variant : Variant) (a12 : Bool) : Bool :=
  match variant with
  | .sharp => a12 && !registers.lastA12
  | .mcAcc => !a12 && registers.lastA12

def observe (registers : Registers) (variant : Variant) (address : UInt16) : Registers :=
  if 0x2000 ≤ address then registers
  else
    let a12 := address &&& 0x1000 != 0
    let edge := registers.isEdge variant a12
    let registers := { registers with lastA12 := a12 }
    if !edge then registers
    else
      let registers := if registers.a12Filter == 0 then registers.clockCounter else registers
      { registers with a12Filter := filterCycles }

def step (registers : Registers) : Registers :=
  if 0 < registers.a12Filter then { registers with a12Filter := registers.a12Filter - 1 }
  else registers

def codec : Codec Registers :=
  (Codec.u8.pair <| (Codec.vector Codec.u8 8).pair <| Mirroring.codec.pair <| Codec.u8.pair <|
    Codec.u8.pair <| Codec.u8.pair <| Codec.bool.pair <| Codec.bool.pair <| Codec.bool.pair <|
    Codec.bool.pair Codec.u8).iso
    (fun (bankSelect, banks, mirroring, prgRamProtect, irqLatch, irqCounter, irqReload,
        irqEnabled, irqPending, lastA12, a12Filter) =>
      { bankSelect, banks, mirroring, prgRamProtect, irqLatch, irqCounter, irqReload, irqEnabled,
        irqPending, lastA12, a12Filter })
    (fun r => (r.bankSelect, r.banks, r.mirroring, r.prgRamProtect, r.irqLatch, r.irqCounter,
      r.irqReload, r.irqEnabled, r.irqPending, r.lastA12, r.a12Filter))

end Registers

end Mmc3

/-- The chip with its wiring and the places its windows show. -/
structure Mmc3 where
  registers : Mmc3.Registers := {}
  variant : Mmc3.Variant := .sharp
  /-- The nametables are wired for four screens, which the chip cannot change. -/
  fourScreen : Bool := false
  /-- Where the four program windows begin. -/
  prgWindows : Vector Nat 4 := Vector.replicate 4 0
  /-- Where the eight pattern windows begin. -/
  chrWindows : Vector Nat 8 := Vector.replicate 8 0
  deriving DecidableEq

namespace Mmc3

/-- The same chip with the windows that `registers` select. -/
def withRegisters (chip : Mmc3) (registers : Registers) (memory : CartridgeMemory) : Mmc3 :=
  { chip with
    registers
    prgWindows := registers.prgBanks.map (memory.prgBankOffset · 0x2000)
    chrWindows := registers.chrBanks.map (memory.chrBankOffset · 0x400) }

/-- The chip at power-on, wired as the image's header says. -/
def powerOn (variant : Variant) (mirroring : Mirroring) (memory : CartridgeMemory) : Mmc3 :=
  withRegisters { variant, fourScreen := mirroring == .fourScreen } { mirroring } memory

def prgOffset (chip : Mmc3) (address : UInt16) : Nat :=
  have : address.toNat / 0x2000 % 4 < 4 := Nat.mod_lt _ (by decide)
  chip.prgWindows[address.toNat / 0x2000 % 4] + address.toNat % 0x2000

def chrOffset (chip : Mmc3) (address : UInt16) : Nat :=
  have : address.toNat / 0x400 % 8 < 8 := Nat.mod_lt _ (by decide)
  chip.chrWindows[address.toNat / 0x400 % 8] + address.toNat % 0x400

/-- A processor write from 0x8000; only the first pair of registers moves the windows. -/
def write (chip : Mmc3) (memory : CartridgeMemory) (address : UInt16) (data : UInt8) : Mmc3 :=
  let registers := chip.registers.write chip.fourScreen address data
  if address < 0xA000 then chip.withRegisters registers memory else { chip with registers }

def observe (chip : Mmc3) (address : UInt16) : Mmc3 :=
  { chip with registers := chip.registers.observe chip.variant address }

def step (chip : Mmc3) : Mmc3 := { chip with registers := chip.registers.step }

end Mmc3

end Nes
