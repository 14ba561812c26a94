import Nes.Proofs.Bits
import Nes.Proofs.Bus.ObjectCopy
import Nes.Proofs.Cartridge.Contents
import Nes.Proofs.Cpu.Trace

/-!
What a debugger sees and what the processor would read. The view of memory, of the cartridge and of
most registers is what a read answers. Two registers read otherwise than they are seen: object
memory at an attribute byte, three bits of which do not exist, and data at a palette address, which
answers at once and not from the buffer.
-/

namespace Nes

/-! ### Registers -/

namespace Ppu

/-- What a read of the palette answers: six bits of the entry under two that linger. -/
def paletteByte (ppu : Ppu) : UInt8 :=
  (ppu.palette.read (ppu.scroll.v &&& 0x3FFF) &&& 0x3F) ||| (ppu.openBus.value &&& 0xC0)

/-- The register gives object memory, at the attributes of a sprite. -/
def AtAttributes (ppu : Ppu) (address : UInt16) : Prop :=
  address &&& 7 = 4 ∧ ppu.oamAddr &&& 3 = 2

/-- The register gives data, at the palette. -/
def AtPalette (ppu : Ppu) (address : UInt16) : Prop :=
  address &&& 7 = 7 ∧ 0x3F00 ≤ ppu.scroll.v &&& 0x3FFF

instance (ppu : Ppu) (address : UInt16) : Decidable (ppu.AtAttributes address) :=
  inferInstanceAs (Decidable (_ ∧ _))

instance (ppu : Ppu) (address : UInt16) : Decidable (ppu.AtPalette address) :=
  inferInstanceAs (Decidable (_ ∧ _))

/-- A status read shows the status that it clears. -/
theorem readStatus_answer (ppu : Ppu) : ppu.readStatus.1 = ppu.statusByte := by
  change ppu.raceStatus.statusByte = _
  unfold raceStatus
  repeat' split
  all_goals rfl

theorem readVram_palette (ppu : Ppu) (cart : Cartridge)
    (palette : 0x3F00 ≤ ppu.scroll.v &&& 0x3FFF) :
    (ppu.readVram cart (ppu.scroll.v &&& 0x3FFF)).1 =
      ppu.palette.read (ppu.scroll.v &&& 0x3FFF) := by
  have within : ppu.scroll.v &&& 0x3FFF &&& 0x3FFF = ppu.scroll.v &&& 0x3FFF := by
    rw [UInt16.and_assoc, UInt16.and_self]
  have pattern : ¬ ppu.scroll.v &&& 0x3FFF < 0x2000 := by grind
  have table : ¬ ppu.scroll.v &&& 0x3FFF < 0x3F00 := by grind
  simp only [readVram, within, if_neg pattern, if_neg table]

/-- A read answers what is seen, but for the attributes, which are masked, and the palette, which is
not buffered. -/
theorem readRegister_answer (ppu : Ppu) (cart : Cartridge) (address : UInt16) :
    (ppu.readRegister cart address).1 =
      if ppu.AtAttributes address then ppu.peekRegister address &&& 0xE3
      else if ppu.AtPalette address then ppu.paletteByte
      else ppu.peekRegister address := by
  have register {number : UInt16} (small : (address &&& 7).toNat = number.toNat) :
      address &&& 7 = number := UInt16.toNat_inj.mp small
  unfold readRegister peekRegister AtAttributes AtPalette
  split
  case h_1 status =>
    have status : address &&& 7 = 2 := register status
    simp [status, readStatus_answer]
  case h_2 object =>
    have object : address &&& 7 = 4 := register object
    by_cases attributes : ppu.oamAddr &&& 3 = 2 <;> simp [object, attributes, readOam]
  case h_3 data =>
    have data : address &&& 7 = 7 := register data
    by_cases palette : 0x3F00 ≤ ppu.scroll.v &&& 0x3FFF
    · rw [if_neg (by simp [data]), if_pos ⟨data, palette⟩, paletteByte,
        ← ppu.readVram_palette (ppu.readVram cart ((ppu.scroll.v &&& 0x3FFF) - 0x1000)).2 palette]
      simp only [readData, if_pos palette]
    · simp [data, palette, readData]
  case h_4 _ object data =>
    have object : address &&& 7 ≠ 4 := fun same => object (congrArg UInt16.toNat same)
    have data : address &&& 7 ≠ 7 := fun same => data (congrArg UInt16.toNat same)
    simp [object, data]

/-- The register is seen otherwise than it is read: the byte has bits that the attributes do not
have, or the palette has an entry that the buffer does not hold. -/
def Misseen (ppu : Ppu) (address : UInt16) : Prop :=
  (ppu.AtAttributes address ∧ ppu.oamByte &&& 0x1C ≠ 0) ∨
    (ppu.AtPalette address ∧ ppu.readBuffer ≠ ppu.paletteByte)

instance (ppu : Ppu) (address : UInt16) : Decidable (ppu.Misseen address) :=
  inferInstanceAs (Decidable (_ ∨ _))

theorem peekRegister_eq_iff (ppu : Ppu) (cart : Cartridge) (address : UInt16) :
    ppu.peekRegister address = (ppu.readRegister cart address).1 ↔ ¬ ppu.Misseen address := by
  rw [ppu.readRegister_answer cart address]
  by_cases attributes : ppu.AtAttributes address
  · have data : ¬ ppu.AtPalette address := fun palette => by
      simp [AtAttributes, palette.1] at attributes
    have seen : ppu.peekRegister address = ppu.oamByte := by
      simp [peekRegister, attributes.1]
    have masked : ppu.oamByte &&& 0xE3 = ppu.oamByte ↔ ppu.oamByte &&& 0x1C = 0 :=
      Bits.and_eq_self_iff rfl rfl
    rw [if_pos attributes, seen, eq_comm, masked]
    simp [Misseen, attributes, data]
  · by_cases palette : ppu.AtPalette address
    · have seen : ppu.peekRegister address = ppu.readBuffer := by
        simp [peekRegister, palette.1]
      rw [if_neg attributes, if_pos palette, seen]
      simp [Misseen, attributes, palette]
    · simp [Misseen, attributes, palette]

end Ppu

/-! ### Addresses -/

namespace System

/-- The address is a register that is seen otherwise than it is read. -/
def Misseen (system : System) (address : UInt16) : Prop :=
  (0x2000 ≤ address ∧ address < 0x4000) ∧ system.ppu.Misseen address

instance (system : System) (address : UInt16) : Decidable (system.Misseen address) :=
  inferInstanceAs (Decidable (_ ∧ _))

/-- Below 0x4000 and from 0x6000 on a view shows what a read answers, except at these registers. -/
theorem peek_eq_iff {address : UInt16} (inside : address < 0x4000 ∨ 0x6000 ≤ address)
    (system : System) :
    system.peek address = (system.read address).1 ↔ ¬ system.Misseen address := by
  by_cases register : 0x2000 ≤ address ∧ address < 0x4000
  · have above : ¬ address < 0x2000 := by grind
    simp only [peek, read, if_neg above, if_pos register.2]
    rw [Misseen, and_iff_right register]
    exact system.ppu.peekRegister_eq_iff system.cart address
  · have stored : Stored address := by
      unfold Stored
      grind
    simp [stored.read system, Misseen, register]

theorem Stored.inside {address : UInt16} (stored : Stored address) :
    address < 0x4000 ∨ 0x6000 ≤ address := by
  unfold Stored at stored
  grind

/-- What is on the bus is not seen there. -/
theorem peek_drive {address : UInt16} (inside : address < 0x4000 ∨ 0x6000 ≤ address)
    (system : System) (value : UInt8) : (system.drive value).peek address = system.peek address := by
  unfold peek
  rcases inside with below | above
  · simp only [if_pos below]
    rfl
  · simp only [if_pos above]
    rfl

end System

/-! ### Operands -/

/-- The byte that a line shows of an operand, if it shows one. -/
def OperandView.value? : OperandView → Option UInt8
  | .immediate value
  | .zeroPage _ value
  | .zeroPageIndexed _ _ _ value
  | .absolute _ value
  | .absoluteIndexed _ _ _ value
  | .indirectX _ _ _ value
  | .indirectY _ _ _ value => Option.some value
  | .none | .accumulator | .target _ | .indirect _ _ => Option.none

namespace Machine

section Foreseen

variable {β : Type} [Bus β] {machine : Machine β}

/-- The accesses that fetch the instruction and resolve its operand are answered with what a view of
the bus shows before them. -/
def Foreseen (machine : Machine β) : Prop :=
  ∀ address value, .read address value ∈ machine.accesses → value = machine.peek address

theorem Foreseen.word (foreseen : machine.Foreseen) {first second word : UInt16}
    (reads : ReadsWord machine.accesses first second word) :
    word = wordOf (machine.peek first) (machine.peek second) := by
  obtain ⟨low, high, within, rfl⟩ := reads
  rw [foreseen first low (within.subset (.head _)),
    foreseen second high (within.subset (.tail _ (.head _)))]

/-- What has been accessed stays among the accesses while an operand is resolved. -/
theorem mem_operand {machine : Machine (Recorder β)} {access : Access}
    (made : access ∈ machine.bus.recent) (opcode : Opcode) :
    access ∈ (machine.operand opcode).2.bus.recent :=
  @operand_keeps _ machine _ (fun recorder => access ∈ recorder.recent)
    (fun earlier _ => List.mem_cons_of_mem _ earlier) made opcode

theorem Foreseen.opcode (foreseen : machine.Foreseen) : machine.peekOpcode = machine.decoded := by
  have code : .read machine.cpu.pc machine.fetchByte.1 ∈ machine.accesses :=
    List.mem_reverse.mpr (@mem_operand _ _ machine.recorded.fetchByte.2 _ (.head _) _)
  exact congrArg Opcode.ofByte (foreseen _ _ code).symm

/-- Then the byte that the line shows is the one at the address that is resolved. -/
theorem Foreseen.viewOperand (foreseen : machine.Foreseen) {value : UInt8}
    (shown : machine.viewOperand.value? = some value) :
    value = machine.peek machine.resolved.1.address := by
  have byte := foreseen (machine.cpu.pc + 1) machine.fetchByte.2.fetchByte.1
  have word := @foreseen.word
  have long : ReadsWord machine.recorded.fetchByte.2.fetchWord.2.bus.accesses
      (machine.cpu.pc + 1) (machine.cpu.pc + 1 + 1) machine.fetchByte.2.fetchWord.1 :=
    ⟨_, _, ⟨[_], [], rfl⟩, rfl⟩
  have pointed (address : UInt16) : ReadsWord
      (machine.recorded.fetchByte.2.fetchByte.2.readWordInPage address).2.bus.accesses
      address (nextInPage address)
      (machine.fetchByte.2.fetchByte.2.readWordInPage address).1 :=
    ⟨_, _, ⟨[_, _], [], rfl⟩, rfl⟩
  have fetched : machine.recorded.decoded = machine.decoded := rfl
  simp only [Machine.viewOperand, foreseen.opcode] at shown
  simp only [accesses, resolved, operand, fetched] at byte word ⊢
  cases mode : machine.decoded.mode <;> simp only [mode] at shown byte word ⊢
  case implied | accumulator | indirect | relative => cases shown
  case immediate =>
    cases shown
    rfl
  case zeroPage =>
    cases shown
    rw [byte (.tail _ (.head _))]
  case zeroPageX | zeroPageY =>
    cases shown
    rw [byte (.tail _ (.head _))]
    rfl
  case absolute =>
    split at shown <;> cases shown
    rw [word long]
    rfl
  case absoluteX | absoluteY =>
    cases shown
    rw [indexed_address, word (long.mono (indexed_accesses _ _ _ _))]
    rfl
  case indirectX =>
    cases shown
    have index : machine.fetchByte.2.fetchByte.2.cpu.x = machine.cpu.x := rfl
    rw [index, word (pointed (machine.fetchByte.2.fetchByte.1 + machine.cpu.x).toUInt16),
      byte (.tail _ (.head _))]
    rfl
  case indirectY =>
    cases shown
    have more := indexed_accesses (machine.recorded.fetchByte.2.fetchByte.2.readWordInPage
      machine.fetchByte.2.fetchByte.1.toUInt16).2 machine.decoded
      (machine.fetchByte.2.fetchByte.2.readWordInPage
        machine.fetchByte.2.fetchByte.1.toUInt16).1 machine.cpu.y
    rw [indexed_address, word ((pointed _).mono more), byte (more.subset (.tail _ (.head _)))]
    rfl

end Foreseen

/-- All reads among the accesses are of memory or of the cartridge. -/
def AllStored (accesses : List Access) : Prop :=
  ∀ address value, .read address value ∈ accesses → System.Stored address

/-- A bus of which only memory and the cartridge have been read has shown what was there at first,
and has been driven by that. -/
def DrivenFrom (system : System) (recorder : Recorder System) : Prop :=
  AllStored recorder.recent →
    (∃ value, recorder.bus = system.drive value) ∧
      ∀ address value, .read address value ∈ recorder.recent → value = system.peek address

theorem DrivenFrom.read {system : System} {recorder : Recorder System}
    (driven : DrivenFrom system recorder) (place : UInt16) :
    DrivenFrom system (Bus.read recorder place).2 := by
  intro stored
  obtain ⟨⟨value, bus⟩, seen⟩ := driven fun address value member =>
    stored address value (List.mem_cons_of_mem _ member)
  have here : System.Stored place := stored place _ (List.mem_cons_self ..)
  have answer : recorder.bus.read place =
      (system.peek place, system.drive (system.peek place)) := by
    rw [bus, here.read, System.peek_drive here.inside]
    rfl
  refine ⟨⟨system.peek place, congrArg Prod.snd answer⟩, fun address value member => ?_⟩
  rcases List.mem_cons.mp member with latest | earlier
  · cases latest
    exact congrArg Prod.fst answer
  · exact seen address value earlier

variable {machine : Machine System}

theorem resolved_driven : DrivenFrom machine.bus machine.recorded.resolved.2.bus := by
  have start : DrivenFrom machine.bus machine.recorded.bus :=
    fun _ => ⟨⟨machine.bus.openBus, rfl⟩, nofun⟩
  exact operand_keeps DrivenFrom.read (start.read _) _

/-- The instruction, its pointers and what indexing touches lie in memory or in the cartridge. -/
def FetchesStored (machine : Machine System) : Prop := AllStored machine.accesses

theorem FetchesStored.driven (stored : machine.FetchesStored) :
    (∃ value, machine.recorded.resolved.2.bus.bus = machine.bus.drive value) ∧ machine.Foreseen := by
  obtain ⟨bus, seen⟩ := resolved_driven fun address value member =>
    stored address value (List.mem_reverse.mpr member)
  exact ⟨bus, fun address value member => seen address value (List.mem_reverse.mp member)⟩

/-- When the instruction is carried out, the bus is as it was before, but for what is on it. -/
theorem FetchesStored.readied (stored : machine.FetchesStored) :
    ∃ value, machine.readied.bus = machine.bus.drive value := by
  obtain ⟨value, bus⟩ := stored.driven.1
  have same : Matches (fun (recorder : Recorder System) bus => recorder.bus = bus)
      machine.recorded machine := ⟨rfl, rfl⟩
  exact ⟨value, (same.resolved recorder_simulates.toRespects).machine.bus.symm.trans bus⟩

/-- Below 0x4000 and from 0x6000 on a view of the bus shows what a read answers, except where object
memory is given at an attribute byte with bits that do not exist, and where data is given at the
palette and the buffer holds something else. The same goes for the byte that the line of an
instruction shows of its operand, if the instruction and its pointers lie in memory or in the
cartridge: it is what the instruction reads, except at these registers. -/
theorem view_answers (machine : Machine System) :
    (∀ address, address < 0x4000 ∨ 0x6000 ≤ address →
      (machine.bus.peek address = (machine.bus.read address).1 ↔ ¬ machine.bus.Misseen address)) ∧
    ∀ value, machine.FetchesStored →
      machine.traceLine.operand.value? = some value →
      machine.resolved.1.address < 0x4000 ∨ 0x6000 ≤ machine.resolved.1.address →
      (value = (machine.readied.read machine.resolved.1.address).1 ↔
        ¬ machine.bus.Misseen machine.resolved.1.address) := by
  refine ⟨fun address inside => System.peek_eq_iff inside machine.bus, ?_⟩
  intro value stored shown inside
  obtain ⟨driven, bus⟩ := stored.readied
  have seen : value = machine.readied.bus.peek machine.resolved.1.address := by
    rw [bus, System.peek_drive inside]
    exact stored.driven.2.viewOperand shown
  have same : machine.readied.bus.Misseen machine.resolved.1.address ↔
      machine.bus.Misseen machine.resolved.1.address := by
    rw [bus]
    exact Iff.rfl
  rw [seen, ← same]
  exact System.peek_eq_iff inside machine.readied.bus

/-- At the first of its bytes, a load of object memory that is at an attribute byte of ones. -/
def attributesLoad : Machine System where
  cpu := { pc := 0 }
  bus :=
    let system := (System.powerOn .idle {}).loadRam 0 [0xAD, 0x04, 0x20]
    ((system.write 0x2003 2).write 0x2004 0xFF).write 0x2003 2

/-- The line shows another byte than the load reads. -/
theorem view_answers_attributes :
    attributesLoad.FetchesStored ∧
      attributesLoad.traceLine.operand.value? = some 0xFF ∧
      attributesLoad.bus.Misseen 0x2004 ∧
      0xFF ≠ (attributesLoad.readied.read 0x2004).1 ∧
      attributesLoad.bus.peek 0x2000 = (attributesLoad.bus.read 0x2000).1 := by
  have accesses : attributesLoad.accesses = [.read 0 0xAD, .read 1 0x04, .read 2 0x20] := by
    decide +kernel
  have stored : attributesLoad.FetchesStored := by
    intro address value member
    rw [accesses] at member
    simp only [List.mem_cons, Access.read.injEq, List.not_mem_nil, or_false] at member
    rcases member with ⟨rfl, -⟩ | ⟨rfl, -⟩ | ⟨rfl, -⟩ <;> exact .inl (by decide)
  have shown : attributesLoad.traceLine.operand.value? = some 0xFF := by decide +kernel
  have resolved : attributesLoad.resolved.1.address = 0x2004 := by decide +kernel
  have misseen : attributesLoad.bus.Misseen 0x2004 := by decide +kernel
  obtain ⟨views, lines⟩ := view_answers attributesLoad
  have line := lines 0xFF stored shown
  rw [resolved] at line
  exact ⟨stored, shown, misseen, fun same => (line (.inl (by decide))).mp same misseen,
    (views 0x2000 (.inl (by decide))).mpr (by decide +kernel)⟩

/-- The line shows a byte of ones, and the load finds three of them missing. -/
theorem attributes_misseen :
    attributesLoad.bus.peek 0x2004 = 0xFF ∧ (attributesLoad.bus.read 0x2004).1 = 0xE3 ∧
      attributesLoad.traceLine.operand = .absolute 0x2004 0xFF ∧
      attributesLoad.execute.cpu.a = 0xE3 := by
  decide +kernel

end Machine

end Nes
