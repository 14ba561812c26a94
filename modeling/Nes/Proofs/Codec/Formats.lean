import Nes.Console.Snapshot
import Nes.Proofs.Codec.RoundTrip

/-!
The byte formats of a snapshot's parts, from a single register to the whole machine. Parts without
lists are recovered whatever they hold; parts with lists are recovered if each list is short enough
for its length field. All of them are canonical, so a snapshot has only one written form.
-/

namespace Nes

open Codec

theorem Controller.codec_faithful : Controller.codec.Faithful :=
  (u8_faithful.pair <| u8_faithful.pair bool_faithful).iso (fun _ => rfl) fun _ => rfl

theorem Cpu.codec_faithful : Cpu.codec.Faithful :=
  (u8_faithful.pair <| u8_faithful.pair <| u8_faithful.pair <| u8_faithful.pair <|
    u16_faithful.pair <| u8_faithful.pair <| u64_faithful.pair <| bool_faithful.pair <|
    u64_faithful.pair <| bool_faithful.pair bool_faithful).iso (fun _ => rfl) fun _ => rfl

/-! ### Sound -/

theorem Envelope.codec_faithful : Envelope.codec.Faithful :=
  (bool_faithful.pair <| bool_faithful.pair <| bool_faithful.pair <| u8_faithful.pair <|
    u8_faithful.pair u8_faithful).iso (fun _ => rfl) fun _ => rfl

theorem LengthCounter.codec_faithful : LengthCounter.codec.Faithful :=
  (bool_faithful.pair <| bool_faithful.pair u8_faithful).iso (fun _ => rfl) fun _ => rfl

theorem Pulse.codec_faithful : Pulse.codec.Faithful :=
  (bool_faithful.pair <| u8_faithful.pair <| u8_faithful.pair <| Envelope.codec_faithful.pair <|
    LengthCounter.codec_faithful.pair <| bool_faithful.pair <| u8_faithful.pair <|
    bool_faithful.pair <| u8_faithful.pair <| bool_faithful.pair <| u8_faithful.pair <|
    u16_faithful.pair u16_faithful).iso (fun _ => rfl) fun _ => rfl

theorem Triangle.codec_faithful : Triangle.codec.Faithful :=
  (LengthCounter.codec_faithful.pair <| bool_faithful.pair <| u8_faithful.pair <|
    u8_faithful.pair <| bool_faithful.pair <| u16_faithful.pair <| u16_faithful.pair
    u8_faithful).iso (fun _ => rfl) fun _ => rfl

theorem Noise.codec_faithful : Noise.codec.Faithful :=
  (Envelope.codec_faithful.pair <| LengthCounter.codec_faithful.pair <| bool_faithful.pair <|
    u16_faithful.pair <| u16_faithful.pair u16_faithful).iso (fun _ => rfl) fun _ => rfl

theorem Dmc.codec_faithful : Dmc.codec.Faithful :=
  (bool_faithful.pair <| bool_faithful.pair <| bool_faithful.pair <| u16_faithful.pair <|
    u16_faithful.pair <| u8_faithful.pair <| u16_faithful.pair <| u16_faithful.pair <|
    u16_faithful.pair <| u16_faithful.pair <| u8_faithful.option.pair <| u8_faithful.pair <|
    u8_faithful.pair bool_faithful).iso (fun _ => rfl) fun _ => rfl

theorem Phase.codec_faithful : Phase.codec.Faithful :=
  u64_faithful.iso (fun _ => rfl) fun _ => rfl

theorem Apu.State.codec_faithful : Apu.State.codec.Faithful :=
  (Pulse.codec_faithful.pair <| Pulse.codec_faithful.pair <| Triangle.codec_faithful.pair <|
    Noise.codec_faithful.pair <| Dmc.codec_faithful.pair <| u32_faithful.pair <|
    bool_faithful.pair <| bool_faithful.pair <| bool_faithful.pair <| bool_faithful.pair
    Phase.codec_faithful).iso (fun _ => rfl) fun _ => rfl

/-! ### Picture -/

theorem Scroll.codec_faithful : Scroll.codec.Faithful :=
  (u16_faithful.pair <| u16_faithful.pair <| u8_faithful.pair bool_faithful).iso
    (fun _ => rfl) fun _ => rfl

theorem SpriteSlot.codec_faithful : SpriteSlot.codec.Faithful :=
  (u32_faithful.pair <| u8_faithful.pair <| bool_faithful.pair <| u8_faithful.pair <|
    u8_faithful.pair <| u8_faithful.pair u8_faithful).iso (fun _ => rfl) fun _ => rfl

namespace PpuState

theorem rasterCodec_faithful : rasterCodec.Faithful :=
  (u16_faithful.pair <| u16_faithful.pair <| bool_faithful.pair u64_faithful).iso
    (fun _ => rfl) fun _ => rfl

theorem openBusCodec_faithful : openBusCodec.Faithful :=
  (u8_faithful.pair u32_faithful).iso (fun _ => rfl) fun _ => rfl

theorem backgroundCodec_faithful : backgroundCodec.Faithful :=
  (u8_faithful.pair <| u8_faithful.pair <| u8_faithful.pair <| u8_faithful.pair
    u64_faithful).iso (fun _ => rfl) fun _ => rfl

theorem paletteCodec_faithful : paletteCodec.Faithful :=
  (u8_faithful.vector 32).iso (fun _ => rfl) fun _ => rfl

/-- Every list has a length that its field can hold. -/
structure Countable (state : PpuState) : Prop where
  oam : state.oam.length < UInt64.size
  nametables : state.nametables.length < UInt64.size
  sprites : state.sprites.length < UInt64.size
  frame : state.frame.length < UInt64.size

theorem codec_recovers {state : PpuState} (countable : state.Countable) :
    codec.Recovers state := by
  refine Recovers.iso ?_ rfl
  exact (rasterCodec_faithful.recovers _).pair <| (u8_recovers _).pair <| (u8_recovers _).pair <|
    (u8_recovers _).pair <| (Scroll.codec_faithful.recovers _).pair <| (u8_recovers _).pair <|
    (openBusCodec_faithful.recovers _).pair <| (bytes_recovers countable.oam).pair <|
    (u8_recovers _).pair <| (bytes_recovers countable.nametables).pair <|
    (paletteCodec_faithful.recovers _).pair <| (backgroundCodec_faithful.recovers _).pair <|
    (Recovers.list countable.sprites fun _ _ => SpriteSlot.codec_faithful.recovers _).pair <|
    (u8_recovers _).pair <| (bool_recovers _).pair <| (bool_recovers _).pair
    (bytes_recovers countable.frame)

theorem codec_canonical : codec.Canonical :=
  (rasterCodec_faithful.canonical.pair <| u8_canonical.pair <| u8_canonical.pair <|
    u8_canonical.pair <| Scroll.codec_faithful.canonical.pair <| u8_canonical.pair <|
    openBusCodec_faithful.canonical.pair <| bytes_canonical.pair <| u8_canonical.pair <|
    bytes_canonical.pair <| paletteCodec_faithful.canonical.pair <|
    backgroundCodec_faithful.canonical.pair <| SpriteSlot.codec_faithful.canonical.list.pair <|
    u8_canonical.pair <| bool_canonical.pair <| bool_canonical.pair bytes_canonical).iso
    fun _ => rfl

end PpuState

/-! ### Cartridge -/

theorem Mirroring.codec_faithful : Mirroring.codec.Faithful := by
  refine variant_faithful (fun value => by cases value <;> rfl) ?_
  intro tag value found
  rw [← UInt32.ofNat_toNat (x := tag)]
  simp only [ofIndex?] at found
  split at found
  case h_6 => cases found
  all_goals
    rename_i index
    obtain rfl := Option.some.inj found
    rw [index]
    rfl

theorem Mmc1.Registers.codec_faithful : Mmc1.Registers.codec.Faithful :=
  (u8_faithful.pair <| u8_faithful.pair <| u8_faithful.pair <| u8_faithful.pair
    u8_faithful).iso (fun _ => rfl) fun _ => rfl

theorem Mmc3.Registers.codec_faithful : Mmc3.Registers.codec.Faithful :=
  (u8_faithful.pair <| (u8_faithful.vector 8).pair <| Mirroring.codec_faithful.pair <|
    u8_faithful.pair <| u8_faithful.pair <| u8_faithful.pair <| bool_faithful.pair <|
    bool_faithful.pair <| bool_faithful.pair <| bool_faithful.pair u8_faithful).iso
    (fun _ => rfl) fun _ => rfl

theorem BoardState.codec_recovers (state : BoardState) : BoardState.codec.Recovers state := by
  intro rest
  cases state with
  | nrom => rfl
  | mmc1 registers =>
    have read := Mmc1.Registers.codec_faithful.recovers registers rest
    have tag := u32_recovers 1 (Mmc1.Registers.codec.encode registers ++ rest)
    simp only [codec, List.append_assoc, tag, bind, Except.bind, read]
    rfl
  | mmc3 registers =>
    have read := Mmc3.Registers.codec_faithful.recovers registers rest
    have tag := u32_recovers 4 (Mmc3.Registers.codec.encode registers ++ rest)
    simp only [codec, List.append_assoc, tag, bind, Except.bind, read]
    rfl
  | uxRom | cnRom | axRom => rfl

/-- A board's tag and then its registers, where the registers have a format of their own. -/
private theorem BoardState.tagged_canonical {α : Type} {inner : Codec α}
    (canonical : inner.Canonical) {make : α → BoardState} {number : UInt32}
    (written : ∀ value, codec.encode (make value) = u32.encode number ++ inner.encode value)
    {bytes rest : List UInt8} {state : BoardState}
    (success : (inner.decode bytes).bind (fun (value, rest) => .ok (make value, rest)) =
      .ok (state, rest)) :
    u32.encode number ++ bytes = codec.encode state ++ rest := by
  obtain ⟨⟨value, left⟩, read, result⟩ := Snapshot.bind_eq_ok success
  obtain ⟨rfl, rfl⟩ := Prod.mk.inj (Except.ok.inj result)
  rw [written, List.append_assoc, canonical _ _ _ read]

theorem BoardState.codec_canonical : BoardState.codec.Canonical := by
  intro bytes state rest success
  obtain ⟨⟨tag, middle⟩, readTag, success⟩ := Snapshot.bind_eq_ok success
  have prefixed := u32_canonical _ _ _ readTag
  rw [← UInt32.ofNat_toNat (x := tag)] at prefixed
  simp only at success
  split at success
  case h_7 => cases success
  all_goals
    rename_i number
    rw [prefixed, number]
  case h_1 =>
    obtain ⟨rfl, rfl⟩ := Prod.mk.inj (Except.ok.inj success)
    rfl
  case h_2 => exact tagged_canonical Mmc1.Registers.codec_faithful.canonical (fun _ => rfl) success
  case h_5 => exact tagged_canonical Mmc3.Registers.codec_faithful.canonical (fun _ => rfl) success
  all_goals exact tagged_canonical u8_canonical (fun _ => rfl) success

namespace CartridgeState

/-- Every list has a length that its field can hold. -/
structure Countable (state : CartridgeState) : Prop where
  sram : state.sram.length < UInt64.size
  chrRam : ∀ bytes ∈ state.chrRam, bytes.length < UInt64.size

theorem codec_recovers {state : CartridgeState} (countable : state.Countable) :
    codec.Recovers state := by
  refine Recovers.iso ?_ rfl
  exact (u8_recovers _).pair <| (bytes_recovers countable.sram).pair <|
    (Recovers.option fun bytes member => bytes_recovers (countable.chrRam bytes member)).pair <|
    BoardState.codec_recovers _

theorem codec_canonical : codec.Canonical :=
  (u8_canonical.pair <| bytes_canonical.pair <| bytes_canonical.option.pair
    BoardState.codec_canonical).iso fun _ => rfl

end CartridgeState

/-! ### The whole machine -/

namespace SystemState

theorem codec_recovers {state : SystemState} (countable : state.ram.length < UInt64.size) :
    codec.Recovers state := by
  refine Recovers.iso ?_ rfl
  exact (bytes_recovers countable).pair <|
    ((Controller.codec_faithful.vector 2).recovers _).pair <| (u8_recovers _).pair <|
    (u64_recovers _).pair (u64_recovers _)

theorem codec_canonical : codec.Canonical :=
  (bytes_canonical.pair <| (Controller.codec_faithful.vector 2).canonical.pair <|
    u8_canonical.pair <| u64_canonical.pair u64_canonical).iso fun _ => rfl

end SystemState

namespace MachineState

/-- Every list has a length that its field can hold. -/
structure Countable (state : MachineState) : Prop where
  ppu : state.ppu.Countable
  ram : state.bus.ram.length < UInt64.size
  mapper : state.mapper.Countable

theorem codec_recovers {state : MachineState} (countable : state.Countable) :
    codec.Recovers state := by
  refine Recovers.iso ?_ rfl
  exact (Cpu.codec_faithful.recovers _).pair <| (PpuState.codec_recovers countable.ppu).pair <|
    (Apu.State.codec_faithful.recovers _).pair <| (SystemState.codec_recovers countable.ram).pair <|
    CartridgeState.codec_recovers countable.mapper

theorem codec_canonical : codec.Canonical :=
  (Cpu.codec_faithful.canonical.pair <| PpuState.codec_canonical.pair <|
    Apu.State.codec_faithful.canonical.pair <| SystemState.codec_canonical.pair
    CartridgeState.codec_canonical).iso fun _ => rfl

theorem decode_encode {state : MachineState} (countable : state.Countable) (rest : List UInt8) :
    decode (state.encode ++ rest) = .ok state := by
  have read := codec_recovers countable rest
  simp only [encode, List.append_assoc]
  change Snapshot.read codec (codec.encode state ++ rest) = .ok state
  simp only [Snapshot.read, read]

theorem encode_of_decode {bytes : List UInt8} {state : MachineState}
    (success : decode bytes = .ok state) : ∃ rest, bytes = state.encode ++ rest := by
  simp only [decode] at success
  split at success
  case h_2 => cases success
  case h_1 m0 m1 m2 m3 v0 v1 body =>
    split at success
    · cases success
    · rename_i sameMagic
      split at success
      · cases success
      · rename_i sameVersion
        have found : [m0, m1, m2, m3] = magic := by simpa using sameMagic
        have written : [v0, v1] = u16.encode version := by
          have value : UInt16.ofNat (ofDigits [v0, v1]) = version := by simpa using sameVersion
          have read := u16_canonical [v0, v1] version [] (by rw [← value]; rfl)
          simpa using read
        simp only [Snapshot.read] at success
        split at success
        · rename_i decoded rest read
          obtain rfl := Except.ok.inj success
          refine ⟨rest, ?_⟩
          rw [encode, ← found, ← written, List.append_assoc, List.append_assoc,
            ← codec_canonical _ _ _ read]
          rfl
        · cases success

end MachineState

end Nes
