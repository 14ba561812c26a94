import Nes.Proofs.Codec.Formats

/-!
Which states are read, and from which bytes. Every state that is read has lists that their length
fields can count, and such a state is read from exactly the byte strings that begin with its written
form; so the written form is the whole of what a reading depends on.
-/

namespace Nes

namespace Codec

variable {α β : Type}

/-- Every value that is read has a property. -/
def Yields (codec : Codec α) (holds : α → Prop) : Prop :=
  ∀ bytes value rest, codec.decode bytes = .ok (value, rest) → holds value

theorem yields_any (codec : Codec α) : codec.Yields fun _ => True := fun _ _ _ _ => trivial

theorem Yields.iso {codec : Codec α} {make : α → β} {parts : β → α} {inner : α → Prop}
    {outer : β → Prop} (yields : codec.Yields inner)
    (made : ∀ value, inner value → outer (make value)) : (codec.iso make parts).Yields outer := by
  intro bytes value rest success
  obtain ⟨⟨part, left⟩, read, result⟩ := Snapshot.bind_eq_ok success
  obtain ⟨rfl, rfl⟩ := Prod.mk.inj (Except.ok.inj result)
  exact made part (yields _ _ _ read)

theorem Yields.pair {first : Codec α} {second : Codec β} {left : α → Prop} {right : β → Prop}
    (before : first.Yields left) (behind : second.Yields right) :
    (first.pair second).Yields fun value => left value.1 ∧ right value.2 := by
  intro bytes value rest success
  obtain ⟨⟨one, middle⟩, readOne, success⟩ := Snapshot.bind_eq_ok success
  obtain ⟨⟨other, end'⟩, readOther, result⟩ := Snapshot.bind_eq_ok success
  obtain ⟨rfl, rfl⟩ := Prod.mk.inj (Except.ok.inj result)
  exact ⟨before _ _ _ readOne, behind _ _ _ readOther⟩

theorem Yields.option {codec : Codec α} {holds : α → Prop} (yields : codec.Yields holds) :
    codec.option.Yields fun value => ∀ inner ∈ value, holds inner := by
  intro bytes value rest success inner member
  obtain rfl : value = some inner := member
  cases bytes with
  | nil => cases success
  | cons byte tail =>
    simp only [Codec.option] at success
    split at success
    · cases success
    · split at success
      · obtain ⟨⟨read, left⟩, decoded, result⟩ := Snapshot.bind_eq_ok success
        obtain ⟨same, rfl⟩ := Prod.mk.inj (Except.ok.inj result)
        obtain rfl := Option.some.inj same
        exact yields _ _ _ decoded
      · cases success

/-- A list is as long as its length field says. -/
theorem list_yields {codec : Codec α} (canonical : codec.Canonical) :
    codec.list.Yields fun values => values.length < UInt64.size := by
  intro bytes values rest success
  obtain ⟨⟨length, middle⟩, readLength, success⟩ := Snapshot.bind_eq_ok success
  obtain ⟨count, same⟩ := decodeMany_canonical canonical success
  rw [count]
  exact length.toNat_lt

theorem bytes_yields : bytes.Yields fun block => block.length < UInt64.size := by
  intro source block rest success
  obtain ⟨⟨length, middle⟩, readLength, success⟩ := Snapshot.bind_eq_ok success
  obtain ⟨count, same⟩ := append_of_takeBytes success
  rw [count]
  exact length.toNat_lt

end Codec

open Codec

/-! ### Lists that were read -/

theorem PpuState.codec_yields : PpuState.codec.Yields PpuState.Countable := by
  have lists := (yields_any rasterCodec).pair <| (yields_any u8).pair <| (yields_any u8).pair <|
    (yields_any u8).pair <| (yields_any Scroll.codec).pair <| (yields_any u8).pair <|
    (yields_any openBusCodec).pair <| bytes_yields.pair <| (yields_any u8).pair <|
    bytes_yields.pair <| (yields_any paletteCodec).pair <| (yields_any backgroundCodec).pair <|
    (list_yields SpriteSlot.codec_faithful.canonical).pair <| (yields_any u8).pair <|
    (yields_any bool).pair <| (yields_any bool).pair bytes_yields
  refine lists.iso ?_
  intro value bounds
  obtain ⟨-, -, -, -, -, -, -, oam, -, nametables, -, -, sprites, -, -, -, frame⟩ := bounds
  exact ⟨oam, nametables, sprites, frame⟩

theorem CartridgeState.codec_yields : CartridgeState.codec.Yields CartridgeState.Countable := by
  have lists := (yields_any u8).pair <| bytes_yields.pair <| bytes_yields.option.pair
    (yields_any BoardState.codec)
  refine lists.iso ?_
  intro value bounds
  obtain ⟨-, sram, chrRam, -⟩ := bounds
  exact ⟨sram, chrRam⟩

theorem SystemState.codec_yields :
    SystemState.codec.Yields fun state => state.ram.length < UInt64.size := by
  have lists := bytes_yields.pair <| (yields_any (Controller.codec.vector 2)).pair <|
    (yields_any u8).pair <| (yields_any u64).pair (yields_any u64)
  refine lists.iso ?_
  intro value bounds
  exact bounds.1

namespace MachineState

theorem codec_yields : MachineState.codec.Yields MachineState.Countable := by
  have lists := (yields_any Cpu.codec).pair <| PpuState.codec_yields.pair <|
    (yields_any Apu.State.codec).pair <| SystemState.codec_yields.pair CartridgeState.codec_yields
  refine lists.iso ?_
  intro value bounds
  obtain ⟨-, ppu, -, ram, mapper⟩ := bounds
  exact ⟨ppu, ram, mapper⟩

/-- Only states that can be written are read. -/
theorem countable_of_decode {bytes : List UInt8} {state : MachineState}
    (success : decode bytes = .ok state) : state.Countable := by
  unfold decode at success
  split at success
  case h_2 => cases success
  case h_1 =>
    dsimp only at success
    split at success
    · cases success
    · split at success
      · cases success
      · unfold Snapshot.read at success
        split at success
        · rename_i read
          obtain rfl := Except.ok.inj success
          exact codec_yields _ _ _ read
        · cases success

/-- A state is read from the byte strings that begin with its written form, and from no others. -/
theorem decode_eq_ok_iff {bytes : List UInt8} {state : MachineState} :
    decode bytes = .ok state ↔ state.Countable ∧ state.encode <+: bytes := by
  constructor
  · intro success
    obtain ⟨rest, rfl⟩ := encode_of_decode success
    exact ⟨countable_of_decode success, List.prefix_append _ _⟩
  · intro ⟨countable, rest, written⟩
    rw [← written]
    exact decode_encode countable rest

/-- Nothing shorter than the written form is read. -/
theorem decode_cut {state : MachineState} (countable : state.Countable) {cut : List UInt8}
    (front : cut <+: state.encode) (strict : cut ≠ state.encode) :
    ∃ fault, decode cut = .error fault := by
  cases outcome : decode cut with
  | error fault => exact ⟨fault, rfl⟩
  | ok found =>
    obtain ⟨foundCountable, written⟩ := decode_eq_ok_iff.mp outcome
    have whole : decode state.encode = .ok found :=
      decode_eq_ok_iff.mpr ⟨foundCountable, written.trans front⟩
    have itself : decode state.encode = .ok state :=
      decode_eq_ok_iff.mpr ⟨countable, List.prefix_refl _⟩
    obtain rfl : found = state := Except.ok.inj (whole.symm.trans itself)
    exact absurd (front.eq_of_length_le written.length_le) strict

/-- Writing and reading are inverse up to trailing bytes: what is written is read back whatever
follows, what is read was written, no two states share a written form, two readings of one state
differ only behind it, and no part of it is enough. -/
theorem codec_bijective :
    (∀ state : MachineState, state.Countable → ∀ trailing,
      decode (state.encode ++ trailing) = .ok state) ∧
    (∀ bytes state, decode bytes = .ok state → state.Countable ∧ state.encode <+: bytes) ∧
    (∀ first second : MachineState, first.Countable → second.Countable →
      first.encode = second.encode → first = second) ∧
    (∀ first second state, decode first = .ok state → decode second = .ok state →
      ∃ left right, first = state.encode ++ left ∧ second = state.encode ++ right) ∧
    ∀ (state : MachineState) (cut : List UInt8), state.Countable → cut <+: state.encode →
      cut ≠ state.encode → ∃ fault, decode cut = .error fault := by
  refine ⟨fun _ countable => decode_encode countable, fun _ _ => decode_eq_ok_iff.mp, ?_, ?_,
    fun _ _ countable => decode_cut countable⟩
  · intro first second countable other same
    have read := decode_encode countable []
    rw [same, decode_encode other []] at read
    exact (Except.ok.inj read).symm
  · intro first second state success other
    obtain ⟨left, front⟩ := encode_of_decode success
    obtain ⟨right, behind⟩ := encode_of_decode other
    exact ⟨left, right, front, behind⟩

/-- A record whose lists are all empty. -/
def bare : MachineState where
  cpu := {}
  ppu :=
    { raster := {}, ctrl := 0, mask := 0, status := 0, scroll := {}, readBuffer := 0, openBus := {},
      oam := [], oamAddr := 0, nametables := [], palette := {}, background := {}, sprites := [],
      spriteCount := 0, nmiPending := false, suppressVblank := false, frame := [] }
  apu := {}
  bus := { ram := [], controllers := Vector.replicate 2 {}, openBus := 0, cycles := 0, stall := 0 }
  mapper := { mapperId := 0, sram := [], chrRam := none, board := .nrom }

theorem codec_bijective_bare :
    decode (bare.encode ++ [0xFF]) = .ok bare ∧ ∃ fault, decode [0x56, 0x53] = .error fault := by
  obtain ⟨recovered, -, -, -, cut⟩ := codec_bijective
  have none : (0 : Nat) < UInt64.size := by decide
  have countable : bare.Countable :=
    ⟨⟨none, none, none, none⟩, none, none, fun _ member => by cases member⟩
  refine ⟨recovered bare countable [0xFF], cut bare _ countable ⟨_, rfl⟩ ?_⟩
  intro same
  cases same

end MachineState

end Nes
