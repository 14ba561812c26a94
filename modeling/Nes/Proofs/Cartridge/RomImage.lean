import Nes.Cartridge.Rom
import Nes.Proofs.Bits
import Nes.Proofs.Bytes

/-!
Which byte strings are cartridge images. An image is told by a few bytes at fixed places and by its
length: the header says where every part begins, so the first condition that fails decides what is
reported, and an image that passes is taken apart by places alone. Writing the parts again leaves
out what no part holds.
-/

namespace Nes

namespace RomImage

/-! ### The layout -/

/-- The number at a place; zero behind the end. -/
def byteAt (data : List UInt8) (place : Nat) : Nat := (data.getD place 0).toNat

/-- Where the program begins: behind the header, and behind 512 bytes more if bit 2 of byte 6 is
set. -/
def prgStart (data : List UInt8) : Nat := 16 + if (byteAt data 6).testBit 2 then 512 else 0

def prgSize (data : List UInt8) : Nat := 16384 * byteAt data 4

def chrStart (data : List UInt8) : Nat := prgStart data + prgSize data

def chrSize (data : List UInt8) : Nat := 8192 * byteAt data 5

/-- The number that marks revision 2.0 of the format, in bits 2 and 3 of byte 7. -/
def revision (data : List UInt8) : Nat := byteAt data 7 / 4 % 4

/-- The letters NES and an end-of-file mark. -/
def signature : List UInt8 := [0x4E, 0x45, 0x53, 0x1A]

/-- What is asked of an image, in the order in which it is asked, each with what is reported when it
is missing. -/
def conditions (data : List UInt8) : List (Bool × RomError) :=
  [(16 ≤ data.length, .tooShort data.length),
    (signature <+: data, .badMagic),
    (revision data ≠ 2, .nes2Unsupported),
    (1 ≤ byteAt data 4, .noPrg),
    (chrStart data ≤ data.length,
      .truncatedPrg (prgSize data) (data.length - prgStart data)),
    (chrStart data + chrSize data ≤ data.length,
      .truncatedChr (chrSize data) (data.length - chrStart data))]

/-- What is reported for the first condition that fails. -/
def fault? (data : List UInt8) : Option RomError :=
  ((conditions data).find? fun condition => !condition.1).map Prod.snd

/-- The header's fields at their places. -/
def header (data : List UInt8) : Header where
  prgChunks := data.getD 4 0
  chrChunks := data.getD 5 0
  flags6 := data.getD 6 0
  flags7 := data.getD 7 0

/-- The parts at their places. -/
def parts (data : List UInt8) : Rom where
  header := header data
  prg := (data.drop (prgStart data)).take (prgSize data)
  chr := (data.drop (chrStart data)).take (chrSize data)

/-- The image without a trainer and its mark, without the rest of the header, and without what
follows the patterns. -/
def stripped (data : List UInt8) : List UInt8 :=
  data.take 6 ++ [data.getD 6 0 &&& ~~~0x04, data.getD 7 0] ++ List.replicate 8 0 ++
    (data.drop (prgStart data)).take (prgSize data + chrSize data)

/-! ### Headers -/

theorem exists_sixteen {data : List UInt8} (long : 16 ≤ data.length) :
    ∃ m0 m1 m2 m3 prg chr f6 f7 r0 r1 r2 r3 r4 r5 r6 r7 rest,
      data = m0 :: m1 :: m2 :: m3 :: prg :: chr :: f6 :: f7 ::
        r0 :: r1 :: r2 :: r3 :: r4 :: r5 :: r6 :: r7 :: rest := by
  match data, long with
  | m0 :: m1 :: m2 :: m3 :: prg :: chr :: f6 :: f7 ::
      r0 :: r1 :: r2 :: r3 :: r4 :: r5 :: r6 :: r7 :: rest, _ =>
    exact ⟨m0, m1, m2, m3, prg, chr, f6, f7, r0, r1, r2, r3, r4, r5, r6, r7, rest, rfl⟩

theorem header_isNes2 (data : List UInt8) : (header data).isNes2 = true ↔ revision data = 2 := by
  have all (byte : UInt8) : (byte &&& 0x0C == 0x08) = decide (byte.toNat / 4 % 4 = 2) := by
    apply byte_all fun byte => (byte &&& 0x0C == 0x08) = decide (byte.toNat / 4 % 4 = 2)
    decide +kernel
  simp only [Header.isNes2, all, decide_eq_true_eq]
  rfl

theorem header_hasTrainer (data : List UInt8) :
    (header data).hasTrainer = (byteAt data 6).testBit 2 :=
  Bits.and_single 2 _ rfl

theorem parse_header_short {data : List UInt8} (short : ¬ 16 ≤ data.length) :
    Header.parse data = .error (.tooShort data.length) := by
  unfold Header.parse
  split
  · simp only [List.length_cons] at short
    omega
  · rfl

theorem parse_header_long {data : List UInt8} (long : 16 ≤ data.length) :
    Header.parse data =
      if ¬ signature <+: data then .error .badMagic
      else if revision data = 2 then .error .nes2Unsupported
      else .ok (header data) := by
  have nes2 := header_isNes2 data
  obtain ⟨m0, m1, m2, m3, prg, chr, f6, f7, r0, r1, r2, r3, r4, r5, r6, r7, rest, rfl⟩ :=
    exists_sixteen long
  have magic : ([m0, m1, m2, m3] != Header.magic) = true ↔
      ¬ signature <+: m0 :: m1 :: m2 :: m3 :: prg :: chr :: f6 :: f7 ::
        r0 :: r1 :: r2 :: r3 :: r4 :: r5 :: r6 :: r7 :: rest := by
    rw [bne_iff_ne, List.prefix_iff_eq_take, ne_comm]
    rfl
  simp only [← magic, ← nes2]
  rfl

/-! ### Images -/

theorem bodyOf_header (data : List UInt8) :
    Rom.bodyOf (header data) data = data.drop (prgStart data) := by
  rw [Rom.bodyOf, header_hasTrainer]
  rfl

theorem header_prgLength (data : List UInt8) : (header data).prgLength = prgSize data :=
  Nat.mul_comm _ _

theorem header_chrLength (data : List UInt8) : (header data).chrLength = chrSize data :=
  Nat.mul_comm _ _

theorem header_prgChunks (data : List UInt8) :
    ((header data).prgChunks == 0) = true ↔ ¬ 1 ≤ byteAt data 4 := by
  rw [beq_iff_eq, ← UInt8.toNat_inj]
  change byteAt data 4 = 0 ↔ _
  omega

/-- A block that ends within the image is found whole. -/
theorem block_whole {data : List UInt8} {start size : Nat} (within : start + size ≤ data.length) :
    ((data.drop start).take size).length = size := by
  rw [List.length_take, List.length_drop]
  omega

/-- Of a block that does not, all bytes from its start on are found. -/
theorem block_cut {data : List UInt8} {start size : Nat} (cut : ¬ start + size ≤ data.length)
    (begun : 0 < size ∨ start ≤ data.length) :
    ((data.drop start).take size).length = data.length - start ∧ data.length - start ≠ size := by
  rw [List.length_take, List.length_drop]
  omega

/-- What is left of an image once its header is read. -/
theorem parse_of_header {data : List UInt8} (read : Header.parse data = .ok (header data)) :
    Rom.parse data =
      if ¬ 1 ≤ byteAt data 4 then .error .noPrg
      else if ¬ chrStart data ≤ data.length then
        .error (.truncatedPrg (prgSize data) (data.length - prgStart data))
      else if ¬ chrStart data + chrSize data ≤ data.length then
        .error (.truncatedChr (chrSize data) (data.length - chrStart data))
      else .ok (parts data) := by
  have patterns : (data.drop (prgStart data)).drop (prgSize data) = data.drop (chrStart data) :=
    List.drop_drop
  unfold Rom.parse
  rw [read]
  change (if (header data).prgChunks == 0 then _ else _) = _
  simp only [header_prgChunks]
  by_cases chunks : 1 ≤ byteAt data 4
  case neg => simp only [chunks, not_false_eq_true, if_true]
  simp only [chunks, not_true_eq_false, if_false, bodyOf_header, header_prgLength,
    header_chrLength, patterns, bne_iff_ne]
  by_cases prg : chrStart data ≤ data.length
  case neg =>
    have some : 0 < prgSize data := by
      unfold prgSize
      omega
    obtain ⟨found, short⟩ := block_cut prg (.inl some)
    rw [found, if_pos short, if_pos prg]
  rw [block_whole prg, if_neg (not_not_intro rfl), if_neg (not_not_intro prg)]
  by_cases chr : chrStart data + chrSize data ≤ data.length
  case neg =>
    obtain ⟨found, short⟩ := block_cut chr (.inr prg)
    rw [found, if_pos short, if_pos chr]
  rw [block_whole chr, if_neg (not_not_intro rfl), if_neg (not_not_intro chr)]
  rfl

/-- Reading an image answers the first condition that fails, and its parts if none does. -/
theorem parse_eq (data : List UInt8) :
    Rom.parse data =
      match fault? data with
      | some fault => .error fault
      | none => .ok (parts data) := by
  unfold fault? conditions
  by_cases long : 16 ≤ data.length
  case neg =>
    simp [Rom.parse, parse_header_short long, long, bind, Except.bind]
  have start := parse_header_long long
  by_cases signed : signature <+: data
  case neg => simp [Rom.parse, start, long, signed, bind, Except.bind]
  by_cases old : revision data = 2
  case pos => simp [Rom.parse, start, long, signed, old, bind, Except.bind]
  simp only [signed, old, not_true_eq_false, if_false] at start
  rw [parse_of_header start]
  by_cases chunks : 1 ≤ byteAt data 4
  case neg => simp [long, signed, old, chunks]
  by_cases prg : chrStart data ≤ data.length
  case neg => simp [long, signed, old, chunks, prg]
  by_cases chr : chrStart data + chrSize data ≤ data.length <;>
    simp [long, signed, old, chunks, prg, chr]

theorem fault?_eq_none_iff (data : List UInt8) :
    fault? data = none ↔
      16 ≤ data.length ∧ signature <+: data ∧ revision data ≠ 2 ∧ 1 ≤ byteAt data 4 ∧
        chrStart data + chrSize data ≤ data.length := by
  have order : chrStart data + chrSize data ≤ data.length → chrStart data ≤ data.length :=
    fun inside => Nat.le_trans (Nat.le_add_right _ _) inside
  simp only [fault?, Option.map_eq_none_iff, List.find?_eq_none, conditions, List.forall_mem_cons,
    List.not_mem_nil, false_implies, implies_true, Bool.not_eq_true', Bool.not_eq_false,
    decide_eq_true_eq, and_true, and_iff_right_of_imp order]

theorem parse_eq_ok_iff {data : List UInt8} {rom : Rom} :
    Rom.parse data = .ok rom ↔ fault? data = none ∧ rom = parts data := by
  rw [parse_eq]
  cases fault? data with
  | none => simp [eq_comm]
  | some fault => simp

theorem parse_eq_error_iff {data : List UInt8} {error : RomError} :
    Rom.parse data = .error error ↔ fault? data = some error := by
  rw [parse_eq]
  cases fault? data with
  | none => simp
  | some fault => simp

/-! ### Writing -/

theorem toBytes_parts {data : List UInt8} (sound : fault? data = none) :
    (parts data).toBytes = stripped data := by
  obtain ⟨long, signed, -⟩ := (fault?_eq_none_iff data).mp sound
  have front : data.take 6 = signature ++ [data.getD 4 0, data.getD 5 0] := by
    have letters : data.take 4 = signature := (List.prefix_iff_eq_take.mp signed).symm
    rw [List.take_add (i := 4) (j := 2), letters]
    obtain ⟨m0, m1, m2, m3, prg, chr, f6, f7, r0, r1, r2, r3, r4, r5, r6, r7, rest, rfl⟩ :=
      exists_sixteen long
    rfl
  have blocks : (data.drop (prgStart data)).take (prgSize data + chrSize data) =
      (parts data).prg ++ (parts data).chr := by
    rw [List.take_add, List.drop_drop]
    rfl
  rw [stripped, front, blocks]
  simp only [Rom.toBytes, Header.toBytes, List.append_assoc]
  rfl

/-- What an image can be written from: a header of the first revision without a trainer's mark and
with some program, and parts of the sizes that it tells. -/
structure Writable (rom : Rom) : Prop where
  revision : rom.header.flags7.toNat / 4 % 4 ≠ 2
  trainer : rom.header.flags6.toNat.testBit 2 = false
  chunks : 1 ≤ rom.header.prgChunks.toNat
  prg : rom.prg.length = 16384 * rom.header.prgChunks.toNat
  chr : rom.chr.length = 8192 * rom.header.chrChunks.toNat

theorem Writable.header_toBytes {rom : Rom} (writable : Writable rom) :
    rom.header.withoutTrainer = rom.header := by
  have same : rom.header.flags6 &&& 0xFB = rom.header.flags6 := by
    apply byte_all fun byte => byte.toNat.testBit 2 = false → byte &&& 0xFB = byte
    decide +kernel
    exact writable.trainer
  rw [Header.withoutTrainer, same]

theorem Writable.parse_toBytes {rom : Rom} (writable : Writable rom) :
    Rom.parse rom.toBytes = .ok { rom with submapper := 0 } := by
  obtain ⟨written, prg, chr, submapper⟩ := rom
  have bytes : Rom.toBytes ⟨written, prg, chr, submapper⟩ =
      signature ++ [written.prgChunks, written.chrChunks, written.flags6, written.flags7] ++
        List.replicate 8 0 ++ (prg ++ chr) := by
    rw [Rom.toBytes, writable.header_toBytes, List.append_assoc]
    rfl
  obtain ⟨revision, trainer, chunks, prgLength, chrLength⟩ := writable
  rw [bytes]
  generalize image : signature ++
    [written.prgChunks, written.chrChunks, written.flags6, written.flags7] ++
      List.replicate 8 0 ++ (prg ++ chr) = data
  have length : data.length = 16 + prg.length + chr.length := by
    rw [← image]
    simp [signature]
    omega
  have start : prgStart data = 16 := by
    have flags : byteAt data 6 = written.flags6.toNat := by rw [← image]; rfl
    simp [prgStart, flags, trainer]
  have size : prgSize data = prg.length := by rw [prgLength, ← image]; rfl
  have rest : chrSize data = chr.length := by rw [chrLength, ← image]; rfl
  have body : data.drop 16 = prg ++ chr := by rw [← image]; rfl
  rw [parse_eq_ok_iff, fault?_eq_none_iff, chrStart, start, size, rest]
  refine ⟨⟨by omega, ?_, ?_, ?_, by omega⟩, ?_⟩
  · rw [← image]
    exact ⟨_, rfl⟩
  · rw [← image]
    exact revision
  · rw [← image]
    exact chunks
  · rw [parts, start, size, rest, chrStart, start, size, ← List.drop_drop, body, List.take_left,
      List.drop_left, List.take_length]
    rw [← image]
    rfl

/-! ### Boards -/

/-- The flags of a board spell its number, its wiring and its battery, and are no mark of revision
2.0. -/
theorem forBoard_flags (prgChunks chrChunks mapperId : UInt8) {mirroring : Mirroring}
    (wired : mirroring ∈ [.horizontal, .vertical, .fourScreen]) (battery : Bool) :
    let board := Header.forBoard prgChunks chrChunks mapperId mirroring battery
    board.flags7.toNat / 4 % 4 ≠ 2 ∧ board.mapperId = mapperId ∧ board.mirroring = mirroring ∧
      board.battery = battery := by
  -- the sizes play no part, so they can be any numbers while all boards are tried
  have empty (mapperId : UInt8) :
      let board := Header.forBoard 0 0 mapperId mirroring battery
      board.flags7.toNat / 4 % 4 ≠ 2 ∧ board.mapperId = mapperId ∧ board.mirroring = mirroring ∧
        board.battery = battery := by
    revert mapperId
    cases mirroring <;> cases battery
    case singleLower.false | singleLower.true | singleUpper.false | singleUpper.true =>
      simp at wired
    all_goals
      refine byte_all _ ?_
      decide +kernel
  exact empty mapperId

theorem parse_forBoard (prgChunks chrChunks mapperId : UInt8) {mirroring : Mirroring}
    (wired : mirroring ∈ [.horizontal, .vertical, .fourScreen]) (battery : Bool) :
    Header.parse (Header.forBoard prgChunks chrChunks mapperId mirroring battery).toBytes =
      .ok (Header.forBoard prgChunks chrChunks mapperId mirroring battery) := by
  obtain ⟨revision, -⟩ := forBoard_flags prgChunks chrChunks mapperId wired battery
  have long : 16 ≤ (Header.forBoard prgChunks chrChunks mapperId mirroring
      battery).toBytes.length := Nat.le_refl 16
  rw [parse_header_long long, if_neg (not_not_intro ⟨_, rfl⟩)]
  exact if_neg revision

end RomImage

open RomImage

/-- The images and their parts. A byte string is read exactly if it is long enough for a header,
begins with the signature, is not of revision 2.0, promises some program, and holds everything that
its header promises; otherwise the first condition that fails is reported with the true counts. What
is read are the blocks at the promised places, and they are written as the image without trainer,
reserved bytes and tail. What is written of matching parts is read back, and so are the number,
the wiring and the battery of every board whose wiring a header can express. -/
theorem Rom.image_grammar :
    (∀ data, (∃ rom, Rom.parse data = .ok rom) ↔
      16 ≤ data.length ∧ signature <+: data ∧ revision data ≠ 2 ∧ 1 ≤ byteAt data 4 ∧
        prgStart data + prgSize data + chrSize data ≤ data.length) ∧
    (∀ data error, Rom.parse data = .error error ↔ fault? data = some error) ∧
    (∀ data rom, Rom.parse data = .ok rom →
      rom.prg = (data.drop (prgStart data)).take (prgSize data) ∧
        rom.chr = (data.drop (prgStart data + prgSize data)).take (chrSize data) ∧
        rom.toBytes = stripped data) ∧
    (∀ rom, Writable rom → Rom.parse rom.toBytes = .ok { rom with submapper := 0 }) ∧
    ∀ prgChunks chrChunks mapperId mirroring battery,
      mirroring ∈ [Mirroring.horizontal, .vertical, .fourScreen] →
        ∃ header, Header.parse
            (Header.forBoard prgChunks chrChunks mapperId mirroring battery).toBytes = .ok header ∧
          header.mapperId = mapperId ∧ header.mirroring = mirroring ∧
          header.battery = battery := by
  refine ⟨?_, fun _ _ => parse_eq_error_iff, ?_, fun _ writable => writable.parse_toBytes, ?_⟩
  · intro data
    rw [← chrStart, ← fault?_eq_none_iff]
    simp [parse_eq_ok_iff]
  · intro data rom success
    obtain ⟨sound, rfl⟩ := parse_eq_ok_iff.mp success
    exact ⟨rfl, rfl, toBytes_parts sound⟩
  · intro prgChunks chrChunks mapperId mirroring battery wired
    obtain ⟨-, spelled⟩ := forBoard_flags prgChunks chrChunks mapperId wired battery
    exact ⟨_, parse_forBoard prgChunks chrChunks mapperId wired battery, spelled⟩

/-- A program behind a trainer, with marks in the reserved bytes and a byte too many. -/
def RomImage.trained (trainer program : List UInt8) : List UInt8 :=
  signature ++ [1, 0, 0x16, 0] ++ List.replicate 8 0xFF ++ (trainer ++ (program ++ [0xAA]))

theorem RomImage.trained_layout (trainer program : List UInt8) :
    revision (trained trainer program) = 0 ∧ byteAt (trained trainer program) 4 = 1 ∧
      prgStart (trained trainer program) = 528 ∧ prgSize (trained trainer program) = 16384 ∧
      chrSize (trained trainer program) = 0 ∧
      (trained trainer program).length = 17 + trainer.length + program.length := by
  have start : prgStart (trained trainer program) = 528 := by
    change 16 + (if (0x16 : UInt8).toNat.testBit 2 then 512 else 0) = 528
    decide
  have first : revision (trained trainer program) = 0 := by
    change (0 : UInt8).toNat / 4 % 4 = 0
    decide
  refine ⟨first, rfl, start, rfl, rfl, ?_⟩
  simp only [trained, signature, List.length_append, List.length_replicate, List.length_cons,
    List.length_nil]
  omega

theorem Rom.image_grammar_trained :
    (∃ rom, Rom.parse (trained (List.replicate 512 0xEE) (List.replicate 16384 0x11)) = .ok rom ∧
      rom.prg = List.replicate 16384 0x11 ∧ rom.chr = [] ∧
      rom.toBytes = signature ++ [1, 0, 0x12, 0] ++ List.replicate 8 0 ++
        List.replicate 16384 0x11) ∧
    Rom.parse (trained [] []) = .error (.truncatedPrg 16384 0) ∧
    (∃ rom : Rom, rom.header = ⟨1, 0, 0x12, 0⟩ ∧ rom.prg = List.replicate 16384 0x11 ∧
      Rom.parse rom.toBytes = .ok rom) ∧
    ∃ header, Header.parse (Header.forBoard 2 1 0xF1 .fourScreen true).toBytes = .ok header ∧
      header.mapperId = 0xF1 ∧ header.mirroring = .fourScreen ∧ header.battery = true := by
  obtain ⟨accepted, refused, read, written, boards⟩ := Rom.image_grammar
  have skipped : (List.replicate 512 (0xEE : UInt8)).length = 512 := List.length_replicate
  have full : (List.replicate 16384 (0x11 : UInt8)).length = 16384 := List.length_replicate
  generalize List.replicate 512 (0xEE : UInt8) = trainer at skipped ⊢
  generalize List.replicate 16384 (0x11 : UInt8) = program at full ⊢
  obtain ⟨revision, chunks, start, size, rest, length⟩ := trained_layout trainer program
  have block : ((trained trainer program).drop 528).take 16384 = program := by
    change ((trainer ++ (program ++ [0xAA])).drop 512).take 16384 = program
    rw [List.drop_left' skipped, List.take_left' full]
  refine ⟨?_, by rw [refused]; rfl, ?_, boards 2 1 0xF1 .fourScreen true (by decide)⟩
  · have sound : ∃ rom, Rom.parse (trained trainer program) = .ok rom := by
      rw [accepted, revision, chunks, start, size, rest, length, skipped, full]
      exact ⟨by decide, ⟨_, rfl⟩, by decide, by decide, by decide⟩
    obtain ⟨rom, success⟩ := sound
    obtain ⟨prg, chr, bytes⟩ := read _ rom success
    rw [start, size, block] at prg
    rw [rest, List.take_zero] at chr
    have unmarked : (trained trainer program).getD 6 0 &&& ~~~0x04 = 0x12 :=
      (by decide : (0x16 : UInt8) &&& ~~~0x04 = 0x12)
    refine ⟨rom, success, prg, chr, ?_⟩
    rw [bytes, stripped, start, size, rest, block, unmarked]
    rfl
  · have writable : Writable { header := ⟨1, 0, 0x12, 0⟩, prg := program, chr := [] } :=
      { revision := (by decide : 0 / 4 % 4 ≠ 2)
        trainer := (by decide : (0x12 : UInt8).toNat.testBit 2 = false)
        chunks := Nat.le_refl 1
        prg := full
        chr := rfl }
    exact ⟨_, rfl, rfl, written _ writable⟩

end Nes
