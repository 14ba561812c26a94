import Nes.Proofs.Audio.Samples

/-!
What the sample channel reads and plays. The reader and the output unit meet in a buffer of one
byte: what is read and not yet played stands in the buffer and the shift register, so that no bit is
lost or played twice.
-/

namespace Nes.Dmc

/-! ### Bits -/

/-- The first bits of a byte, least significant first. -/
def lowBits (count : Nat) (byte : UInt8) : List Bool := (List.range count).map byte.toNat.testBit

theorem lowBits_succ (count : Nat) (byte : UInt8) :
    lowBits (count + 1) byte = (byte &&& 1 != 0) :: lowBits count (byte >>> 1) := by
  have lowest : byte.toNat.testBit 0 = (byte &&& 1 != 0) :=
    byte_all (fun byte => byte.toNat.testBit 0 = (byte &&& 1 != 0)) (by decide +kernel) byte
  have halved : (byte >>> 1).toNat = byte.toNat / 2 :=
    byte_all (fun byte => (byte >>> 1).toNat = byte.toNat / 2) (by decide +kernel) byte
  rw [lowBits, List.range_succ_eq_map, List.map_cons, List.map_map, lowest, lowBits, halved]
  congr 2
  funext index
  exact Nat.testBit_succ ..

theorem length_lowBits (count : Nat) (byte : UInt8) : (lowBits count byte).length = count := by
  rw [lowBits, List.length_map, List.length_range]

theorem length_flatMap_lowBits (bytes : List UInt8) :
    (bytes.flatMap (lowBits 8)).length = 8 * bytes.length := by
  induction bytes with
  | nil => rfl
  | cons byte rest ih =>
    rw [List.flatMap_cons, List.length_append, ih, length_lowBits, List.length_cons]
    omega

/-- The level after a bit: two up or down, unless that leaves seven bits. -/
def moved (level : Nat) (bit : Bool) : Nat :=
  if bit then if level + 2 ≤ 127 then level + 2 else level
  else if 2 ≤ level then level - 2 else level

/-- The bit that the output unit plays in this cycle, unless it waits or is silent. -/
def plays (dmc : Dmc) : Option Bool :=
  if dmc.timer == 0 && !dmc.silence then some (dmc.shiftRegister &&& 1 != 0) else none

/-- The bits that have been read and not been played, in the order in which they will be. -/
def pending (dmc : Dmc) : List Bool :=
  (if dmc.silence then [] else lowBits dmc.bitsRemaining.toNat dmc.shiftRegister) ++
    dmc.sampleBuffer.toList.flatMap (lowBits 8)

variable {dmc : Dmc}

theorem accept_pending (empty : dmc.sampleBuffer = none) (byte : UInt8) :
    (dmc.accept byte).pending = dmc.pending ++ lowBits 8 byte := by
  rw [accept_frame]
  simp [pending, empty]

/-- To refill the shift register once it is empty takes nothing from what is pending. -/
theorem refill_pending (dmc : Dmc) :
    dmc.refill.pending = dmc.sampleBuffer.toList.flatMap (lowBits 8) := by
  unfold refill
  split
  · rename_i byte full
    simp [pending, full]
  · rename_i empty
    simp [pending, empty]

theorem plays_waiting (running : 0 < dmc.timer) : dmc.plays = none := by
  have going : (dmc.timer == 0) = false := beq_false_of_ne fun stopped => by
    rw [stopped] at running
    exact absurd running (by decide)
  rw [plays, going]
  rfl

theorem plays_silent (silence : dmc.silence = true) : dmc.plays = none := by
  rw [plays, silence, Bool.not_true, Bool.and_false]
  rfl

/-- A bit leaves what is pending exactly when it is played. -/
theorem clockOutput_pending (bounded : dmc.Bounded) :
    dmc.pending = dmc.plays.toList ++ dmc.clockOutput.pending := by
  by_cases running : 0 < dmc.timer
  · rw [clockOutput, if_pos running, plays_waiting running]
    rfl
  have stopped : dmc.timer = 0 := by grind
  have front : (if dmc.silence then [] else lowBits dmc.bitsRemaining.toNat dmc.shiftRegister) =
      dmc.plays.toList ++ if dmc.silence then []
        else lowBits (dmc.bitsRemaining - 1).toNat (dmc.shiftRegister >>> 1) := by
    rw [plays, stopped, ← bounded.fewer_bits, lowBits_succ]
    cases dmc.silence <;> rfl
  rw [clockOutput, if_neg running, pending, front, List.append_assoc]
  congr 1
  simp only [shiftOut]
  by_cases last : dmc.bitsRemaining - 1 = 0
  · rw [if_pos (beq_iff_eq.mpr last), refill_pending, last]
    cases dmc.silence <;> rfl
  · rw [if_neg (mt beq_iff_eq.mp last)]
    rfl

theorem nextLevel_toNat (dmc : Dmc) (sounding : dmc.silence = false) :
    dmc.nextLevel.toNat = moved dmc.outputLevel.toNat (dmc.shiftRegister &&& 1 != 0) := by
  have all (bit : Bool) : (if bit then
        if dmc.outputLevel ≤ 125 then dmc.outputLevel + 2 else dmc.outputLevel
      else if 2 ≤ dmc.outputLevel then dmc.outputLevel - 2 else dmc.outputLevel).toNat =
        moved dmc.outputLevel.toNat bit := by
    generalize dmc.outputLevel = level
    revert level
    refine byte_all _ ?_
    cases bit <;> decide +kernel
  rw [nextLevel, sounding, ← all]
  rfl

/-- The level moves with each bit that is played and at no other time. -/
theorem clockOutput_level (dmc : Dmc) :
    dmc.clockOutput.outputLevel.toNat = dmc.plays.toList.foldl moved dmc.outputLevel.toNat := by
  by_cases running : 0 < dmc.timer
  · rw [clockOutput, if_pos running, plays_waiting running]
    rfl
  have stopped : dmc.timer = 0 := by grind
  have level : (shiftOut { dmc with timer := dmc.rate - 1 }).outputLevel = dmc.nextLevel := by
    simp only [shiftOut, refill]
    repeat' split
    all_goals rfl
  rw [clockOutput, if_neg running, level]
  cases silence : dmc.silence with
  | true =>
    rw [plays_silent silence, nextLevel, silence]
    rfl
  | false =>
    rw [plays, stopped, silence]
    exact dmc.nextLevel_toNat silence

/-! ### Recordings -/

/-- A channel with what it has read and played. -/
structure Recording where
  dmc : Dmc
  addresses : List UInt16 := []
  bytes : List UInt8 := []
  bits : List Bool := []

namespace Recording

/-- Goes on for a cycle with what the channel reads from memory and plays. -/
def step (memory : UInt16 → UInt8) (tape : Recording) : Recording :=
  let (read, dmc) := tape.dmc.step memory
  { dmc
    addresses := tape.addresses ++ read.toList
    bytes := tape.bytes ++ (read.map memory).toList
    bits := tape.bits ++ tape.dmc.plays.toList }

/-- The reader's part of a cycle. -/
def fill (memory : UInt16 → UInt8) (tape : Recording) : Recording :=
  if tape.dmc.wantsByte then
    { tape with
      dmc := tape.dmc.accept (memory tape.dmc.currentAddress)
      addresses := tape.addresses ++ [tape.dmc.currentAddress]
      bytes := tape.bytes ++ [memory tape.dmc.currentAddress] }
  else tape

/-- The output unit's part of a cycle. -/
def play (tape : Recording) : Recording :=
  { tape with dmc := tape.dmc.clockOutput, bits := tape.bits ++ tape.dmc.plays.toList }

theorem step_eq (memory : UInt16 → UInt8) (tape : Recording) :
    tape.step memory = (tape.fill memory).play := by
  have same (byte : UInt8) : (tape.dmc.accept byte).plays = tape.dmc.plays := by
    rw [accept_frame]
    rfl
  by_cases wanted : tape.dmc.wantsByte = true
  · simp only [step, fill, Dmc.step, play, if_pos wanted, same]
    rfl
  · simp only [step, fill, Dmc.step, play, if_neg wanted, Option.map_none, Option.toList_none,
      List.append_nil]

/-- What is kept of a sample: the bits of all bytes read are those played and those pending, and
the level is where the bits played have moved it. -/
structure Faithful (level : Nat) (tape : Recording) : Prop where
  bounded : tape.dmc.Bounded
  bytes : tape.bytes.length = tape.addresses.length
  bits : tape.bytes.flatMap (lowBits 8) = tape.bits ++ tape.dmc.pending
  level : tape.dmc.outputLevel.toNat = tape.bits.foldl moved level

variable {tape : Recording} {level : Nat} {memory : UInt16 → UInt8}

theorem Faithful.fill (faithful : tape.Faithful level) : (tape.fill memory).Faithful level := by
  obtain ⟨bounded, bytes, bits, level⟩ := faithful
  unfold Recording.fill
  split
  · rename_i wanted
    have empty : tape.dmc.sampleBuffer = none :=
      Option.isNone_iff_eq_none.mp (Bool.and_eq_true_iff.mp wanted).1
    refine ⟨bounded.accept _, ?_, ?_, ?_⟩
    · simp only [List.length_append, bytes, List.length_singleton]
    · rw [accept_pending empty, List.flatMap_append, bits, List.append_assoc]
      simp
    · rw [accept_frame]
      exact level
  · exact ⟨bounded, bytes, bits, level⟩

theorem Faithful.play (faithful : tape.Faithful level) : tape.play.Faithful level := by
  obtain ⟨bounded, bytes, bits, level⟩ := faithful
  refine ⟨bounded.clockOutput, bytes, ?_, ?_⟩
  · rw [Recording.play, bits, clockOutput_pending bounded, List.append_assoc]
  · rw [Recording.play, clockOutput_level, level, List.foldl_append]

end Recording

end Nes.Dmc
