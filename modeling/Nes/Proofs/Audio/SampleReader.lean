import Nes.Proofs.Audio.Recording

/-!
The reader of the sample channel. It follows the addresses of the sample from the first to the
last one, and then begins again or asks for the interrupt.
-/

namespace Nes.Dmc

/-! ### Samples -/

/-- What the registers say about a sample. -/
structure Sample where
  /-- Cycles for each bit. -/
  rate : Nat
  irqEnabled : Bool
  looping : Bool
  /-- The address of the first byte. -/
  start : Nat
  /-- The number of bytes. -/
  length : Nat
  rate_pos : 0 < rate
  start_le : start ≤ 0xFFC0
  length_pos : 0 < length
  length_le : length ≤ 0x0FF1

namespace Sample

def ofRegisters (control address length : UInt8) : Sample where
  rate := (rateOf control).toNat
  irqEnabled := control &&& 0x80 != 0
  looping := control &&& 0x40 != 0
  start := 0xC000 + 64 * address.toNat
  length := 16 * length.toNat + 1
  rate_pos :=
    byte_all (fun control => 0 < (rateOf control).toNat) (by decide +kernel) control
  start_le := by have := address.toNat_lt; omega
  length_pos := Nat.succ_pos _
  length_le := by have := length.toNat_lt; omega

/-- The address of a byte, counted from the first through all repetitions. Behind the last address
of memory the sample goes on in its upper half. -/
def place (sample : Sample) (index : Nat) : Nat :=
  let linear := sample.start + index % sample.length
  if linear < 0x10000 then linear else linear - 0x8000

/-- The bytes left to read of the present repetition once so many have been read. -/
def left (sample : Sample) (count : Nat) : Nat :=
  if sample.looping then sample.length - count % sample.length else sample.length - count

variable {sample : Sample} {count : Nat}

/-- Behind the last byte of a repetition the next one begins. -/
theorem next_mod (sample : Sample) (count : Nat) :
    (count + 1) % sample.length =
      if count % sample.length + 1 = sample.length then 0 else count % sample.length + 1 := by
  have inside := Nat.mod_lt count sample.length_pos
  rw [← Nat.mod_add_mod]
  split
  · rename_i last
    rw [last, Nat.mod_self]
  · exact Nat.mod_eq_of_lt (by omega)

/-- Each repetition begins at the sample's address. -/
theorem place_begin (whole : count % sample.length = 0) : sample.place count = sample.start := by
  have start := sample.start_le
  simp only [place, whole]
  exact if_pos (by omega)

theorem left_zero (sample : Sample) : sample.left 0 = sample.length := by
  simp [left]

/-- Before the last byte of a repetition one byte fewer is left. -/
theorem left_more (more : 1 < sample.left count) :
    sample.left (count + 1) + 1 = sample.left count ∧
      count % sample.length + 1 ≠ sample.length := by
  have inside := Nat.mod_lt count sample.length_pos
  unfold left at more ⊢
  cases looping : sample.looping with
  | true =>
    rw [looping, if_pos rfl] at more
    have more : count % sample.length + 1 ≠ sample.length := by omega
    simp only [if_true, next_mod, if_neg more]
    omega
  | false =>
    rw [looping, if_neg Bool.false_ne_true] at more
    have small : count % sample.length = count := Nat.mod_eq_of_lt (by omega)
    simp only [Bool.false_eq_true, if_false, small]
    omega

/-- The last byte of a repetition ends it. -/
theorem left_last (last : sample.left count = 1) :
    (count + 1) % sample.length = 0 ∧ (sample.looping = false → count + 1 = sample.length) := by
  have inside := Nat.mod_lt count sample.length_pos
  unfold left at last
  cases looping : sample.looping with
  | true =>
    rw [looping, if_pos rfl] at last
    rw [next_mod, if_pos (by omega)]
    exact ⟨rfl, nofun⟩
  | false =>
    rw [looping, if_neg Bool.false_ne_true] at last
    have all : count + 1 = sample.length := by omega
    rw [all, Nat.mod_self]
    exact ⟨rfl, fun _ => rfl⟩

/-- The address of a byte, from that of the byte before. -/
theorem nextAddress_place {address : UInt16} (here : address.toNat = sample.place count)
    (more : count % sample.length + 1 ≠ sample.length) :
    (nextAddress address).toNat = sample.place (count + 1) := by
  have inside := Nat.mod_lt count sample.length_pos
  have start := sample.start_le
  have length := sample.length_le
  have next : (nextAddress address).toNat =
      if address.toNat = 0xFFFF then 0x8000 else address.toNat + 1 := by
    unfold nextAddress
    by_cases last : address = 0xFFFF
    · rw [last]
      rfl
    · have last' : address.toNat ≠ 0xFFFF := fun same => last (UInt16.toNat_inj.mp same)
      have small := address.toNat_lt
      rw [if_neg (mt beq_iff_eq.mp last), if_neg last', UInt16.toNat_add]
      exact Nat.mod_eq_of_lt (by simp; omega)
  rw [next, here]
  simp only [place, next_mod, if_neg more]
  split <;> split <;> split <;> omega

end Sample

/-- Before the last byte the reader goes on to the next address. -/
theorem accept_more {dmc : Dmc} (more : dmc.bytesRemaining - 1 ≠ 0) (byte : UInt8) :
    dmc.accept byte =
      { dmc with
        sampleBuffer := some byte
        currentAddress := nextAddress dmc.currentAddress
        bytesRemaining := dmc.bytesRemaining - 1 } :=
  if_pos (bne_iff_ne.mpr more)

/-- With the last byte a repeated sample begins again. -/
theorem accept_restart {dmc : Dmc} (last : dmc.bytesRemaining - 1 = 0)
    (loops : dmc.looping = true) (byte : UInt8) :
    dmc.accept byte =
      { dmc with
        sampleBuffer := some byte
        currentAddress := dmc.sampleAddress
        bytesRemaining := dmc.sampleLength } := by
  simp only [accept, last, loops, bne_self_eq_false, Bool.false_eq_true, if_false, if_true]
  rfl

/-- The last byte of a sample that is not repeated asks for the interrupt. -/
theorem accept_last {dmc : Dmc} (last : dmc.bytesRemaining - 1 = 0)
    (single : dmc.looping = false) (byte : UInt8) :
    dmc.accept byte =
      { dmc with
        sampleBuffer := some byte
        currentAddress := nextAddress dmc.currentAddress
        bytesRemaining := 0
        irqPending := dmc.irqPending || dmc.irqEnabled } := by
  simp only [accept, last, single, bne_self_eq_false, Bool.false_eq_true, if_false]
  cases enabled : dmc.irqEnabled with
  | true => simp
  | false => simp

namespace Recording

variable {sample : Sample} {tape : Recording} {memory : UInt16 → UInt8}

/-- The reader follows the sample's addresses. -/
structure Reads (sample : Sample) (tape : Recording) : Prop where
  rate : tape.dmc.rate.toNat = sample.rate
  irqEnabled : tape.dmc.irqEnabled = sample.irqEnabled
  looping : tape.dmc.looping = sample.looping
  sampleAddress : tape.dmc.sampleAddress.toNat = sample.start
  sampleLength : tape.dmc.sampleLength.toNat = sample.length
  addresses : tape.addresses.map UInt16.toNat =
    (List.range tape.addresses.length).map sample.place
  count_le : sample.looping = false → tape.addresses.length ≤ sample.length
  bytesRemaining : tape.dmc.bytesRemaining.toNat = sample.left tape.addresses.length
  currentAddress : tape.dmc.active = true →
    tape.dmc.currentAddress.toNat = sample.place tape.addresses.length
  irqPending : tape.dmc.irqPending =
    (sample.irqEnabled && !sample.looping && tape.addresses.length == sample.length)

theorem Reads.play (reads : tape.Reads sample) : tape.play.Reads sample := by
  obtain ⟨rate, irqEnabled, looping, sampleAddress, sampleLength, addresses, count_le,
    bytesRemaining, currentAddress, irqPending⟩ := reads
  rw [Recording.play, clockOutput_frame]
  exact ⟨rate, irqEnabled, looping, sampleAddress, sampleLength, addresses, count_le,
    bytesRemaining, currentAddress, irqPending⟩

/-- Reads the next byte. -/
def take (memory : UInt16 → UInt8) (tape : Recording) : Recording :=
  { tape with
    dmc := tape.dmc.accept (memory tape.dmc.currentAddress)
    addresses := tape.addresses ++ [tape.dmc.currentAddress]
    bytes := tape.bytes ++ [memory tape.dmc.currentAddress] }

theorem length_take (memory : UInt16 → UInt8) (tape : Recording) :
    (tape.take memory).addresses.length = tape.addresses.length + 1 :=
  List.length_append

theorem Reads.take_addresses (reads : tape.Reads sample) (active : tape.dmc.active = true)
    (memory : UInt16 → UInt8) :
    (tape.take memory).addresses.map UInt16.toNat =
      (List.range (tape.take memory).addresses.length).map sample.place := by
  rw [length_take, List.range_succ, List.map_append, ← reads.addresses]
  simp only [take, List.map_append, List.map_cons, List.map_nil, reads.currentAddress active]

theorem Reads.left_pos (reads : tape.Reads sample) (active : tape.dmc.active = true) :
    0 < sample.left tape.addresses.length := by
  rw [← reads.bytesRemaining]
  exact UInt16.lt_iff_toNat_lt.mp (of_decide_eq_true active)

theorem Reads.fewer_bytes (reads : tape.Reads sample) (active : tape.dmc.active = true) :
    (tape.dmc.bytesRemaining - 1).toNat = sample.left tape.addresses.length - 1 := by
  have some : 1 ≤ tape.dmc.bytesRemaining := by
    rw [UInt16.le_iff_toNat_le, reads.bytesRemaining]
    exact reads.left_pos active
  rw [UInt16.toNat_sub_of_le _ _ some, reads.bytesRemaining]
  rfl

/-- The registers stay as they are when a byte is read. -/
theorem Reads.of_take (reads : tape.Reads sample) (active : tape.dmc.active = true)
    (count_le : sample.looping = false → tape.addresses.length + 1 ≤ sample.length)
    (bytesRemaining : (tape.take memory).dmc.bytesRemaining.toNat =
      sample.left (tape.addresses.length + 1))
    (currentAddress : (tape.take memory).dmc.active = true →
      (tape.take memory).dmc.currentAddress.toNat = sample.place (tape.addresses.length + 1))
    (irqPending : (tape.take memory).dmc.irqPending =
      (sample.irqEnabled && !sample.looping && tape.addresses.length + 1 == sample.length)) :
    (tape.take memory).Reads sample := by
  have addresses := reads.take_addresses active memory
  rw [← length_take memory] at count_le bytesRemaining currentAddress irqPending
  have kept : (tape.take memory).dmc = _ := accept_frame tape.dmc _
  refine ⟨?_, ?_, ?_, ?_, ?_, addresses, count_le, bytesRemaining, currentAddress, irqPending⟩
  all_goals rw [kept]
  · exact reads.rate
  · exact reads.irqEnabled
  · exact reads.looping
  · exact reads.sampleAddress
  · exact reads.sampleLength

/-- With the last byte a repeated sample begins again at its address. -/
theorem Reads.take_restart (reads : tape.Reads sample) (active : tape.dmc.active = true)
    (last : sample.left tape.addresses.length = 1) (loops : sample.looping = true) :
    (tape.take memory).Reads sample := by
  have whole := (sample.left_last last).1
  have done : tape.dmc.bytesRemaining - 1 = 0 := by
    rw [← UInt16.toNat_inj, reads.fewer_bytes active, last]
    rfl
  have dmc : (tape.take memory).dmc = _ := accept_restart done (reads.looping.trans loops) _
  refine reads.of_take active ?_ ?_ ?_ ?_
  · rw [loops]
    exact nofun
  · rw [dmc, Sample.left, loops, if_pos rfl, whole]
    exact reads.sampleLength
  · intro _
    rw [dmc, Sample.place_begin whole]
    exact reads.sampleAddress
  · simp only [dmc, reads.irqPending, loops, Bool.not_true, Bool.and_false, Bool.false_and]

/-- With the last byte of a sample that is not repeated all of it has been read. -/
theorem Reads.take_last (reads : tape.Reads sample) (active : tape.dmc.active = true)
    (last : sample.left tape.addresses.length = 1) (once : sample.looping = false) :
    (tape.take memory).Reads sample := by
  have all := (sample.left_last last).2 once
  have done : tape.dmc.bytesRemaining - 1 = 0 := by
    rw [← UInt16.toNat_inj, reads.fewer_bytes active, last]
    rfl
  have dmc : (tape.take memory).dmc = _ := accept_last done (reads.looping.trans once) _
  refine reads.of_take active (fun _ => Nat.le_of_eq all) ?_ ?_ ?_
  · rw [dmc, Sample.left, once, all]
    simp
  · rw [dmc]
    exact nofun
  · rw [dmc, all]
    cases enabled : sample.irqEnabled <;> simp [reads.irqPending, reads.irqEnabled, once, enabled]

/-- Before the last byte the reader goes on to the next place. -/
theorem Reads.take_more (reads : tape.Reads sample) (active : tape.dmc.active = true)
    (more : 1 < sample.left tape.addresses.length) : (tape.take memory).Reads sample := by
  obtain ⟨fewer, inside⟩ := sample.left_more more
  have goesOn : tape.dmc.bytesRemaining - 1 ≠ 0 := by
    rw [Ne, ← UInt16.toNat_inj, reads.fewer_bytes active]
    exact Nat.sub_ne_zero_of_lt more
  have unfinished (once : sample.looping = false) :
      tape.addresses.length + 1 < sample.length := by
    rw [Sample.left, once, if_neg Bool.false_ne_true] at more
    omega
  have dmc : (tape.take memory).dmc = _ := accept_more goesOn _
  refine reads.of_take active (fun once => Nat.le_of_lt (unfinished once)) ?_ ?_ ?_
  · rw [dmc]
    exact (reads.fewer_bytes active).trans (by omega)
  · intro _
    rw [dmc]
    exact Sample.nextAddress_place (reads.currentAddress active) inside
  · rw [dmc]
    cases loops : sample.looping with
    | true => simp [reads.irqPending, loops]
    | false =>
      have before := unfinished loops
      have now : (tape.addresses.length == sample.length) = false :=
        beq_false_of_ne (by omega)
      have next : (tape.addresses.length + 1 == sample.length) = false :=
        beq_false_of_ne (by omega)
      rw [reads.irqPending, now, next, Bool.and_false, Bool.and_false]

theorem Reads.fill (reads : tape.Reads sample) : (tape.fill memory).Reads sample := by
  unfold Recording.fill
  split
  · rename_i wanted
    have active := (Bool.and_eq_true_iff.mp wanted).2
    by_cases last : sample.left tape.addresses.length = 1
    · cases loops : sample.looping with
      | true => exact reads.take_restart active last loops
      | false => exact reads.take_last active last loops
    · exact reads.take_more active (Nat.lt_of_le_of_ne (reads.left_pos active) (Ne.symm last))
  · exact reads

end Recording

end Nes.Dmc
