import Nes.Proofs.Audio.SampleReader

/-!
Playback of a sample from its start. Counted in cycles, the buffer is never empty when the next
byte is due, so that the bits of a sample follow each other without a gap.
-/

namespace Nes.Dmc

/-! ### Time -/

/-- A bit is played where the output unit does not wait and is not silent. -/
theorem plays_isSome (dmc : Dmc) :
    dmc.plays.isSome = (dmc.timer.toNat == 0 && !dmc.silence) := by
  have stopped : (dmc.timer == 0) = (dmc.timer.toNat == 0) := by
    rw [Bool.eq_iff_iff, beq_iff_eq, beq_iff_eq, ← UInt16.toNat_inj]
    rfl
  rw [plays, stopped]
  split
  · rename_i sounding
    exact sounding.symm
  · rename_i still
    exact (Bool.eq_false_iff.mpr still).symm

namespace Sample

/-- What there is of so many bytes or bits of the sample, with `each` of them in a byte. -/
def cap (sample : Sample) (each count : Nat) : Nat :=
  if sample.looping then count else min (each * sample.length) count

/-- How many bytes have been asked for after so many cycles, if the first one is taken from the
buffer in the cycle `first`: the first byte is read at once, the second one when the first one has
been taken, and each further one eight bits later. -/
def due (sample : Sample) (first count : Nat) : Nat :=
  if count = 0 then 0
  else if count ≤ first + 1 then 1
  else 2 + (count - (first + 2)) / (8 * sample.rate)

variable {sample : Sample} {count : Nat}

theorem cap_le (sample : Sample) (each count : Nat) : sample.cap each count ≤ count := by
  unfold cap
  split
  · exact Nat.le_refl count
  · exact Nat.min_le_right ..

theorem cap_of_le {each : Nat} (inside : count ≤ each * sample.length) :
    sample.cap each count = count := by
  unfold cap
  split
  · rfl
  · exact Nat.min_eq_right inside

theorem cap_lt {each : Nat} (fewer : sample.cap each count < count) :
    sample.looping = false ∧ sample.cap each count = each * sample.length := by
  unfold cap at fewer ⊢
  cases looping : sample.looping with
  | true => simp [looping] at fewer
  | false =>
    simp only [looping, Bool.false_eq_true, if_false] at fewer ⊢
    exact ⟨trivial, by omega⟩

/-- A reader that has a byte to fetch fetches the one behind the byte that is played. -/
theorem cap_ahead {ready byte : Nat} (near : ready = byte + 1 ∨ ready = byte + 2)
    (empty : sample.cap 1 ready ≤ byte + 1)
    (more : sample.looping = true ∨ sample.cap 1 ready < sample.length) :
    sample.cap 1 ready + 1 = sample.cap 1 (byte + 2) ∧ byte < sample.cap 1 ready := by
  unfold cap at *
  cases looping : sample.looping with
  | true =>
    simp only [looping, if_true] at *
    omega
  | false =>
    simp only [looping, Bool.false_eq_true, if_false, false_or] at *
    omega

/-- A reader that has nothing to fetch has that byte, or all of them. -/
theorem cap_full {ready byte : Nat} (near : ready = byte + 1 ∨ ready = byte + 2)
    (full : byte + 1 < sample.cap 1 ready ∨
      sample.looping = false ∧ sample.length ≤ sample.cap 1 ready) :
    sample.cap 1 ready = sample.cap 1 (byte + 2) := by
  unfold cap at *
  cases looping : sample.looping with
  | true =>
    simp only [looping, if_true, reduceCtorEq, false_and, or_false] at *
    omega
  | false =>
    simp only [looping, Bool.false_eq_true, if_false, true_and] at *
    omega

/-- A bit more has been played as long as the byte that it belongs to is one of the sample's. -/
theorem cap_succ (sample : Sample) {byte bit : Nat} (inside : bit < 8) :
    sample.cap 8 (8 * byte + bit + 1) =
      sample.cap 8 (8 * byte + bit) + (!decide (sample.cap 1 (byte + 2) ≤ byte)).toNat := by
  unfold cap
  cases sample.looping with
  | true =>
    simp only [if_true]
    rw [decide_eq_false (by omega)]
    rfl
  | false =>
    simp only [Bool.false_eq_true, if_false]
    by_cases within : byte < sample.length
    · rw [decide_eq_false (by omega)]
      simp only [Bool.not_false, Bool.toNat_true]
      omega
    · rw [decide_eq_true (by omega)]
      simp only [Bool.not_true, Bool.toNat_false]
      omega

theorem due_waiting {first : Nat} (early : count ≤ first + 1) :
    sample.due first count = min count 1 := by
  rw [due, if_pos early]
  split <;> omega

/-- The bytes asked for, by the byte and the bit that are played and the cycles since the last one. -/
theorem due_playing {first byte bit cycle : Nat} (inside : bit < 8) (early : cycle < sample.rate) :
    sample.due first (first + 1 + ((8 * byte + bit) * sample.rate + cycle)) =
      if bit = 0 ∧ cycle = 0 then byte + 1 else byte + 2 := by
  have part : bit * sample.rate ≤ 7 * sample.rate := Nat.mul_le_mul_right _ (by omega)
  have whole : (8 * byte + bit) * sample.rate = byte * (8 * sample.rate) + bit * sample.rate := by
    rw [Nat.add_mul, Nat.mul_comm 8 byte, Nat.mul_assoc]
  have next (byte : Nat) :
      (byte + 1) * (8 * sample.rate) = byte * (8 * sample.rate) + 8 * sample.rate :=
    Nat.succ_mul ..
  rw [due, if_neg (by omega), whole]
  by_cases fresh : bit = 0 ∧ cycle = 0
  · obtain ⟨rfl, rfl⟩ := fresh
    simp only [Nat.zero_mul, Nat.add_zero, and_self, if_true]
    cases byte with
    | zero => rw [Nat.zero_mul, if_pos (Nat.le_refl _)]
    | succ byte =>
      have turns : (first + 1 + (byte + 1) * (8 * sample.rate) - (first + 2)) /
          (8 * sample.rate) = byte :=
        Nat.div_eq_of_lt_le (by rw [next]; omega) (by rw [next]; omega)
      rw [if_neg (by rw [next]; omega), turns]
      omega
  · have begun : 0 < bit * sample.rate + cycle := by
      rcases Nat.eq_zero_or_pos bit with rfl | some
      · omega
      · have := Nat.mul_pos some sample.rate_pos
        omega
    have turns : (first + 1 + (byte * (8 * sample.rate) + bit * sample.rate + cycle) -
        (first + 2)) / (8 * sample.rate) = byte :=
      Nat.div_eq_of_lt_le (by omega) (by rw [next]; omega)
    rw [if_neg fresh, if_neg (by omega), turns]
    omega

end Sample

namespace Recording

/-- Before the first byte is taken from the buffer. -/
structure Waits (count left : Nat) (tape : Recording) : Prop where
  silence : tape.dmc.silence = true
  wait : tape.dmc.wait = left
  addresses : tape.addresses.length = count
  sampleBuffer : tape.dmc.sampleBuffer.isSome = decide (0 < count)
  bits : tape.bits = []

/-- While bytes are taken from the buffer: so many bytes are played, so many bits of the next one,
and so many cycles have passed since the last of these. -/
structure Phase (sample : Sample) (count byte bit cycle : Nat) (tape : Recording) : Prop where
  timer : tape.dmc.timer.toNat + cycle + 1 = sample.rate
  bitsRemaining : tape.dmc.bitsRemaining.toNat + bit = 8
  silence : tape.dmc.silence = decide (count ≤ byte)
  addresses : tape.addresses.length = count
  sampleBuffer : tape.dmc.sampleBuffer.isSome = decide (byte + 1 < count)
  bits : tape.bits.length = sample.cap 8 (8 * byte + bit)

variable {sample : Sample} {tape : Recording} {memory : UInt16 → UInt8}
  {level count left byte bit cycle : Nat}

/-- What the reader can do in a cycle: it fills the empty buffer, or there is nothing to do. -/
inductive Filling (sample : Sample) (tape next : Recording) : Prop where
  | take (empty : tape.dmc.sampleBuffer.isSome = false)
    (more : sample.looping = true ∨ tape.addresses.length < sample.length)
    (timer : next.dmc.timer = tape.dmc.timer)
    (bitsRemaining : next.dmc.bitsRemaining = tape.dmc.bitsRemaining)
    (rate : next.dmc.rate = tape.dmc.rate) (silence : next.dmc.silence = tape.dmc.silence)
    (sampleBuffer : next.dmc.sampleBuffer.isSome = true)
    (addresses : next.addresses.length = tape.addresses.length + 1)
    (bits : next.bits = tape.bits)
  | leave (same : next = tape) (full : tape.dmc.sampleBuffer.isSome = true ∨
      sample.looping = false ∧ sample.length ≤ tape.addresses.length)

theorem Reads.active_iff (reads : tape.Reads sample) :
    tape.dmc.active = true ↔
      sample.looping = true ∨ tape.addresses.length < sample.length := by
  have inside := Nat.mod_lt tape.addresses.length sample.length_pos
  have left := reads.bytesRemaining
  rw [active, decide_eq_true_iff, UInt16.lt_iff_toNat_lt, left, Sample.left]
  cases sample.looping with
  | true => simpa using Nat.sub_pos_of_lt inside
  | false =>
    simp only [Bool.false_eq_true, if_false, false_or]
    exact Nat.sub_pos_iff_lt

theorem Reads.filling (reads : tape.Reads sample) (memory : UInt16 → UInt8) :
    tape.Filling sample (tape.fill memory) := by
  unfold Recording.fill
  split
  · rename_i wanted
    obtain ⟨empty, active⟩ := Bool.and_eq_true_iff.mp wanted
    rw [accept_frame]
    exact .take (by simpa using empty) (reads.active_iff.mp active) rfl rfl rfl rfl rfl
      List.length_append rfl
  · rename_i unwanted
    refine .leave rfl ?_
    cases full : tape.dmc.sampleBuffer with
    | some byte => exact .inl rfl
    | none =>
      have ended : ¬ tape.dmc.active = true := fun active =>
        unwanted (Bool.and_eq_true_iff.mpr ⟨by rw [full]; rfl, active⟩)
      rw [reads.active_iff, not_or, Bool.not_eq_true, Nat.not_lt] at ended
      exact .inr ended

theorem Waits.fill (waits : tape.Waits count left) (first : count ≤ 1)
    (reads : tape.Reads sample) : (tape.fill memory).Waits 1 left := by
  obtain ⟨silence, wait, addresses, sampleBuffer, bits⟩ := waits
  cases reads.filling memory with
  | take empty more timer bitsRemaining rate same full read kept =>
    have none : count = 0 := by simpa [sampleBuffer] using empty
    refine ⟨same.trans silence, ?_, by omega, full, kept.trans bits⟩
    rw [← wait, Dmc.wait, Dmc.wait, timer, bitsRemaining, rate]
  | leave same full =>
    have one : count = 1 := by
      have length := sample.length_pos
      rw [sampleBuffer, decide_eq_true_iff] at full
      omega
    rw [same]
    exact ⟨silence, wait, addresses.trans one, by rw [sampleBuffer, one], bits⟩

theorem Waits.play (waits : tape.Waits 1 (left + 1)) (faithful : tape.Faithful level) :
    tape.play.Waits 1 left := by
  obtain ⟨silence, wait, addresses, sampleBuffer, bits⟩ := waits
  have rate : tape.dmc.clockOutput.rate = tape.dmc.rate := by rw [clockOutput_frame]
  have quiet : tape.play.bits = [] := by
    rw [Recording.play, bits, plays_silent silence]
    rfl
  cases clockOutput_turn faithful.bounded with
  | wait timer bitsRemaining same buffer =>
    refine ⟨same.trans silence, ?_, addresses, buffer ▸ sampleBuffer, quiet⟩
    simp only [Dmc.wait, Recording.play, bitsRemaining, rate] at wait ⊢
    omega
  | shift stopped timer bitsRemaining more same buffer =>
    refine ⟨same.trans silence, ?_, addresses, buffer ▸ sampleBuffer, quiet⟩
    obtain ⟨bits, further⟩ := Nat.exists_eq_add_one_of_ne_zero (Nat.ne_of_gt more)
    simp only [Dmc.wait, Recording.play, ← bitsRemaining, rate, further, Nat.add_sub_cancel,
      Nat.succ_mul] at wait ⊢
    omega
  | refill stopped _ last =>
    simp only [Dmc.wait, stopped, last] at wait
    omega

/-- The cycle that takes the first byte from the buffer. -/
theorem Waits.begin (waits : tape.Waits 1 0) (faithful : tape.Faithful level)
    (reads : tape.Reads sample) : tape.play.Phase sample 1 0 0 0 := by
  obtain ⟨silence, wait, addresses, sampleBuffer, bits⟩ := waits
  have quiet : tape.play.bits = [] := by
    rw [Recording.play, bits, plays_silent silence]
    rfl
  have rate := reads.rate
  have slow := sample.rate_pos
  have none : sample.cap 8 0 = 0 := Sample.cap_of_le (Nat.zero_le _)
  cases clockOutput_turn faithful.bounded with
  | wait timer => simp only [Dmc.wait] at wait; omega
  | shift stopped timer bitsRemaining more =>
    obtain ⟨bits, further⟩ := Nat.exists_eq_add_one_of_ne_zero (Nat.ne_of_gt more)
    simp only [Dmc.wait, ← bitsRemaining, further, Nat.add_sub_cancel, Nat.succ_mul] at wait
    omega
  | refill stopped timer last bitsRemaining same buffer =>
    refine ⟨timer.trans rate, bitsRemaining, ?_, addresses, ?_, ?_⟩
    · exact same.trans (by simpa using sampleBuffer)
    · exact (congrArg Option.isSome buffer).trans rfl
    · rw [quiet, none]
      rfl

/-- The reader keeps one byte ahead of the one that is played, as far as there are bytes. -/
theorem Phase.fill {ready : Nat} (near : ready = byte + 1 ∨ ready = byte + 2)
    (phase : tape.Phase sample (sample.cap 1 ready) byte bit cycle) (reads : tape.Reads sample) :
    (tape.fill memory).Phase sample (sample.cap 1 (byte + 2)) byte bit cycle := by
  cases reads.filling memory with
  | take empty more timed remaining rate same full read kept =>
    obtain ⟨timer, bitsRemaining, silence, addresses, sampleBuffer, bits⟩ := phase
    rw [sampleBuffer, decide_eq_false_iff_not, Nat.not_lt] at empty
    rw [addresses] at more
    obtain ⟨ahead, begun⟩ := Sample.cap_ahead near empty more
    refine ⟨timed ▸ timer, remaining ▸ bitsRemaining, ?_, by omega, ?_, kept ▸ bits⟩
    · rw [same, silence]
      exact decide_eq_decide.mpr (by omega)
    · rw [full]
      exact (decide_eq_true (by omega)).symm
  | leave same full =>
    rw [phase.sampleBuffer, decide_eq_true_iff, phase.addresses] at full
    rw [same, ← Sample.cap_full near full]
    exact phase

theorem play_length (tape : Recording) :
    tape.play.bits.length = tape.bits.length + tape.dmc.plays.isSome.toNat := by
  rw [Recording.play, List.length_append]
  cases tape.dmc.plays <;> rfl

/-- A cycle of the output unit goes on with the bit, the byte or the sample. -/
theorem Phase.play (phase : tape.Phase sample (sample.cap 1 (byte + 2)) byte bit cycle)
    (faithful : tape.Faithful level) (reads : tape.Reads sample) (inside : bit < 8) :
    (cycle + 1 < sample.rate ∧
      tape.play.Phase sample (sample.cap 1 (byte + 2)) byte bit (cycle + 1)) ∨
    (cycle + 1 = sample.rate ∧ bit + 1 < 8 ∧
      tape.play.Phase sample (sample.cap 1 (byte + 2)) byte (bit + 1) 0) ∨
    (cycle + 1 = sample.rate ∧ bit + 1 = 8 ∧
      tape.play.Phase sample (sample.cap 1 (byte + 2)) (byte + 1) 0 0) := by
  obtain ⟨timer, bitsRemaining, silence, addresses, sampleBuffer, bits⟩ := phase
  have rate := reads.rate
  have length := tape.play_length
  rw [plays_isSome, silence, bits] at length
  cases clockOutput_turn faithful.bounded with
  | wait timed remaining same buffer =>
    have waiting : (tape.dmc.timer.toNat == 0) = false := beq_false_of_ne (by omega)
    refine .inl ⟨by omega, ⟨?_, remaining ▸ bitsRemaining, same.trans silence, addresses,
      buffer ▸ sampleBuffer, ?_⟩⟩
    · show tape.dmc.clockOutput.timer.toNat + _ + 1 = _
      omega
    · rw [length, waiting]
      rfl
  | shift stopped timed remaining more same buffer =>
    refine .inr (.inl ⟨by omega, by omega, ⟨timed.trans rate, ?_, same.trans silence, addresses,
      buffer ▸ sampleBuffer, ?_⟩⟩)
    · show tape.dmc.clockOutput.bitsRemaining.toNat + _ = _
      omega
    · rw [length, stopped]
      exact (sample.cap_succ inside).symm
  | refill stopped timed last remaining same buffer =>
    have next := sample.cap_le 1 (byte + 2)
    refine .inr (.inr ⟨by omega, by omega, ⟨timed.trans rate, remaining, ?_, addresses, ?_, ?_⟩⟩)
    · rw [show tape.play.dmc.silence = _ from same, ← Option.not_isSome, sampleBuffer,
        ← decide_not]
      exact decide_eq_decide.mpr Nat.not_lt
    · refine (congrArg Option.isSome buffer).trans ?_
      exact (decide_eq_false (by omega)).symm
    · rw [length, stopped]
      refine (sample.cap_succ inside).symm.trans ?_
      exact congrArg (sample.cap 8) (by omega)

end Recording

/-! ### Runs -/

/-- The recording of so many cycles, with the memory that the channel finds in each of them. -/
def record (memory : Nat → UInt16 → UInt8) (start : Dmc) : Nat → Recording
  | 0 => { dmc := start }
  | count + 1 => (record memory start count).step (memory count)

/-- From memory that stays the same, the bytes are what stands at the addresses. -/
theorem record_bytes {memory : Nat → UInt16 → UInt8} {contents : UInt16 → UInt8}
    (constant : ∀ cycle, memory cycle = contents) (start : Dmc) (count : Nat) :
    (record memory start count).bytes = (record memory start count).addresses.map contents := by
  induction count with
  | zero => rfl
  | succ count ih =>
    rw [record, Recording.step_eq, constant]
    simp only [Recording.play, Recording.fill]
    split
    · rw [List.map_append, ih]
      rfl
    · exact ih

/-- A channel that has just been told to play a sample and has nothing left to play. -/
structure Ready (sample : Sample) (start : Dmc) : Prop where
  bounded : start.Bounded
  reads : Recording.Reads sample { dmc := start }
  sampleBuffer : start.sampleBuffer = none
  silence : start.silence = true

section record

variable {sample : Sample} {start : Dmc} (memory : Nat → UInt16 → UInt8)

theorem Ready.record_reads (ready : start.Ready sample) (count : Nat) :
    (record memory start count).Reads sample := by
  induction count with
  | zero => exact ready.reads
  | succ count ih =>
    rw [record, Recording.step_eq]
    exact ih.fill.play

theorem Ready.record_faithful (ready : start.Ready sample) (count : Nat) :
    (record memory start count).Faithful start.outputLevel.toNat := by
  induction count with
  | zero =>
    refine ⟨ready.bounded, rfl, ?_, rfl⟩
    simp [record, pending, ready.silence, ready.sampleBuffer]
  | succ count ih =>
    rw [record, Recording.step_eq]
    exact ih.fill.play

/-- Until the output unit asks for the first byte, the reader has it ready from the first cycle. -/
theorem Ready.record_waits (ready : start.Ready sample) {count : Nat} (early : count ≤ start.wait) :
    (record memory start count).Waits (min count 1) (start.wait - count) := by
  induction count with
  | zero =>
    refine ⟨ready.silence, rfl, rfl, ?_, rfl⟩
    simp [record, ready.sampleBuffer]
  | succ count ih =>
    have filled : ((record memory start count).fill (memory count)).Waits 1
        (start.wait - (count + 1) + 1) := by
      rw [show start.wait - (count + 1) + 1 = start.wait - count by omega]
      exact (ih (by omega)).fill (Nat.min_le_right ..) (ready.record_reads memory count)
    rw [record, Recording.step_eq, Nat.min_eq_right (by omega)]
    exact filled.play (ready.record_faithful memory count).fill

/-- From the cycle that takes the first byte, bits follow each other at the sample's rate. -/
theorem Ready.record_phase (ready : start.Ready sample) (since : Nat) :
    ∃ byte bit cycle, bit < 8 ∧ cycle < sample.rate ∧
      since = (8 * byte + bit) * sample.rate + cycle ∧
      (record memory start (start.wait + 1 + since)).Phase sample
        (sample.cap 1 (if bit = 0 ∧ cycle = 0 then byte + 1 else byte + 2)) byte bit cycle := by
  induction since with
  | zero =>
    refine ⟨0, 0, 0, by decide, sample.rate_pos, by simp, ?_⟩
    have filled : ((record memory start start.wait).fill (memory start.wait)).Waits 1 0 := by
      have waits := ready.record_waits memory (Nat.le_refl start.wait)
      rw [Nat.sub_self] at waits
      exact waits.fill (Nat.min_le_right ..) (ready.record_reads memory _)
    have one : sample.cap 1 1 = 1 :=
      Sample.cap_of_le (Nat.mul_pos Nat.one_pos sample.length_pos)
    rw [Nat.add_zero, record, Recording.step_eq, if_pos ⟨rfl, rfl⟩, one]
    exact filled.begin (ready.record_faithful memory _).fill (ready.record_reads memory _).fill
  | succ since ih =>
    obtain ⟨byte, bit, cycle, inside, early, total, phase⟩ := ih
    have filled : ((record memory start (start.wait + 1 + since)).fill
        (memory (start.wait + 1 + since))).Phase sample (sample.cap 1 (byte + 2)) byte bit cycle :=
      phase.fill (by split <;> simp) (ready.record_reads memory _)
    have played := filled.play (ready.record_faithful memory _).fill
      (ready.record_reads memory _).fill inside
    rw [← Recording.step_eq] at played
    rcases played with ⟨more, played⟩ | ⟨last, more, played⟩ | ⟨last, done, played⟩
    · refine ⟨byte, bit, cycle + 1, inside, more, by omega, ?_⟩
      rw [if_neg (by simp)]
      exact played
    · refine ⟨byte, bit + 1, 0, more, sample.rate_pos, ?_, ?_⟩
      · rw [← Nat.add_assoc, Nat.succ_mul]
        omega
      · rw [if_neg (by simp)]
        exact played
    · refine ⟨byte + 1, 0, 0, by decide, sample.rate_pos, ?_, ?_⟩
      · rw [show 8 * (byte + 1) + 0 = 8 * byte + bit + 1 by omega, Nat.succ_mul]
        omega
      · rw [if_pos ⟨rfl, rfl⟩]
        exact played

/-- How many bytes have been read and how many bits have been played is a matter of time alone. -/
theorem Ready.record_length (ready : start.Ready sample) (count : Nat) :
    (record memory start count).addresses.length = sample.cap 1 (sample.due start.wait count) ∧
      (record memory start count).bits.length =
        sample.cap 8 ((count - (start.wait + 1)) / sample.rate) := by
  have none : sample.cap 8 0 = 0 := Sample.cap_of_le (Nat.zero_le _)
  rcases Nat.lt_or_ge start.wait count with late | early
  · obtain ⟨since, rfl⟩ := Nat.exists_eq_add_of_lt late
    rw [show start.wait + since + 1 = start.wait + 1 + since by omega, Nat.add_sub_cancel_left]
    obtain ⟨byte, bit, cycle, inside, early, total, phase⟩ := ready.record_phase memory since
    have played : since / sample.rate = 8 * byte + bit :=
      Nat.div_eq_of_lt_le (by omega) (by rw [Nat.succ_mul]; omega)
    rw [played, total, Sample.due_playing inside early, ← total]
    exact ⟨phase.addresses, phase.bits⟩
  · have waits := ready.record_waits memory early
    have quiet : count - (start.wait + 1) = 0 := by omega
    have length := sample.length_pos
    rw [waits.addresses, waits.bits, Sample.due_waiting (Nat.le_succ_of_le early),
      Sample.cap_of_le (by omega), quiet, Nat.zero_div, none]
    exact ⟨rfl, rfl⟩

/-- The bits played are those of the bytes read, one after the other as time goes on. -/
theorem Ready.record_bits (ready : start.Ready sample) (count : Nat) :
    let tape := record memory start count
    tape.bits =
      (tape.bytes.flatMap (lowBits 8)).take ((count - (start.wait + 1)) / sample.rate) := by
  intro tape
  obtain ⟨-, bytes, bits, -⟩ := ready.record_faithful memory count
  obtain ⟨-, -, -, -, -, -, count_le, -, -, -⟩ := ready.record_reads memory count
  obtain ⟨-, played⟩ := ready.record_length memory count
  generalize (count - (start.wait + 1)) / sample.rate = time at played ⊢
  have split : tape.bytes.flatMap (lowBits 8) = tape.bits ++ tape.dmc.pending := bits
  have within : tape.bits.length ≤ time := played ▸ sample.cap_le 8 time
  rcases Nat.eq_or_lt_of_le within with all | fewer
  · rw [split, ← all, List.take_left]
  · have length : tape.bits.length = sample.cap 8 time := played
    obtain ⟨once, all⟩ := Sample.cap_lt (length ▸ fewer)
    have read : tape.bytes.length ≤ sample.length := bytes ▸ count_le once
    have lengths := congrArg List.length split
    rw [length_flatMap_lowBits, List.length_append] at lengths
    have nothing : tape.dmc.pending = [] := List.length_eq_zero_iff.mp (by omega)
    rw [split, nothing, List.append_nil, List.take_of_length_le within]

end record

/-- The channel once its registers are written and it is switched on. -/
def started (dmc : Dmc) (control address length : UInt8) : Dmc :=
  (((dmc.write 0x4010 control).write 0x4012 address).write 0x4013 length).setEnabled true

theorem started_eq {dmc : Dmc} (ended : dmc.bytesRemaining = 0) (control address length : UInt8) :
    dmc.started control address length =
      { dmc with
        irqEnabled := control &&& 0x80 != 0
        irqPending := false
        looping := control &&& 0x40 != 0
        rate := rateOf control
        sampleAddress := (address.toUInt16 <<< 6) ||| 0xC000
        sampleLength := (length.toUInt16 <<< 4) ||| 1
        currentAddress := (address.toUInt16 <<< 6) ||| 0xC000
        bytesRemaining := (length.toUInt16 <<< 4) ||| 1 } := by
  have idle : (dmc.bytesRemaining == 0) = true := beq_iff_eq.mpr ended
  exact if_pos idle

theorem started_ready {dmc : Dmc} (bounded : dmc.Bounded) (ended : dmc.bytesRemaining = 0)
    (empty : dmc.sampleBuffer = none) (silence : dmc.silence = true)
    (control address length : UInt8) :
    (dmc.started control address length).Ready (Sample.ofRegisters control address length) := by
  have place : ((address.toUInt16 <<< 6) ||| 0xC000).toNat = 0xC000 + 64 * address.toNat :=
    byte_all (fun address =>
      ((address.toUInt16 <<< 6) ||| 0xC000).toNat = 0xC000 + 64 * address.toNat)
      (by decide +kernel) address
  have bytes : ((length.toUInt16 <<< 4) ||| 1).toNat = 16 * length.toNat + 1 :=
    byte_all (fun length => ((length.toUInt16 <<< 4) ||| 1).toNat = 16 * length.toNat + 1)
      (by decide +kernel) length
  have written : (dmc.started control address length).Bounded :=
    (((bounded.write _ _).write _ _).write _ _).setEnabled _
  refine ⟨written, ?_, ?_, ?_⟩
  · rw [started_eq ended]
    refine ⟨rfl, rfl, rfl, place, bytes, rfl, fun _ => Nat.zero_le _, ?_, fun _ => ?_, ?_⟩
    · exact bytes.trans (Sample.ofRegisters control address length).left_zero.symm
    · exact place.trans
        (@Sample.place_begin (Sample.ofRegisters control address length) 0 (Nat.zero_mod _)).symm
    · simp [Sample.ofRegisters]
  · rw [started_eq ended]
    exact empty
  · rw [started_eq ended]
    exact silence

end Nes.Dmc
