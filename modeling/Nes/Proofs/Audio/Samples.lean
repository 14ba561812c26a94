import Nes.Proofs.Audio.Bounds

/-!
How often the sample channel can read a byte. The buffer is emptied once for each byte shifted out,
and a byte lasts eight bits of at least 54 cycles. After the at most two reads that a state has
saved up, reads are therefore 432 cycles apart; the saved part is kept as credit.
-/

namespace Nes.Dmc

/-- The least number of cycles between two reads in the long run: eight bits at the fastest rate. -/
def spacing : Nat := 432

/-- Cycles that pass before the one in which the shift register asks for the next byte. -/
def wait (dmc : Dmc) : Nat :=
  dmc.timer.toNat + (dmc.bitsRemaining.toNat - 1) * dmc.rate.toNat

/-- Cycles that count toward further reads already: a whole read while the buffer is empty, and the
part of the present byte that has been shifted out. -/
def credit (dmc : Dmc) : Nat :=
  (if dmc.sampleBuffer.isNone then spacing else 0) + (spacing - 1 - dmc.wait)

variable {dmc : Dmc}

theorem credit_le (dmc : Dmc) : dmc.credit ≤ 863 := by
  unfold credit spacing
  split <;> omega

theorem Bounded.rate_le (bounded : dmc.Bounded) : 54 ≤ dmc.rate.toNat ∧ dmc.rate.toNat ≤ 428 := by
  have all : ∀ i : Fin 16, 54 ≤ rateTable[i].toNat ∧ rateTable[i].toNat ≤ 428 := by decide
  obtain ⟨index, inside, found⟩ := Vector.getElem_of_mem bounded.rate
  rw [← found]
  exact all ⟨index, inside⟩

/-! ### Parts of a cycle -/

/-- A read reaches the buffer and leaves the output unit alone. -/
theorem accept_frame (dmc : Dmc) (byte : UInt8) :
    dmc.accept byte =
      { dmc with
        irqPending := (dmc.accept byte).irqPending
        currentAddress := (dmc.accept byte).currentAddress
        bytesRemaining := (dmc.accept byte).bytesRemaining
        sampleBuffer := some byte } := by
  simp only [accept]
  repeat' split
  all_goals rfl

/-- The output unit leaves the reader and the registers alone. -/
theorem clockOutput_frame (dmc : Dmc) :
    dmc.clockOutput =
      { dmc with
        timer := dmc.clockOutput.timer
        outputLevel := dmc.clockOutput.outputLevel
        sampleBuffer := dmc.clockOutput.sampleBuffer
        shiftRegister := dmc.clockOutput.shiftRegister
        bitsRemaining := dmc.clockOutput.bitsRemaining
        silence := dmc.clockOutput.silence } := by
  simp only [clockOutput, shiftOut, refill]
  repeat' split
  all_goals rfl

/-- What a cycle of the output unit can be: it waits for the next bit, shifts one out, or shifts
out the last one of a byte and takes the next byte from the buffer. -/
inductive Turn (dmc next : Dmc) : Prop where
  | wait (timer : next.timer.toNat + 1 = dmc.timer.toNat)
    (bitsRemaining : next.bitsRemaining = dmc.bitsRemaining)
    (silence : next.silence = dmc.silence) (sampleBuffer : next.sampleBuffer = dmc.sampleBuffer)
  | shift (stopped : dmc.timer.toNat = 0) (timer : next.timer.toNat + 1 = dmc.rate.toNat)
    (bitsRemaining : next.bitsRemaining.toNat + 1 = dmc.bitsRemaining.toNat)
    (more : 0 < next.bitsRemaining.toNat) (silence : next.silence = dmc.silence)
    (sampleBuffer : next.sampleBuffer = dmc.sampleBuffer)
  | refill (stopped : dmc.timer.toNat = 0) (timer : next.timer.toNat + 1 = dmc.rate.toNat)
    (last : dmc.bitsRemaining.toNat = 1) (bitsRemaining : next.bitsRemaining.toNat = 8)
    (silence : next.silence = dmc.sampleBuffer.isNone) (sampleBuffer : next.sampleBuffer = none)

theorem refill_frame (dmc : Dmc) :
    dmc.refill.timer = dmc.timer ∧ dmc.refill.bitsRemaining = 8 ∧
      dmc.refill.silence = dmc.sampleBuffer.isNone ∧ dmc.refill.sampleBuffer = none := by
  unfold refill
  split
  · rename_i full
    exact ⟨rfl, rfl, by rw [full]; rfl, rfl⟩
  · rename_i empty
    exact ⟨rfl, rfl, by rw [empty]; rfl, empty⟩

theorem Bounded.fewer_bits (bounded : dmc.Bounded) :
    (dmc.bitsRemaining - 1).toNat + 1 = dmc.bitsRemaining.toNat := by
  have one := UInt8.le_iff_toNat_le.mp bounded.bitsRemaining
  rw [UInt8.toNat_sub_of_le _ _ bounded.bitsRemaining]
  exact Nat.sub_add_cancel one

theorem clockOutput_turn (bounded : dmc.Bounded) : dmc.Turn dmc.clockOutput := by
  by_cases running : 0 < dmc.timer
  · have one : 1 ≤ dmc.timer.toNat := UInt16.lt_iff_toNat_lt.mp running
    have fewer : (dmc.timer - 1).toNat = dmc.timer.toNat - 1 :=
      UInt16.toNat_sub_of_le _ _ (UInt16.le_iff_toNat_le.mpr one)
    rw [clockOutput, if_pos running]
    exact .wait ((congrArg (· + 1) fewer).trans (Nat.sub_add_cancel one)) rfl rfl rfl
  have stopped : dmc.timer = 0 := by grind
  have idle : dmc.timer.toNat = 0 := by rw [stopped]; rfl
  have reload : (dmc.rate - 1).toNat + 1 = dmc.rate.toNat := by
    have slowest : (1 : UInt16).toNat ≤ dmc.rate.toNat :=
      Nat.le_trans (by decide) bounded.rate_le.1
    rw [UInt16.toNat_sub_of_le _ _ (UInt16.le_iff_toNat_le.mpr slowest)]
    exact Nat.sub_add_cancel slowest
  have fewer := bounded.fewer_bits
  rw [clockOutput, if_neg running]
  simp only [shiftOut]
  by_cases last : dmc.bitsRemaining - 1 = 0
  · rw [if_pos (beq_iff_eq.mpr last)]
    obtain ⟨timer, bits, silence, buffer⟩ := refill_frame
      { dmc with
        timer := dmc.rate - 1
        outputLevel := nextLevel { dmc with timer := dmc.rate - 1 }
        shiftRegister := dmc.shiftRegister >>> 1
        bitsRemaining := dmc.bitsRemaining - 1 }
    rw [last] at fewer
    exact .refill idle (by rw [timer]; exact reload) fewer.symm (by rw [bits]; rfl) silence buffer
  · rw [if_neg (mt beq_iff_eq.mp last)]
    have more : 0 < (dmc.bitsRemaining - 1).toNat :=
      Nat.pos_of_ne_zero fun zero => last (UInt8.toNat_inj.mp zero)
    exact .shift idle reload fewer more rfl rfl

/-! ### Credit -/

/-- A read spends the credit of a whole read. -/
theorem accept_credit (byte : UInt8) (wanted : dmc.wantsByte) :
    spacing + (dmc.accept byte).credit = dmc.credit := by
  obtain ⟨empty, -⟩ := Bool.and_eq_true_iff.mp wanted
  rw [accept_frame]
  simp only [credit, wait, empty, Option.isNone_some, if_true, if_false, Bool.false_eq_true,
    Nat.zero_add]

/-- Each cycle of the output unit earns at most one cycle of credit: it goes on with the wait, or
begins the next byte's. -/
theorem Bounded.clockOutput_credit (bounded : dmc.Bounded) :
    dmc.clockOutput.credit ≤ dmc.credit + 1 := by
  have fastest := bounded.rate_le.1
  have rate : dmc.clockOutput.rate = dmc.rate := by rw [clockOutput_frame]
  unfold credit spacing
  cases clockOutput_turn bounded with
  | wait timer bits silence buffer =>
    simp only [wait, rate, bits, buffer]
    omega
  | shift stopped timer bits more silence buffer =>
    obtain ⟨left, further⟩ := Nat.exists_eq_add_one_of_ne_zero (Nat.ne_of_gt more)
    simp only [wait, rate, buffer, stopped, ← bits, further, Nat.add_sub_cancel, Nat.succ_mul]
    omega
  | refill stopped timer last bits silence buffer =>
    simp only [wait, rate, buffer, stopped, last, bits, Option.isNone_none, if_true]
    omega

/-- A cycle earns at most one cycle of credit, and a read spends that of 432. -/
theorem Bounded.step_credit (bounded : dmc.Bounded) (memory : UInt16 → UInt8) :
    (if (dmc.step memory).1.isSome then spacing else 0) + (dmc.step memory).2.credit ≤
      dmc.credit + 1 := by
  unfold Dmc.step
  split
  · rename_i wanted
    have spent := accept_credit (memory dmc.currentAddress) wanted
    have earned := (bounded.accept (memory dmc.currentAddress)).clockOutput_credit
    simp only [Option.isSome_some, if_true]
    omega
  · have earned := bounded.clockOutput_credit
    simpa using earned

/-- A sample that has ended is not read any more. -/
theorem step_ended (ended : dmc.bytesRemaining = 0) (memory : UInt16 → UInt8) :
    (dmc.step memory).1 = none ∧ (dmc.step memory).2.bytesRemaining = 0 := by
  have unwanted : dmc.wantsByte = false := by simp [wantsByte, active, ended]
  have kept : dmc.clockOutput.bytesRemaining = dmc.bytesRemaining := by rw [clockOutput_frame]
  simp only [Dmc.step, unwanted, Bool.false_eq_true, if_false, true_and]
  exact kept.trans ended

end Nes.Dmc
