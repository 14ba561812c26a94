import Mathlib.Logic.Function.Iterate
import Nes.Proofs.Checked.Channels
import Nes.Proofs.Countdown

/-!
How a note dies away. Once an envelope has been told to start over, two counters run down, one
within the other: the divider comes round every volume and one quarter frames, and each round takes
the level one lower, until it stays at the bottom or starts from the top again. So the number of
quarter frames alone tells the level, whatever the envelope held before.
-/

namespace Nes.Envelope

/-- The envelope `count` quarter frames after it has been told to start over. -/
def afterStart (envelope : Envelope) (count : Nat) : Envelope :=
  clock^[count] { envelope with start := true }

/-- The level once the divider has come round `rounds` times. -/
def levelAfter (looping : Bool) (rounds : Nat) : Nat :=
  if looping then 15 - rounds % 16 else 15 - rounds

variable {envelope : Envelope}

/-! ### One clock -/

/-- A clock meets a request to start over and leaves the registers alone. -/
theorem clock_kept (envelope : Envelope) :
    envelope.clock.start = false ∧ envelope.clock.looping = envelope.looping ∧
      envelope.clock.constant = envelope.constant ∧ envelope.clock.volume = envelope.volume := by
  unfold clock
  split
  · exact ⟨rfl, rfl, rfl, rfl⟩
  · rename_i settled
    rw [Bool.not_eq_true] at settled
    split <;> exact ⟨settled, rfl, rfl, rfl⟩

/-- With no request the clock counts the divider down, and moves the level when it has run out. -/
theorem clock_cases (settled : envelope.start = false) :
    (envelope.divider.toNat = 0 ∧
        envelope.clock =
          { envelope with divider := envelope.volume, decay := envelope.nextDecay }) ∨
      ∃ left : UInt8, envelope.divider.toNat = left.toNat + 1 ∧
        envelope.clock = { envelope with divider := left } := by
  unfold clock
  rw [if_neg (Bool.eq_false_iff.mp settled)]
  split
  · rename_i running
    have one : 1 ≤ envelope.divider.toNat := UInt8.lt_iff_toNat_lt.mp running
    have fewer : (envelope.divider - 1).toNat = envelope.divider.toNat - 1 :=
      UInt8.toNat_sub_of_le _ _ (UInt8.le_iff_toNat_le.mpr one)
    right
    exact ⟨envelope.divider - 1, by omega, rfl⟩
  · rename_i expired
    rw [UInt8.lt_iff_toNat_lt] at expired
    left
    exact ⟨Nat.eq_zero_of_not_pos expired, rfl⟩

theorem clock_divider (settled : envelope.start = false) :
    envelope.clock.divider.toNat =
      if envelope.divider.toNat = 0 then envelope.volume.toNat
      else envelope.divider.toNat - 1 := by
  rcases clock_cases settled with ⟨expired, clocked⟩ | ⟨left, running, clocked⟩
  · rw [clocked, if_pos expired]
  · rw [clocked, if_neg (by omega), running, Nat.add_sub_cancel]

theorem nextDecay_toNat (envelope : Envelope) :
    envelope.nextDecay.toNat =
      if envelope.decay.toNat = 0 then if envelope.looping then 15 else 0
      else envelope.decay.toNat - 1 := by
  unfold nextDecay
  split
  · rename_i above
    have one : 1 ≤ envelope.decay.toNat := UInt8.lt_iff_toNat_lt.mp above
    rw [if_neg (by omega)]
    exact UInt8.toNat_sub_of_le _ _ (UInt8.le_iff_toNat_le.mpr one)
  · rename_i bottom
    rw [UInt8.lt_iff_toNat_lt] at bottom
    have zero : envelope.decay.toNat = 0 := Nat.eq_zero_of_not_pos bottom
    rw [if_pos zero]
    split
    · rfl
    · exact zero

/-- One more round of the divider takes the level where the clock takes it. -/
theorem levelAfter_succ (looping : Bool) (rounds : Nat) :
    levelAfter looping (rounds + 1) =
      if levelAfter looping rounds = 0 then if looping then 15 else 0
      else levelAfter looping rounds - 1 := by
  cases looping with
  | true => exact Countdown.sub_mod_succ 15 rounds
  | false =>
    change 15 - (rounds + 1) = if 15 - rounds = 0 then 0 else 15 - rounds - 1
    rw [Nat.sub_add_eq]
    split
    · rename_i bottom
      rw [bottom]
    · rfl

/-! ### Runs of clocks -/

theorem afterStart_succ (envelope : Envelope) (count : Nat) :
    envelope.afterStart (count + 1) = (envelope.afterStart count).clock :=
  Function.iterate_succ_apply' _ _ _

theorem afterStart_kept (envelope : Envelope) (clocks : Nat) :
    (envelope.afterStart (clocks + 1)).start = false ∧
      (envelope.afterStart (clocks + 1)).looping = envelope.looping ∧
      (envelope.afterStart (clocks + 1)).constant = envelope.constant ∧
      (envelope.afterStart (clocks + 1)).volume = envelope.volume := by
  induction clocks with
  | zero => exact clock_kept { envelope with start := true }
  | succ clocks ih =>
    obtain ⟨-, looping, constant, volume⟩ := ih
    obtain ⟨settled, kept⟩ := (envelope.afterStart (clocks + 1)).clock_kept
    rw [looping, constant, volume] at kept
    rw [afterStart_succ]
    exact ⟨settled, kept⟩

/-- The divider counts the clocks since the level was set. -/
theorem afterStart_divider (envelope : Envelope) (clocks : Nat) :
    (envelope.afterStart (clocks + 1)).divider.toNat =
      envelope.volume.toNat - clocks % (envelope.volume.toNat + 1) := by
  induction clocks with
  | zero =>
    rw [Nat.zero_mod, Nat.sub_zero]
    rfl
  | succ clocks ih =>
    obtain ⟨settled, -, -, volume⟩ := envelope.afterStart_kept clocks
    rw [afterStart_succ, clock_divider settled, ih, volume, Countdown.sub_mod_succ]

/-- The level counts the rounds of the divider. -/
theorem afterStart_decay (envelope : Envelope) (clocks : Nat) :
    (envelope.afterStart (clocks + 1)).decay.toNat =
      levelAfter envelope.looping (clocks / (envelope.volume.toNat + 1)) := by
  induction clocks with
  | zero =>
    rw [Nat.zero_div]
    cases envelope.looping <;> rfl
  | succ clocks ih =>
    obtain ⟨settled, looping, -, -⟩ := envelope.afterStart_kept clocks
    have divider := envelope.afterStart_divider clocks
    rw [afterStart_succ, Nat.succ_div]
    rcases clock_cases settled with ⟨expired, clocked⟩ | ⟨left, running, clocked⟩
    · have round : envelope.volume.toNat + 1 ∣ clocks + 1 := by
        rw [← Countdown.sub_mod_eq_zero_iff, ← divider, expired]
      rw [clocked, if_pos round, nextDecay_toNat, ih, looping, levelAfter_succ]
    · have within : ¬ envelope.volume.toNat + 1 ∣ clocks + 1 := by
        rw [← Countdown.sub_mod_eq_zero_iff, ← divider, running]
        exact Nat.succ_ne_zero _
      rw [clocked, if_neg within, Nat.add_zero]
      exact ih

/-! ### What is heard -/

/-- Whatever an envelope held before it was told to start over, and whatever its volume: at the
first quarter frame the level is fifteen, and each volume and one quarter frames take it one lower,
down to zero, or round through all sixteen levels. The divider holds the quarter frames that are
left of the round, so none of them counts below zero. What is heard is this level, or always the
volume if that is constant. -/
theorem decays_by_rounds (envelope : Envelope) (clocks : Nat) :
    let period := envelope.volume.toNat + 1
    let later := envelope.afterStart (clocks + 1)
    later.decay.toNat =
        (if envelope.looping then 15 - clocks / period % 16 else 15 - clocks / period) ∧
      later.divider.toNat + clocks % period = envelope.volume.toNat ∧
      (envelope.afterStart clocks).clockChecked = .ok later ∧
      later.output = if envelope.constant then envelope.volume else later.decay := by
  intro period later
  obtain ⟨-, -, constant, volume⟩ := envelope.afterStart_kept clocks
  refine ⟨envelope.afterStart_decay clocks, ?divider, ?counted, ?output⟩
  case divider =>
    have turn : clocks % period ≤ envelope.volume.toNat :=
      Nat.le_of_lt_succ (Nat.mod_lt _ (Nat.succ_pos _))
    rw [envelope.afterStart_divider, Nat.sub_add_cancel turn]
  case counted => rw [clockChecked_eq, ← afterStart_succ]
  case output => rw [output, constant, volume]

/-- At three quarter frames for each level, forty have come down to two; in a loop of one quarter
frame for each level, the seventeenth is back at the top. -/
example :
    ((({ volume := 2, decay := 9 } : Envelope).afterStart 40).decay,
      (({ volume := 0, looping := true } : Envelope).afterStart 17).decay) = (2, 15) := by
  decide

end Nes.Envelope
