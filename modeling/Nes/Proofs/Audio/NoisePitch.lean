import Mathlib.Data.Nat.Count
import Nes.Proofs.Audio.Overload
import Nes.Proofs.Countdown

/-!
The pitch of the noise channel. The timer starts again at the period itself and runs down to zero,
so the shift register moves every period and one more tick, whatever the period.
-/

namespace Nes.Noise

/-- How many of the next ticks of the timer move the shift register. -/
def shifts (noise : Noise) (count : Nat) : Nat :=
  Nat.count (fun tick => (clockTimer^[tick + 1] noise).shift ≠ (clockTimer^[tick] noise).shift)
    count

variable {noise : Noise}

/-! ### One tick -/

/-- A register that is not stuck holds another value after every shift: the only value besides zero
that halving and a new first bit would leave alone is all ones, and there both taps agree. -/
theorem expire_shift_ne (bounded : noise.Bounded) : noise.expire.shift ≠ noise.shift := by
  intro same
  have moved := bounded.shifted_toNat
  have running : noise.shift.toNat ≠ 0 := fun zero => bounded.running (UInt16.toNat_inj.mp zero)
  have fifteen := UInt16.le_iff_toNat_le.mp bounded.shift
  change noise.shift.toNat ≤ 0x7FFF at fifteen
  have entering := noise.feedback_lt
  change noise.expire.shift.toNat = _ at moved
  rw [same] at moved
  have ones : noise.shift = 0x7FFF := by
    rw [← UInt16.toNat_inj]
    change _ = 0x7FFF
    omega
  have none : noise.feedback = 0 := by
    rw [feedback, ones]
    cases noise.shortMode <;> decide
  rw [none, UInt16.toNat_zero] at moved
  omega

/-- The timer takes one away, or starts again at the period and moves the register. -/
theorem clockTimer_cases (noise : Noise) :
    (noise.timer.toNat = 0 ∧ noise.clockTimer = noise.expire) ∨
      ∃ left : UInt16, noise.timer.toNat = left.toNat + 1 ∧
        noise.clockTimer = { noise with timer := left } := by
  unfold clockTimer
  split
  · rename_i running
    have one : 1 ≤ noise.timer.toNat := UInt16.lt_iff_toNat_lt.mp running
    have fewer : (noise.timer - 1).toNat = noise.timer.toNat - 1 :=
      UInt16.toNat_sub_of_le _ _ (UInt16.le_iff_toNat_le.mpr one)
    exact .inr ⟨noise.timer - 1, by omega, rfl⟩
  · rename_i expired
    rw [UInt16.lt_iff_toNat_lt] at expired
    exact .inl ⟨Nat.eq_zero_of_not_pos expired, rfl⟩

/-- The register moves in the ticks that find the timer run out, and in no others. -/
theorem clockTimer_shift_ne_iff (bounded : noise.Bounded) :
    noise.clockTimer.shift ≠ noise.shift ↔ noise.timer.toNat = 0 := by
  obtain ⟨expired, ticked⟩ | ⟨left, running, ticked⟩ := noise.clockTimer_cases
  · rw [ticked]
    exact iff_of_true (expire_shift_ne bounded) expired
  · rw [ticked]
    exact iff_of_false (fun moved => moved rfl) (by omega)

theorem clockTimer_timer_toNat (noise : Noise) :
    noise.clockTimer.timer.toNat =
      if noise.timer.toNat = 0 then noise.period.toNat else noise.timer.toNat - 1 := by
  obtain ⟨expired, ticked⟩ | ⟨left, running, ticked⟩ := noise.clockTimer_cases
  · rw [ticked, if_pos expired, expire]
  · rw [ticked, if_neg (by omega), running, Nat.add_sub_cancel]

/-! ### Runs of ticks -/

theorem iterate_clockTimer_bounded (bounded : noise.Bounded) (count : Nat) :
    (clockTimer^[count] noise).Bounded := by
  induction count with
  | zero => exact bounded
  | succ count ih =>
    rw [Function.iterate_succ_apply']
    exact ih.clockTimer

theorem iterate_clockTimer_period (noise : Noise) (count : Nat) :
    (clockTimer^[count] noise).period = noise.period := by
  rw [iterate_clockTimer_frame]

/-- A timer that has just started again counts the ticks since. -/
theorem iterate_clockTimer_timer (fresh : noise.timer = noise.period) (count : Nat) :
    (clockTimer^[count] noise).timer.toNat =
      noise.period.toNat - count % (noise.period.toNat + 1) := by
  induction count with
  | zero => rw [Function.iterate_zero_apply, fresh, Nat.zero_mod, Nat.sub_zero]
  | succ count ih =>
    rw [Function.iterate_succ_apply', clockTimer_timer_toNat, ih, iterate_clockTimer_period,
      Countdown.sub_mod_succ]

/-- From a start of the timer on, the register moves whenever the period and one more divide the
ticks. -/
theorem iterate_clockTimer_shift_ne_iff (bounded : noise.Bounded)
    (fresh : noise.timer = noise.period) (count : Nat) :
    (clockTimer^[count + 1] noise).shift ≠ (clockTimer^[count] noise).shift ↔
      noise.period.toNat + 1 ∣ count + 1 := by
  rw [Function.iterate_succ_apply', clockTimer_shift_ne_iff (iterate_clockTimer_bounded bounded _),
    iterate_clockTimer_timer fresh, Countdown.sub_mod_eq_zero_iff]

theorem shifts_eq_div (bounded : noise.Bounded) (fresh : noise.timer = noise.period)
    (count : Nat) : noise.shifts count = count / (noise.period.toNat + 1) := by
  induction count with
  | zero => rw [Nat.zero_div]; rfl
  | succ count ih =>
    have due := iterate_clockTimer_shift_ne_iff bounded fresh count
    rw [shifts, Nat.count_succ, ← shifts, ih, Nat.succ_div, if_congr due rfl rfl]

theorem expire_shift_congr {first second : Noise} (mode : first.shortMode = second.shortMode)
    (shift : first.shift = second.shift) : first.expire.shift = second.expire.shift := by
  rw [expire, expire, feedback, feedback, mode, shift]

theorem iterate_expire_shortMode (noise : Noise) (turns : Nat) :
    (expire^[turns] noise).shortMode = noise.shortMode := by
  induction turns with
  | zero => rfl
  | succ turns ih => rw [Function.iterate_succ_apply', expire, ih]

/-- From a start of the timer on, the register holds what as many moves as there were whole turns of
the timer make of it. -/
theorem iterate_clockTimer_shift (fresh : noise.timer = noise.period) (count : Nat) :
    (clockTimer^[count] noise).shift =
      (expire^[count / (noise.period.toNat + 1)] noise).shift := by
  induction count with
  | zero => rw [Nat.zero_div]; rfl
  | succ count ih =>
    have timer := iterate_clockTimer_timer fresh count
    rw [Function.iterate_succ_apply', Nat.succ_div]
    obtain ⟨expired, ticked⟩ | ⟨left, running, ticked⟩ :=
      (clockTimer^[count] noise).clockTimer_cases
    · have due : noise.period.toNat + 1 ∣ count + 1 := by
        rw [← Countdown.sub_mod_eq_zero_iff, ← timer, expired]
      have mode : (clockTimer^[count] noise).shortMode = noise.shortMode := by
        rw [iterate_clockTimer_frame]
      rw [ticked, if_pos due, Function.iterate_succ_apply']
      exact expire_shift_congr (mode.trans (noise.iterate_expire_shortMode _).symm) ih
    · have early : ¬ noise.period.toNat + 1 ∣ count + 1 := by
        rw [← Countdown.sub_mod_eq_zero_iff, ← timer, running]
        exact Nat.succ_ne_zero _
      rw [ticked, if_neg early]
      exact ih

/-! ### The register of the pitch -/

/-- Whatever the period register holds and whatever the state is in which the shift register moves:
from then on it moves in every tick whose number is divided by the period of the table and one more,
in no other tick, and each time to the next value of the generator. So it takes `n` periods and `n`
ticks to move `n` times, and within `n` periods alone it moves less often. -/
theorem moves_by_period {data : UInt8} (valid : noise.validate = .ok ())
    (setting : noise.write 0x400E data = noise) (moved : noise.clockTimer.shift ≠ noise.shift)
    (count : Nat) :
    ((clockTimer^[count + 1] noise.clockTimer).shift ≠
        (clockTimer^[count] noise.clockTimer).shift ↔ (periodOf data).toNat + 1 ∣ count + 1) ∧
      noise.clockTimer.shifts count = count / ((periodOf data).toNat + 1) ∧
      (clockTimer^[count] noise.clockTimer).shift =
        (expire^[count / ((periodOf data).toNat + 1)] noise.clockTimer).shift := by
  have bounded := validate_iff.mp valid
  have period : periodOf data = noise.period := congrArg Noise.period setting
  have expired := (clockTimer_shift_ne_iff bounded).mp moved
  have ticked : noise.clockTimer = noise.expire := by
    obtain ⟨-, ticked⟩ | ⟨left, running, -⟩ := noise.clockTimer_cases
    · exact ticked
    · omega
  have fresh : noise.clockTimer.timer = noise.clockTimer.period := by
    rw [ticked]
    rfl
  have kept : noise.clockTimer.period = periodOf data := by
    rw [period, ticked]
    rfl
  rw [← kept]
  exact ⟨iterate_clockTimer_shift_ne_iff bounded.clockTimer fresh count,
    shifts_eq_div bounded.clockTimer fresh count, iterate_clockTimer_shift fresh count⟩

/-- A channel in the short mode with the longest period, about to move its shift register. -/
def lowest : Noise := { period := 4068, shortMode := true, shift := 0x2A51 }

/-- Three longest periods bring two moves. -/
theorem moves_by_period_lowest :
    lowest.validate = .ok () ∧ lowest.write 0x400E 0x8F = lowest ∧
      lowest.clockTimer.shift ≠ lowest.shift ∧
      lowest.clockTimer.shifts (3 * (periodOf 0x8F).toNat) = 2 := by
  have valid : lowest.validate = .ok () := validate_iff.mpr
    ⟨by decide, by decide, (Vector.getElem_mem _ : periodOf 0x8F ∈ periodTable)⟩
  have moved : lowest.clockTimer.shift ≠ lowest.shift := by decide
  obtain ⟨-, moves, -⟩ := @moves_by_period lowest 0x8F valid rfl moved (3 * (periodOf 0x8F).toNat)
  exact ⟨valid, rfl, moved, moves⟩

/-- With the shortest period, of four cycles, the shift register has not moved four cycles after a
move. -/
theorem highest_late :
    periodOf 0 = 4 ∧ ({} : Noise).validate = .ok () ∧ ({} : Noise).write 0x400E 0 = {} ∧
      ({} : Noise).clockTimer.shift ≠ ({} : Noise).shift ∧
      ({} : Noise).clockTimer.shifts (1 * (periodOf 0).toNat) = 0 := by
  have valid : ({} : Noise).validate = .ok () := validate_iff.mpr
    ⟨by decide, by decide, (Vector.getElem_mem _ : periodOf 0 ∈ periodTable)⟩
  exact ⟨by decide, valid, by decide, by decide, by decide⟩

end Nes.Noise
