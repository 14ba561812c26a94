import Nes.Audio.Apu
import Nes.Proofs.Bytes
import Nes.Proofs.Snapshot.Checks

/-!
The bounds that a snapshot of the sound unit is checked against hold by themselves: no register
write, no clock and no reset takes a channel out of them. Only the sampler's phase is a number of
the host, so it is kept apart.
-/

namespace Nes

/-- A timer's period with one of its halves replaced keeps to eleven bits. -/
private theorem period_le (period : UInt16) (data : UInt8) :
    (period &&& 0x0700) ||| data.toUInt16 ≤ 0x7FF ∧
      ((data &&& 7).toUInt16 <<< 8) ||| (period &&& 0x00FF) ≤ 0x7FF := by
  have high : (period &&& 0x0700).toNat < 2 ^ 11 := by
    rw [UInt16.toNat_and]
    exact Nat.lt_of_le_of_lt Nat.and_le_right (by decide)
  have low : (period &&& 0x00FF).toNat < 2 ^ 11 := by
    rw [UInt16.toNat_and]
    exact Nat.lt_of_le_of_lt Nat.and_le_right (by decide)
  have byte : data.toUInt16.toNat < 2 ^ 11 ∧ ((data &&& 7).toUInt16 <<< 8).toNat < 2 ^ 11 :=
    byte_all (fun data => data.toUInt16.toNat < 2 ^ 11 ∧
      ((data &&& 7).toUInt16 <<< 8).toNat < 2 ^ 11) (by decide +kernel) data
  simp only [UInt16.le_iff_toNat_le, UInt16.toNat_or]
  exact ⟨Nat.le_of_lt_succ (Nat.or_lt_two_pow high byte.1),
    Nat.le_of_lt_succ (Nat.or_lt_two_pow byte.2 low)⟩

/-! ### Pulse -/

namespace Pulse

/-- No field is wider than the register behind it. -/
structure Bounded (pulse : Pulse) : Prop where
  duty : pulse.duty ≤ 3
  sequencerStep : pulse.sequencerStep ≤ 7
  sweepShift : pulse.sweepShift ≤ 7
  sweepPeriod : pulse.sweepPeriod ≤ 7
  sweepDivider : pulse.sweepDivider ≤ 7
  timerPeriod : pulse.timerPeriod ≤ 0x7FF

variable {pulse : Pulse}

theorem validate_iff : pulse.validate = .ok () ↔ pulse.Bounded := by
  simp only [validate, bind, Snapshot.bind_unit_eq_ok, Snapshot.require_eq_ok, Bool.and_eq_true,
    decide_eq_true_iff]
  constructor
  · rintro ⟨duty, sequencerStep, ⟨⟨sweepShift, sweepPeriod⟩, sweepDivider⟩, timerPeriod⟩
    exact ⟨duty, sequencerStep, sweepShift, sweepPeriod, sweepDivider, timerPeriod⟩
  · rintro ⟨duty, sequencerStep, sweepShift, sweepPeriod, sweepDivider, timerPeriod⟩
    exact ⟨duty, sequencerStep, ⟨⟨sweepShift, sweepPeriod⟩, sweepDivider⟩, timerPeriod⟩

private theorem register_le (data : UInt8) :
    (data >>> 6) &&& 3 ≤ 3 ∧ (data >>> 4) &&& 7 ≤ 7 ∧ data &&& 7 ≤ 7 :=
  byte_all (fun data => (data >>> 6) &&& 3 ≤ 3 ∧ (data >>> 4) &&& 7 ≤ 7 ∧ data &&& 7 ≤ 7)
    (by decide +kernel) data

theorem Bounded.write (bounded : pulse.Bounded) (register : UInt16) (data : UInt8) :
    (pulse.write register data).Bounded := by
  obtain ⟨duty, sequencerStep, sweepShift, sweepPeriod, sweepDivider, timerPeriod⟩ := bounded
  obtain ⟨newDuty, newPeriod, newShift⟩ := register_le data
  obtain ⟨low, high⟩ := period_le pulse.timerPeriod data
  unfold Pulse.write
  split
  · exact ⟨newDuty, sequencerStep, sweepShift, sweepPeriod, sweepDivider, timerPeriod⟩
  · exact ⟨duty, sequencerStep, newShift, newPeriod, sweepDivider, timerPeriod⟩
  · exact ⟨duty, sequencerStep, sweepShift, sweepPeriod, sweepDivider, low⟩
  · exact ⟨duty, (by decide : (0 : UInt8) ≤ 7), sweepShift, sweepPeriod, sweepDivider, high⟩

theorem Bounded.clockTimer (bounded : pulse.Bounded) : pulse.clockTimer.Bounded := by
  obtain ⟨duty, sequencerStep, sweepShift, sweepPeriod, sweepDivider, timerPeriod⟩ := bounded
  unfold Pulse.clockTimer
  split
  · exact ⟨duty, sequencerStep, sweepShift, sweepPeriod, sweepDivider, timerPeriod⟩
  · exact ⟨duty, (register_le (pulse.sequencerStep - 1)).2.2, sweepShift, sweepPeriod,
      sweepDivider, timerPeriod⟩

/-- The sweep does not move the period to where it would be muted. -/
theorem Bounded.sweptPeriod_le (bounded : pulse.Bounded) : pulse.sweptPeriod ≤ 0x7FF := by
  unfold sweptPeriod
  split
  · rename_i sweeping
    have heard : pulse.muted = false := by simp_all [sweeps]
    have target : pulse.targetPeriod ≤ 0x7FF := by simp_all [muted]
    rw [UInt16.le_iff_toNat_le, UInt16.toNat_ofNat']
    change pulse.targetPeriod.toNat % 2 ^ 16 ≤ 0x7FF
    omega
  · exact bounded.timerPeriod

theorem Bounded.clockSweep (bounded : pulse.Bounded) : pulse.clockSweep.Bounded := by
  have swept := bounded.sweptPeriod_le
  obtain ⟨duty, sequencerStep, sweepShift, sweepPeriod, sweepDivider, timerPeriod⟩ := bounded
  unfold Pulse.clockSweep
  split
  · exact ⟨duty, sequencerStep, sweepShift, sweepPeriod, sweepPeriod, swept⟩
  · have next : pulse.sweepDivider - 1 ≤ 7 := by grind
    exact ⟨duty, sequencerStep, sweepShift, sweepPeriod, next, timerPeriod⟩

theorem Bounded.clockEnvelope (bounded : pulse.Bounded) : pulse.clockEnvelope.Bounded :=
  ⟨bounded.duty, bounded.sequencerStep, bounded.sweepShift, bounded.sweepPeriod,
    bounded.sweepDivider, bounded.timerPeriod⟩

theorem Bounded.clockLength (bounded : pulse.Bounded) : pulse.clockLength.Bounded :=
  ⟨bounded.duty, bounded.sequencerStep, bounded.sweepShift, bounded.sweepPeriod,
    bounded.sweepDivider, bounded.timerPeriod⟩

theorem Bounded.setEnabled (bounded : pulse.Bounded) (enabled : Bool) :
    (pulse.setEnabled enabled).Bounded :=
  ⟨bounded.duty, bounded.sequencerStep, bounded.sweepShift, bounded.sweepPeriod,
    bounded.sweepDivider, bounded.timerPeriod⟩

end Pulse

/-! ### Triangle -/

namespace Triangle

/-- The step lies on the wave and no field is wider than the register behind it. -/
structure Bounded (triangle : Triangle) : Prop where
  sequencerStep : triangle.sequencerStep < 32
  linearLoad : triangle.linearLoad ≤ 0x7F
  timerPeriod : triangle.timerPeriod ≤ 0x7FF

variable {triangle : Triangle}

theorem validate_iff : triangle.validate = .ok () ↔ triangle.Bounded := by
  simp only [validate, bind, Snapshot.bind_unit_eq_ok, Snapshot.require_eq_ok, Bool.and_eq_true,
    decide_eq_true_iff]
  exact ⟨fun ⟨step, load, period⟩ => ⟨step, load, period⟩,
    fun ⟨step, load, period⟩ => ⟨step, load, period⟩⟩

private theorem register_le (data : UInt8) : data &&& 31 < 32 ∧ data &&& 0x7F ≤ 0x7F :=
  byte_all (fun data => data &&& 31 < 32 ∧ data &&& 0x7F ≤ 0x7F) (by decide +kernel) data

theorem Bounded.write (bounded : triangle.Bounded) (register : UInt16) (data : UInt8) :
    (triangle.write register data).Bounded := by
  obtain ⟨step, load, period⟩ := bounded
  obtain ⟨low, high⟩ := period_le triangle.timerPeriod data
  unfold Triangle.write
  split
  · exact ⟨step, (register_le data).2, period⟩
  · exact ⟨step, load, period⟩
  · exact ⟨step, load, low⟩
  · exact ⟨step, load, high⟩

theorem Bounded.clockTimer (bounded : triangle.Bounded) : triangle.clockTimer.Bounded := by
  unfold Triangle.clockTimer
  split
  · exact ⟨bounded.sequencerStep, bounded.linearLoad, bounded.timerPeriod⟩
  · split
    · exact ⟨(register_le _).1, bounded.linearLoad, bounded.timerPeriod⟩
    · exact ⟨bounded.sequencerStep, bounded.linearLoad, bounded.timerPeriod⟩

theorem Bounded.clockLinear (bounded : triangle.Bounded) : triangle.clockLinear.Bounded :=
  ⟨bounded.sequencerStep, bounded.linearLoad, bounded.timerPeriod⟩

theorem Bounded.clockLength (bounded : triangle.Bounded) : triangle.clockLength.Bounded :=
  ⟨bounded.sequencerStep, bounded.linearLoad, bounded.timerPeriod⟩

theorem Bounded.setEnabled (bounded : triangle.Bounded) (enabled : Bool) :
    (triangle.setEnabled enabled).Bounded :=
  ⟨bounded.sequencerStep, bounded.linearLoad, bounded.timerPeriod⟩

end Triangle

/-! ### Noise -/

namespace Noise

/-- The shift register has fifteen bits, not all zero, and the period is one of the table's. -/
structure Bounded (noise : Noise) : Prop where
  running : noise.shift ≠ 0
  shift : noise.shift ≤ 0x7FFF
  period : noise.period ∈ periodTable

variable {noise : Noise}

theorem validate_iff : noise.validate = .ok () ↔ noise.Bounded := by
  simp only [validate, bind, Snapshot.bind_unit_eq_ok, Snapshot.require_eq_ok, Bool.and_eq_true,
    decide_eq_true_iff, bne_iff_ne, Vector.contains_iff_mem]
  exact ⟨fun ⟨⟨running, shift⟩, period⟩ => ⟨running, shift, period⟩,
    fun ⟨running, shift, period⟩ => ⟨⟨running, shift⟩, period⟩⟩

theorem Bounded.write (bounded : noise.Bounded) (register : UInt16) (data : UInt8) :
    (noise.write register data).Bounded := by
  obtain ⟨running, shift, period⟩ := bounded
  unfold Noise.write
  split
  · exact ⟨running, shift, period⟩
  · exact ⟨running, shift, period⟩
  · exact ⟨running, shift, Vector.getElem_mem _⟩
  · exact ⟨running, shift, period⟩

theorem feedback_lt (noise : Noise) : noise.feedback.toNat < 2 := by
  simp only [feedback, UInt16.toNat_xor, UInt16.toNat_and]
  exact Nat.xor_lt_two_pow (n := 1) (Nat.lt_succ_of_le Nat.and_le_right)
    (Nat.lt_succ_of_le Nat.and_le_right)

/-- A register whose last bit leaves gets a new one: both taps of the value one disagree. -/
theorem feedback_of_one (last : noise.shift = 1) : noise.feedback = 1 := by
  simp only [feedback, last]
  cases noise.shortMode <;> decide

theorem halved_toNat (noise : Noise) : (noise.shift >>> 1).toNat = noise.shift.toNat / 2 := by
  rw [UInt16.toNat_shiftRight]
  exact Nat.shiftRight_eq_div_pow _ 1

/-- The register moved on: the upper bits come one down, and the new bit stands above them. -/
theorem Bounded.shifted_toNat (bounded : noise.Bounded) :
    ((noise.shift >>> 1) ||| (noise.feedback <<< 14)).toNat =
      noise.shift.toNat / 2 + noise.feedback.toNat * 0x4000 := by
  have fifteen : noise.shift.toNat ≤ 0x7FFF := UInt16.le_iff_toNat_le.mp bounded.shift
  have entering := noise.feedback_lt
  have top : (noise.feedback <<< 14).toNat = 2 ^ 14 * noise.feedback.toNat := by
    rw [UInt16.toNat_shiftLeft]
    change noise.feedback.toNat <<< 14 % 2 ^ 16 = _
    rw [Nat.shiftLeft_eq]
    omega
  have apart := Nat.two_pow_add_eq_or_of_lt (i := 14) (b := noise.shift.toNat / 2) (by omega)
    noise.feedback.toNat
  rw [UInt16.toNat_or, noise.halved_toNat, top, Nat.or_comm, ← apart]
  omega

theorem Bounded.shifted (bounded : noise.Bounded) :
    (noise.shift >>> 1) ||| (noise.feedback <<< 14) ≠ 0 ∧
      (noise.shift >>> 1) ||| (noise.feedback <<< 14) ≤ 0x7FFF := by
  have fifteen : noise.shift.toNat ≤ 0x7FFF := UInt16.le_iff_toNat_le.mp bounded.shift
  have entering := noise.feedback_lt
  have moved := bounded.shifted_toNat
  constructor
  · intro empty
    by_cases last : noise.shift = 1
    · rw [last, feedback_of_one last] at empty
      exact absurd empty (by decide)
    · have running := mt UInt16.toNat_inj.mp bounded.running
      have notOne := mt UInt16.toNat_inj.mp last
      change noise.shift.toNat ≠ 0 at running
      change noise.shift.toNat ≠ 1 at notOne
      rw [empty, UInt16.toNat_zero] at moved
      omega
  · rw [UInt16.le_iff_toNat_le, moved]
    change _ ≤ 0x7FFF
    omega

theorem Bounded.clockTimer (bounded : noise.Bounded) : noise.clockTimer.Bounded := by
  unfold Noise.clockTimer
  split
  · exact ⟨bounded.running, bounded.shift, bounded.period⟩
  · exact ⟨bounded.shifted.1, bounded.shifted.2, bounded.period⟩

theorem Bounded.clockEnvelope (bounded : noise.Bounded) : noise.clockEnvelope.Bounded :=
  ⟨bounded.running, bounded.shift, bounded.period⟩

theorem Bounded.clockLength (bounded : noise.Bounded) : noise.clockLength.Bounded :=
  ⟨bounded.running, bounded.shift, bounded.period⟩

theorem Bounded.setEnabled (bounded : noise.Bounded) (enabled : Bool) :
    (noise.setEnabled enabled).Bounded :=
  ⟨bounded.running, bounded.shift, bounded.period⟩

end Noise

/-! ### Samples -/

namespace Dmc

/-- The rate is one of the table's, a bit is left to shift out, and the level has seven bits. -/
structure Bounded (dmc : Dmc) : Prop where
  rate : dmc.rate ∈ rateTable
  bitsRemaining : 1 ≤ dmc.bitsRemaining
  byteRemaining : dmc.bitsRemaining ≤ 8
  outputLevel : dmc.outputLevel ≤ 0x7F

variable {dmc : Dmc}

theorem validate_iff : dmc.validate = .ok () ↔ dmc.Bounded := by
  simp only [validate, bind, Snapshot.bind_unit_eq_ok, Snapshot.require_eq_ok, Bool.and_eq_true,
    decide_eq_true_iff, Vector.contains_iff_mem]
  exact ⟨fun ⟨rate, ⟨bits, byte⟩, level⟩ => ⟨rate, bits, byte, level⟩,
    fun ⟨rate, bits, byte, level⟩ => ⟨rate, ⟨bits, byte⟩, level⟩⟩

theorem Bounded.write (bounded : dmc.Bounded) (register : UInt16) (data : UInt8) :
    (dmc.write register data).Bounded := by
  obtain ⟨rate, bits, byte, level⟩ := bounded
  have newLevel : data &&& 0x7F ≤ 0x7F := byte_all (fun data => data &&& 0x7F ≤ 0x7F)
    (by decide +kernel) data
  unfold Dmc.write
  split
  · exact ⟨Vector.getElem_mem _, bits, byte, level⟩
  · exact ⟨rate, bits, byte, newLevel⟩
  · exact ⟨rate, bits, byte, level⟩
  · exact ⟨rate, bits, byte, level⟩

theorem Bounded.setEnabled (bounded : dmc.Bounded) (enabled : Bool) :
    (dmc.setEnabled enabled).Bounded := by
  obtain ⟨rate, bits, byte, level⟩ := bounded
  simp only [Dmc.setEnabled]
  split
  · exact ⟨rate, bits, byte, level⟩
  · split <;> exact ⟨rate, bits, byte, level⟩

theorem Bounded.accept (bounded : dmc.Bounded) (data : UInt8) : (dmc.accept data).Bounded := by
  obtain ⟨rate, bits, byte, level⟩ := bounded
  simp only [Dmc.accept]
  repeat' split
  all_goals exact ⟨rate, bits, byte, level⟩

theorem Bounded.nextLevel_le (bounded : dmc.Bounded) : dmc.nextLevel ≤ 0x7F := by
  have level := bounded.outputLevel
  unfold nextLevel
  grind

theorem Bounded.shiftOut (bounded : dmc.Bounded) : dmc.shiftOut.Bounded := by
  have level := bounded.nextLevel_le
  obtain ⟨rate, bits, byte, -⟩ := bounded
  simp only [Dmc.shiftOut]
  split
  · unfold refill
    split <;> exact ⟨rate, (by decide : (1 : UInt8) ≤ 8), (by decide : (8 : UInt8) ≤ 8), level⟩
  · rename_i left
    have some : dmc.bitsRemaining - 1 ≠ 0 := by simpa using left
    have low : 1 ≤ dmc.bitsRemaining - 1 := by grind
    have high : dmc.bitsRemaining - 1 ≤ 8 := by grind
    exact ⟨rate, low, high, level⟩

theorem Bounded.clockOutput (bounded : dmc.Bounded) : dmc.clockOutput.Bounded := by
  obtain ⟨rate, bits, byte, level⟩ := bounded
  unfold Dmc.clockOutput
  split
  · exact ⟨rate, bits, byte, level⟩
  · exact .shiftOut ⟨rate, bits, byte, level⟩

theorem Bounded.step (bounded : dmc.Bounded) (memory : UInt16 → UInt8) :
    (dmc.step memory).2.Bounded := by
  unfold Dmc.step
  split
  · exact (bounded.accept _).clockOutput
  · exact bounded.clockOutput

end Dmc

/-! ### The unit -/

namespace Apu.State

/-- All channels are within their bounds. -/
structure ChannelsBounded (apu : State) : Prop where
  pulse1 : apu.pulse1.Bounded
  pulse2 : apu.pulse2.Bounded
  triangle : apu.triangle.Bounded
  noise : apu.noise.Bounded
  dmc : apu.dmc.Bounded

/-- All channels and the frame counter are within their bounds. -/
structure Bounded (apu : State) : Prop extends ChannelsBounded apu where
  frameCycle : apu.frameCycle ≤ step5

variable {apu : State}

theorem validate_iff : apu.validate = .ok () ↔ apu.Bounded ∧ apu.samplePhase.valid = true := by
  simp only [validate, bind, Snapshot.bind_unit_eq_ok, Pulse.validate_iff, Triangle.validate_iff,
    Noise.validate_iff, Dmc.validate_iff, Snapshot.require_eq_ok, decide_eq_true_iff]
  exact ⟨fun ⟨pulse1, pulse2, triangle, noise, dmc, frameCycle, phase⟩ =>
      ⟨⟨⟨pulse1, pulse2, triangle, noise, dmc⟩, frameCycle⟩, phase⟩,
    fun ⟨⟨⟨pulse1, pulse2, triangle, noise, dmc⟩, frameCycle⟩, phase⟩ =>
      ⟨pulse1, pulse2, triangle, noise, dmc, frameCycle, phase⟩⟩

theorem powerOn_bounded : ({} : State).Bounded := by
  have pulse1 : Pulse.first.Bounded := by constructor <;> decide
  have pulse2 : Pulse.second.Bounded := by constructor <;> decide
  have triangle : ({} : Triangle).Bounded := by constructor <;> decide
  have noise : ({} : Noise).Bounded :=
    ⟨by decide, by decide, (Vector.getElem_mem _ : Noise.periodOf 0 ∈ Noise.periodTable)⟩
  have dmc : ({} : Dmc).Bounded :=
    ⟨(Vector.getElem_mem _ : Dmc.rateOf 0 ∈ Dmc.rateTable), by decide, by decide, by decide⟩
  exact ⟨⟨pulse1, pulse2, triangle, noise, dmc⟩, by decide⟩

theorem ChannelsBounded.clockQuarterFrame (bounded : apu.ChannelsBounded) :
    apu.clockQuarterFrame.ChannelsBounded :=
  ⟨bounded.pulse1.clockEnvelope, bounded.pulse2.clockEnvelope, bounded.triangle.clockLinear,
    bounded.noise.clockEnvelope, bounded.dmc⟩

theorem ChannelsBounded.clockHalfFrame (bounded : apu.ChannelsBounded) :
    apu.clockHalfFrame.ChannelsBounded :=
  ⟨bounded.pulse1.clockLength.clockSweep, bounded.pulse2.clockLength.clockSweep,
    bounded.triangle.clockLength, bounded.noise.clockLength, bounded.dmc⟩

theorem Bounded.enableChannels (bounded : apu.Bounded) (data : UInt8) :
    (apu.enableChannels data).Bounded :=
  ⟨⟨bounded.pulse1.setEnabled _, bounded.pulse2.setEnabled _, bounded.triangle.setEnabled _,
    bounded.noise.setEnabled _, bounded.dmc.setEnabled _⟩, bounded.frameCycle⟩

theorem Bounded.writeFrameCounter (bounded : apu.Bounded) (data : UInt8) :
    (apu.writeFrameCounter data).Bounded := by
  have restarted : (0 : UInt32) ≤ step5 := by decide
  obtain ⟨⟨pulse1, pulse2, triangle, noise, dmc⟩, -⟩ := bounded
  simp only [State.writeFrameCounter]
  split
  · exact ⟨ChannelsBounded.clockHalfFrame
      (.clockQuarterFrame ⟨pulse1, pulse2, triangle, noise, dmc⟩), restarted⟩
  · exact ⟨⟨pulse1, pulse2, triangle, noise, dmc⟩, restarted⟩

theorem Bounded.write (bounded : apu.Bounded) (address : UInt16) (data : UInt8) :
    (apu.write address data).Bounded := by
  have channels := bounded.enableChannels data
  have counter := bounded.writeFrameCounter data
  obtain ⟨⟨pulse1, pulse2, triangle, noise, dmc⟩, frameCycle⟩ := bounded
  unfold State.write
  repeat' split
  · exact ⟨⟨pulse1, pulse2, triangle, noise, dmc⟩, frameCycle⟩
  · exact ⟨⟨pulse1.write address data, pulse2, triangle, noise, dmc⟩, frameCycle⟩
  · exact ⟨⟨pulse1, pulse2.write address data, triangle, noise, dmc⟩, frameCycle⟩
  · exact ⟨⟨pulse1, pulse2, triangle.write address data, noise, dmc⟩, frameCycle⟩
  · exact ⟨⟨pulse1, pulse2, triangle, noise.write address data, dmc⟩, frameCycle⟩
  · exact ⟨⟨pulse1, pulse2, triangle, noise, dmc.write address data⟩, frameCycle⟩
  · exact channels
  · exact counter
  · exact ⟨⟨pulse1, pulse2, triangle, noise, dmc⟩, frameCycle⟩

theorem ChannelsBounded.clockSequence (bounded : apu.ChannelsBounded) :
    apu.clockSequence.ChannelsBounded := by
  have quarter := bounded.clockQuarterFrame
  have half := quarter.clockHalfFrame
  simp only [State.clockSequence]
  repeat' split
  · exact quarter
  · exact half
  · exact ⟨half.pulse1, half.pulse2, half.triangle, half.noise, half.dmc⟩
  · exact half
  · exact bounded

/-- The frame counter starts over before it passes the last point of its sequence. -/
theorem Bounded.clockFrameCounter (bounded : apu.Bounded) : apu.clockFrameCounter.Bounded := by
  obtain ⟨⟨pulse1, pulse2, triangle, noise, dmc⟩, -⟩ := bounded
  obtain ⟨pulse1, pulse2, triangle, noise, dmc⟩ :=
    @ChannelsBounded.clockSequence { apu with frameCycle := apu.frameCycle + 1 }
      ⟨pulse1, pulse2, triangle, noise, dmc⟩
  simp only [State.clockFrameCounter]
  split
  · exact ⟨⟨pulse1, pulse2, triangle, noise, dmc⟩, (by decide : (0 : UInt32) ≤ step5)⟩
  · rename_i inside
    refine ⟨⟨pulse1, pulse2, triangle, noise, dmc⟩, UInt32.le_trans (UInt32.not_lt.mp inside) ?_⟩
    unfold lastStep
    split <;> decide

theorem Bounded.clockTimers (bounded : apu.Bounded) : apu.clockTimers.Bounded := by
  obtain ⟨⟨pulse1, pulse2, triangle, noise, dmc⟩, frameCycle⟩ := bounded
  simp only [State.clockTimers]
  split
  · exact ⟨⟨pulse1.clockTimer, pulse2.clockTimer, triangle.clockTimer, noise.clockTimer, dmc⟩,
      frameCycle⟩
  · exact ⟨⟨pulse1, pulse2, triangle.clockTimer, noise.clockTimer, dmc⟩, frameCycle⟩

theorem Bounded.clock (bounded : apu.Bounded) (memory : UInt16 → UInt8) :
    (apu.clock memory).2.Bounded := by
  obtain ⟨⟨pulse1, pulse2, triangle, noise, dmc⟩, frameCycle⟩ :=
    bounded.clockFrameCounter.clockTimers
  exact ⟨⟨pulse1, pulse2, triangle, noise, dmc.step memory⟩, frameCycle⟩

theorem Bounded.reset (bounded : apu.Bounded) : apu.reset.Bounded := by
  obtain ⟨⟨pulse1, pulse2, triangle, noise, dmc⟩, -⟩ := bounded.enableChannels 0
  exact ⟨⟨pulse1, pulse2, triangle, noise,
    ⟨dmc.rate, dmc.bitsRemaining, dmc.byteRemaining, dmc.outputLevel⟩⟩,
    (by decide : (0 : UInt32) ≤ step5)⟩

end Apu.State

namespace Apu

variable {apu : Apu}

theorem sample_bounded (bounded : apu.state.Bounded) : apu.sample.state.Bounded := by
  obtain ⟨⟨pulse1, pulse2, triangle, noise, dmc⟩, frameCycle⟩ := bounded
  simp only [sample]
  split <;> exact ⟨⟨pulse1, pulse2, triangle, noise, dmc⟩, frameCycle⟩

theorem step_bounded (bounded : apu.state.Bounded) (memory : UInt16 → UInt8) :
    (apu.step memory).2.state.Bounded :=
  @sample_bounded { apu with state := (apu.state.clock memory).2 } (bounded.clock memory)

theorem readStatus_bounded (bounded : apu.state.Bounded) (openBus : UInt8) :
    (apu.readStatus openBus).2.state.Bounded :=
  ⟨⟨bounded.pulse1, bounded.pulse2, bounded.triangle, bounded.noise, bounded.dmc⟩,
    bounded.frameCycle⟩

theorem step_cyclesPerSample (apu : Apu) (memory : UInt16 → UInt8) :
    (apu.step memory).2.cyclesPerSample = apu.cyclesPerSample := by
  simp only [step, sample]
  split <;> rfl

/-- An accepted record is within the bounds and replaces the chip's state. -/
theorem load_ok {next : Apu} {state : State} (success : apu.load state = .ok next) :
    state.Bounded ∧ next = apu.restore state := by
  obtain ⟨valid, result⟩ := Snapshot.bind_unit_eq_ok.mp success
  exact ⟨(State.validate_iff.mp valid).1, (Except.ok.inj result).symm⟩

/-- A state within the bounds is accepted if its phase is. -/
theorem load_bounded {state : State} (bounded : state.Bounded) (phase : state.samplePhase.valid) :
    apu.load state = .ok (apu.restore state) := by
  have valid := State.validate_iff.mpr ⟨bounded, phase⟩
  simp only [load, valid, bind, Except.bind, pure, Except.pure]

end Apu

end Nes
