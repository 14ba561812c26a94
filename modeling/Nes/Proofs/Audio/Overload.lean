import Mathlib.Logic.Function.Iterate
import Nes.Proofs.Audio.Volume

/-!
A record that is too loud can be heard. Whatever the rest of the unit is like, a channel whose
envelope does not fit is brought to play it: it is switched on and given a note, and its timer runs
while the frame counter is held at the beginning of its sequence, so that nothing else changes.
-/

namespace Nes

/-- A clock that counts a timer down and leaves open only what happens when it has run out comes to
that after as many ticks as the timer has left, and one. -/
private theorem iterate_countdown {Channel : Type} {clock expire : Channel → Channel}
    {timer : Channel → UInt16}
    (running : ∀ channel, 0 < timer channel →
      timer (clock channel) = timer channel - 1 ∧ expire (clock channel) = expire channel)
    (expired : ∀ channel, ¬ 0 < timer channel → clock channel = expire channel)
    (channel : Channel) : clock^[(timer channel).toNat + 1] channel = expire channel := by
  generalize ticks : (timer channel).toNat = left
  induction left generalizing channel with
  | zero =>
    rw [Function.iterate_one]
    refine expired channel ?_
    rw [UInt16.lt_iff_toNat_lt, ticks]
    exact Nat.lt_irrefl 0
  | succ left ih =>
    have some : 1 ≤ timer channel := by
      rw [UInt16.le_iff_toNat_le, ticks]
      exact Nat.succ_pos left
    have positive : 0 < timer channel := by
      rw [UInt16.lt_iff_toNat_lt, ticks]
      exact Nat.succ_pos left
    obtain ⟨counted, same⟩ := running channel positive
    have next : (timer (clock channel)).toNat = left := by
      rw [counted, UInt16.toNat_sub_of_le _ _ some, ticks]
      rfl
    rw [Function.iterate_succ_apply, ih _ next, same]

/-! ### Pulse -/

namespace Pulse

variable (pulse : Pulse)

theorem iterate_clockTimer_frame (count : Nat) :
    clockTimer^[count] pulse =
      { pulse with
        timer := (clockTimer^[count] pulse).timer
        sequencerStep := (clockTimer^[count] pulse).sequencerStep } := by
  induction count with
  | zero => rfl
  | succ count ih =>
    rw [Function.iterate_succ_apply', clockTimer_frame, ih]

/-- When the timer has run out the sequencer moves. -/
def expire : Pulse :=
  { pulse with timer := pulse.timerPeriod, sequencerStep := (pulse.sequencerStep - 1) &&& 7 }

theorem iterate_clockTimer_expire : clockTimer^[pulse.timer.toNat + 1] pulse = pulse.expire := by
  refine iterate_countdown (fun pulse running => ?_) (fun pulse expired => ?_) pulse
  · rw [clockTimer, if_pos running]
    exact ⟨rfl, rfl⟩
  · rw [clockTimer, if_neg expired, expire]

/-- Each wave form is up at its first step or at the one that comes next. -/
theorem exists_wave (first : pulse.sequencerStep = 0) :
    ∃ count, (clockTimer^[count] pulse).wave ≠ 0 := by
  have up : ∀ duty : Fin 4, dutyTable[duty.val][0] ≠ 0 ∨ dutyTable[duty.val][7] ≠ 0 := by decide
  rcases up ⟨pulse.duty.toNat % 4, Nat.mod_lt _ (by decide)⟩ with now | next
  · refine ⟨0, ?_⟩
    simp only [Function.iterate_zero, id_eq, wave, first]
    exact now
  · refine ⟨pulse.timer.toNat + 1, ?_⟩
    rw [iterate_clockTimer_expire]
    simp only [wave, expire, first]
    exact next

/-- The channel once it is switched on and given a note that the sweep does not mute. -/
def noted : Pulse := ((pulse.setEnabled true).write 1 0x08).write 3 0x01

theorem noted_muted : pulse.noted.muted = false := by
  have period : 8 ≤ pulse.noted.timerPeriod := by
    change 8 ≤ 0x0100 ||| (pulse.timerPeriod &&& 0x00FF)
    rw [UInt16.le_iff_toNat_le, UInt16.toNat_or]
    exact Nat.le_trans (by decide) Nat.left_le_or
  have target : pulse.noted.targetPeriod ≤ 0 := by
    change (if pulse.onesComplement then
      (pulse.noted.timerPeriod.toNat : Int) - pulse.noted.timerPeriod.toNat - 1
      else (pulse.noted.timerPeriod.toNat : Int) - pulse.noted.timerPeriod.toNat) ≤ 0
    split <;> omega
  rw [muted, Bool.or_eq_false_iff, decide_eq_false_iff_not, decide_eq_false_iff_not]
  exact ⟨UInt16.not_lt.mpr period, by omega⟩

/-- A note is heard at its volume before long. -/
theorem noted_heard : ∃ count, (clockTimer^[count] pulse.noted).output = pulse.envelope.output := by
  obtain ⟨count, up⟩ := pulse.noted.exists_wave rfl
  refine ⟨count, ?_⟩
  have frame := pulse.noted.iterate_clockTimer_frame count
  have muted : (clockTimer^[count] pulse.noted).muted = false := by
    rw [frame]
    exact pulse.noted_muted
  have active : (clockTimer^[count] pulse.noted).length.active = true := by
    rw [frame]
    rfl
  have quiet : ((clockTimer^[count] pulse.noted).wave == 0) = false := beq_false_of_ne up
  rw [output, active, muted, quiet, Bool.not_true, Bool.or_self, Bool.or_self,
    if_neg Bool.false_ne_true, frame]
  rfl

end Pulse

/-! ### Noise -/

namespace Noise

variable (noise : Noise)

theorem iterate_clockTimer_frame (count : Nat) :
    clockTimer^[count] noise =
      { noise with
        timer := (clockTimer^[count] noise).timer
        shift := (clockTimer^[count] noise).shift } := by
  induction count with
  | zero => rfl
  | succ count ih =>
    rw [Function.iterate_succ_apply', clockTimer_frame, ih]

/-- When the timer has run out the register shifts. -/
def expire : Noise :=
  { noise with timer := noise.period, shift := (noise.shift >>> 1) ||| (noise.feedback <<< 14) }

theorem iterate_clockTimer_expire : clockTimer^[noise.timer.toNat + 1] noise = noise.expire := by
  refine iterate_countdown (fun noise running => ?_) (fun noise expired => ?_) noise
  · rw [clockTimer, if_pos running]
    exact ⟨rfl, rfl⟩
  · rw [clockTimer, if_neg expired, expire]

/-- As long as the last two bits are set the long register is halved; otherwise its next last bit
is clear. -/
theorem expire_shift (long : noise.shortMode = false) (last : noise.shift.toNat % 2 = 1) :
    noise.expire.shift.toNat % 2 = 0 ∨ noise.expire.shift.toNat = noise.shift.toNat / 2 := by
  have halved := noise.halved_toNat
  have entering : noise.feedback.toNat = 1 ^^^ noise.shift.toNat / 2 % 2 := by
    rw [feedback, long, if_neg Bool.false_ne_true, UInt16.toNat_xor, UInt16.toNat_and,
      UInt16.toNat_and, halved]
    change noise.shift.toNat &&& 1 ^^^ noise.shift.toNat / 2 &&& 1 = _
    rw [Nat.and_one_is_mod, Nat.and_one_is_mod, last]
  rcases Nat.mod_two_eq_zero_or_one (noise.shift.toNat / 2) with next | next
  · left
    have one : noise.feedback = 1 := by
      rw [← UInt16.toNat_inj, entering, next]
      rfl
    rw [expire, one, UInt16.toNat_or, halved]
    change (noise.shift.toNat / 2 ||| 2 ^ 14) % 2 = 0
    rw [Nat.or_mod_two_pow (n := 1), Nat.pow_one, next]
    rfl
  · right
    have none : noise.feedback = 0 := by
      rw [← UInt16.toNat_inj, entering, next]
      rfl
    rw [expire, none]
    change ((noise.shift >>> 1) ||| 0).toNat = _
    rw [UInt16.or_zero, halved]

/-- In the long mode a clear bit comes to the end of the register. -/
theorem exists_clear (long : noise.shortMode = false) :
    ∃ count, (clockTimer^[count] noise).shift.toNat % 2 = 0 := by
  -- the register gets smaller with each shift that does not bring a clear bit
  generalize size : noise.shift.toNat = bound
  induction bound using Nat.strongRecOn generalizing noise with
  | ind bound ih =>
    rcases Nat.mod_two_eq_zero_or_one noise.shift.toNat with clear | last
    · exact ⟨0, clear⟩
    · rcases noise.expire_shift long last with clear | halved
      · exact ⟨noise.timer.toNat + 1, by rwa [iterate_clockTimer_expire]⟩
      · have smaller : noise.shift.toNat / 2 < bound := by omega
        obtain ⟨count, clear⟩ := ih _ smaller noise.expire long halved
        refine ⟨count + (noise.timer.toNat + 1), ?_⟩
        rwa [Function.iterate_add_apply, iterate_clockTimer_expire]

/-- The channel once it is switched on and given a note in the long mode. -/
def noted : Noise := ((noise.setEnabled true).write 2 0).write 3 0

/-- A note is heard at its volume before long. -/
theorem noted_heard : ∃ count, (clockTimer^[count] noise.noted).output = noise.envelope.output := by
  obtain ⟨count, clear⟩ := noise.noted.exists_clear rfl
  refine ⟨count, ?_⟩
  have frame := noise.noted.iterate_clockTimer_frame count
  have active : (clockTimer^[count] noise.noted).length.active = true := by
    rw [frame]
    rfl
  have sounding : (clockTimer^[count] noise.noted).shift &&& 1 = 0 := by
    rw [← UInt16.toNat_inj, UInt16.toNat_and]
    exact (Nat.and_one_is_mod _).trans clear
  rw [output, active, sounding, Bool.not_true, Bool.false_or, bne_self_eq_false,
    if_neg Bool.false_ne_true, frame]
  rfl

end Noise

namespace Apu

variable (apu : Apu)

/-! ### The unit -/

/-- A cycle in which the frame counter is kept before its first point, so that only the timers
run. -/
def rest : List Event := [.write 0x4017 0, .step fun _ => 0]

def rests : Nat → List Event
  | 0 => []
  | count + 1 => rests count ++ rest

/-- The pulse timers run in every second cycle. -/
theorem State.clockTimers_voices (apu : State) :
    apu.clockTimers.pulse1 = (if apu.oddCycle then apu.pulse1.clockTimer else apu.pulse1) ∧
      apu.clockTimers.pulse2 = (if apu.oddCycle then apu.pulse2.clockTimer else apu.pulse2) ∧
      apu.clockTimers.noise = apu.noise.clockTimer ∧ apu.clockTimers.oddCycle = !apu.oddCycle := by
  simp only [clockTimers]
  split <;> exact ⟨rfl, rfl, rfl, rfl⟩

theorem follow_rest :
    (follow apu rest).state.pulse1 =
        (if apu.state.oddCycle then apu.state.pulse1.clockTimer else apu.state.pulse1) ∧
      (follow apu rest).state.pulse2 =
        (if apu.state.oddCycle then apu.state.pulse2.clockTimer else apu.state.pulse2) ∧
      (follow apu rest).state.noise = apu.state.noise.clockTimer ∧
      (follow apu rest).state.oddCycle = !apu.state.oddCycle := by
  obtain ⟨phase, stepped⟩ := (apu.write 0x4017 0).step_state fun _ => 0
  have state : (follow apu rest).state = ((apu.write 0x4017 0).step fun _ => 0).2.state := rfl
  have held : (apu.state.write 0x4017 0).clockFrameCounter =
      { apu.state.write 0x4017 0 with frameCycle := 1 } := rfl
  rw [state, stepped]
  simp only [write, State.clock, State.clockDmc, held]
  exact State.clockTimers_voices _

theorem follow_rests_noise (count : Nat) :
    (follow apu (rests count)).state.noise = Noise.clockTimer^[count] apu.state.noise := by
  induction count with
  | zero => rfl
  | succ count ih =>
    obtain ⟨-, -, noise, -⟩ := (follow apu (rests count)).follow_rest
    rw [rests, follow_append, noise, ih, Function.iterate_succ_apply']

theorem follow_rests_pulses (count : Nat) :
    (follow apu (rests (2 * count))).state.pulse1 = Pulse.clockTimer^[count] apu.state.pulse1 ∧
      (follow apu (rests (2 * count))).state.pulse2 = Pulse.clockTimer^[count] apu.state.pulse2 ∧
      (follow apu (rests (2 * count))).state.oddCycle = apu.state.oddCycle := by
  induction count with
  | zero => exact ⟨rfl, rfl, rfl⟩
  | succ count ih =>
    obtain ⟨pulse1, pulse2, odd⟩ := ih
    obtain ⟨early1, early2, -, turned⟩ := (follow apu (rests (2 * count))).follow_rest
    obtain ⟨late1, late2, -, back⟩ := (follow (follow apu (rests (2 * count))) rest).follow_rest
    have two : rests (2 * (count + 1)) = rests (2 * count) ++ rest ++ rest := rfl
    rw [two, follow_append, follow_append, late1, late2, back, turned, early1, early2, pulse1,
      pulse2, odd, Function.iterate_succ_apply', Function.iterate_succ_apply', Bool.not_not]
    cases apu.state.oddCycle <;> exact ⟨rfl, rfl, rfl⟩

/-- The channels are switched on and given notes. -/
def notes : List Event :=
  [.write 0x4015 0x0F, .write 0x4001 0x08, .write 0x4003 0x01, .write 0x4005 0x08,
    .write 0x4007 0x01, .write 0x400E 0, .write 0x400F 0]

theorem follow_notes :
    (follow apu notes).state.pulse1 = apu.state.pulse1.noted ∧
      (follow apu notes).state.pulse2 = apu.state.pulse2.noted ∧
      (follow apu notes).state.noise = apu.state.noise.noted := ⟨rfl, rfl, rfl⟩

/-- A channel can be brought to play what its envelope puts out. -/
theorem exists_heard :
    (∃ events, (follow apu events).state.pulse1.output = apu.state.pulse1.envelope.output) ∧
      (∃ events, (follow apu events).state.pulse2.output = apu.state.pulse2.envelope.output) ∧
      ∃ events, (follow apu events).state.noise.output = apu.state.noise.envelope.output := by
  obtain ⟨pulse1, pulse2, noise⟩ := apu.follow_notes
  refine ⟨?_, ?_, ?_⟩
  · obtain ⟨count, heard⟩ := apu.state.pulse1.noted_heard
    obtain ⟨timed, -, -⟩ := (follow apu notes).follow_rests_pulses count
    exact ⟨notes ++ rests (2 * count), by rw [follow_append, timed, pulse1, heard]⟩
  · obtain ⟨count, heard⟩ := apu.state.pulse2.noted_heard
    obtain ⟨-, timed, -⟩ := (follow apu notes).follow_rests_pulses count
    exact ⟨notes ++ rests (2 * count), by rw [follow_append, timed, pulse2, heard]⟩
  · obtain ⟨count, heard⟩ := apu.state.noise.noted_heard
    have timed := (follow apu notes).follow_rests_noise count
    exact ⟨notes ++ rests count, by rw [follow_append, timed, noise, heard]⟩

/-- Volumes of zero, which are not constant. -/
def falling : List Event := [.write 0x4000 0, .write 0x4004 0, .write 0x400C 0]

theorem follow_falling :
    (follow apu falling).state.pulse1.envelope = apu.state.pulse1.envelope.write 0 ∧
      (follow apu falling).state.pulse2.envelope = apu.state.pulse2.envelope.write 0 ∧
      (follow apu falling).state.noise.envelope = apu.state.noise.envelope.write 0 :=
  ⟨rfl, rfl, rfl⟩

/-- A channel that can be brought to play its envelope, with a falling volume or without, stays
within four bits only if its envelope fits. -/
theorem fits_of_quiet (envelope : Apu → Envelope) (output : Apu → UInt8)
    (heard : ∀ apu, ∃ events, output (follow apu events) = (envelope apu).output)
    (fallen : ∀ apu, envelope (follow apu falling) = (envelope apu).write 0)
    (quiet : ∀ events, output (follow apu events) ≤ 15) : (envelope apu).Fits := by
  by_contra wide
  rcases Envelope.loud_of_not_fits wide with loud | loud
  · obtain ⟨events, same⟩ := heard apu
    have low := quiet events
    rw [same] at low
    exact UInt8.not_le.mpr loud low
  · obtain ⟨events, same⟩ := heard (follow apu falling)
    have low := quiet (falling ++ events)
    rw [follow_append, same, fallen] at low
    exact UInt8.not_le.mpr loud low

theorem fits_of_inRange (quiet : ∀ events, (follow apu events).state.InRange) :
    apu.state.Fits where
  pulse1 := apu.fits_of_quiet (·.state.pulse1.envelope) (·.state.pulse1.output)
    (fun apu => apu.exists_heard.1) (fun apu => apu.follow_falling.1)
    fun events => (quiet events).pulse1
  pulse2 := apu.fits_of_quiet (·.state.pulse2.envelope) (·.state.pulse2.output)
    (fun apu => apu.exists_heard.2.1) (fun apu => apu.follow_falling.2.1)
    fun events => (quiet events).pulse2
  noise := apu.fits_of_quiet (·.state.noise.envelope) (·.state.noise.output)
    (fun apu => apu.exists_heard.2.2) (fun apu => apu.follow_falling.2.2)
    fun events => (quiet events).noise

/-! ### Records -/

/-- An accepted record is loaded into any unit. The triangle and the samples stay in their range
from then on, whatever happens, and the other channels do exactly if the recorded envelopes fit. -/
theorem accepted_inRange_iff {state : State} (accepted : state.validate = .ok ()) :
    ∃ loaded, apu.load state = .ok loaded ∧
      (∀ events, (follow loaded events).state.triangle.output ≤ 15 ∧
        (follow loaded events).state.dmc.output ≤ 127) ∧
      ((∀ events, (follow loaded events).state.InRange) ↔ state.Fits) := by
  obtain ⟨bounded, phase⟩ := State.validate_iff.mp accepted
  have later (events : List Event) : (follow (apu.restore state) events).state.Bounded :=
    follow_bounded bounded events
  refine ⟨apu.restore state, load_bounded bounded phase, ?_, ?_⟩
  · intro events
    exact ⟨Triangle.output_le _, (later events).dmc.outputLevel⟩
  · constructor
    · intro quiet
      exact (apu.restore state).fits_of_inRange quiet
    · intro fits events
      have kept : (follow (apu.restore state) events).state.Fits := follow_fits fits events
      exact kept.inRange (later events)

/-- The first pulse plays a note of constant volume. -/
def State.playing (volume : UInt8) : State :=
  { pulse1 :=
      { Pulse.first with
        duty := 3
        envelope := { constant := true, volume }
        length := { enabled := true, value := 254 }
        timerPeriod := 0x100 } }

theorem State.playing_accepted (volume : UInt8) : (playing volume).validate = .ok () := by
  obtain ⟨⟨first, pulse2, triangle, noise, dmc⟩, frameCycle⟩ := powerOn_bounded
  have pulse1 : (playing volume).pulse1.Bounded :=
    ⟨(by decide : (3 : UInt8) ≤ 3), first.sequencerStep, first.sweepShift, first.sweepPeriod,
      first.sweepDivider, (by decide : (0x100 : UInt16) ≤ 0x7FF)⟩
  have phase : ({} : Phase).valid = true := by decide +kernel
  exact validate_iff.mpr ⟨⟨⟨pulse1, pulse2, triangle, noise, dmc⟩, frameCycle⟩, phase⟩

theorem accepted_inRange_iff_full :
    (State.playing 15).validate = .ok () ∧
      ∃ loaded, (powerOn {}).load (State.playing 15) = .ok loaded ∧
        ∀ events, (follow loaded events).state.InRange := by
  have accepted := State.playing_accepted 15
  obtain ⟨loaded, success, -, inRange⟩ := (powerOn {}).accepted_inRange_iff accepted
  have fresh : ({} : Envelope).Fits := ⟨by decide, nofun⟩
  exact ⟨accepted, loaded, success, inRange.mpr ⟨⟨by decide, fun _ => by decide⟩, fresh, fresh⟩⟩

/-- A note of volume 200 is accepted, and the mixer cuts it off. -/
theorem playing_tooLoud :
    (State.playing 200).validate = .ok () ∧
      ∃ loaded, (powerOn {}).load (State.playing 200) = .ok loaded ∧
        (follow loaded []).state.pulse1.output = 200 ∧
        Mixer.pulseLevel (follow loaded []).state.pulse1.output
          (follow loaded []).state.pulse2.output = 30 := by
  have accepted := State.playing_accepted 200
  obtain ⟨bounded, phase⟩ := State.validate_iff.mp accepted
  exact ⟨accepted, (powerOn {}).restore (State.playing 200), load_bounded bounded phase,
    by decide, by decide⟩

end Apu
end Nes
