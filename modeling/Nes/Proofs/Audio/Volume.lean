import Nes.Proofs.Audio.Events

/-!
How loud a channel can be. The tone channels have four bits and the sample channel seven, so that
the places on the mixer's curves do not pass their ends. The triangle and the samples keep to that
by themselves, the others as long as their envelopes do.
-/

namespace Nes

/-! ### Envelopes -/

namespace Envelope

/-- The level has four bits, and so has the volume where it is the level. -/
structure Fits (envelope : Envelope) : Prop where
  decay : envelope.decay ≤ 15
  volume : envelope.constant = true → envelope.volume ≤ 15

variable {envelope : Envelope}

theorem Fits.write (fits : envelope.Fits) (data : UInt8) : (envelope.write data).Fits :=
  ⟨fits.decay, fun _ => UInt8.and_le_right⟩

theorem Fits.restart (fits : envelope.Fits) : Fits { envelope with start := true } :=
  ⟨fits.decay, fits.volume⟩

theorem Fits.nextDecay_le (fits : envelope.Fits) : envelope.nextDecay ≤ 15 := by
  have decay := fits.decay
  unfold nextDecay
  grind

theorem Fits.clock (fits : envelope.Fits) : envelope.clock.Fits := by
  unfold Envelope.clock
  split
  · exact ⟨(by decide : (15 : UInt8) ≤ 15), fits.volume⟩
  · split
    · exact ⟨fits.decay, fits.volume⟩
    · exact ⟨fits.nextDecay_le, fits.volume⟩

theorem Fits.output_le (fits : envelope.Fits) : envelope.output ≤ 15 := by
  unfold output
  split
  · rename_i constant
    exact fits.volume constant
  · exact fits.decay

/-- What does not fit is heard as it is or once the volume is no longer constant. -/
theorem loud_of_not_fits (wide : ¬ envelope.Fits) :
    15 < envelope.output ∨ 15 < (envelope.write 0).output := by
  by_cases decay : envelope.decay ≤ 15
  · left
    by_contra quiet
    refine wide ⟨decay, fun constant => ?_⟩
    rw [output, if_pos constant] at quiet
    exact UInt8.not_lt.mp quiet
  · exact .inr (UInt8.not_le.mp decay)

end Envelope

/-! ### Channels -/

namespace Pulse

variable {pulse : Pulse}

theorem write_fits (fits : pulse.envelope.Fits) (register : UInt16) (data : UInt8) :
    (pulse.write register data).envelope.Fits := by
  unfold write
  split
  · exact fits.write data
  · exact fits
  · exact fits
  · exact fits.restart

theorem clockTimer_frame (pulse : Pulse) :
    pulse.clockTimer =
      { pulse with
        timer := pulse.clockTimer.timer
        sequencerStep := pulse.clockTimer.sequencerStep } := by
  unfold clockTimer
  split <;> rfl

theorem clockTimer_envelope (pulse : Pulse) : pulse.clockTimer.envelope = pulse.envelope := by
  rw [clockTimer_frame]

theorem clockSweep_envelope (pulse : Pulse) : pulse.clockSweep.envelope = pulse.envelope := by
  unfold clockSweep
  split <;> rfl

theorem output_le (fits : pulse.envelope.Fits) : pulse.output ≤ 15 := by
  unfold output
  split
  · decide
  · exact fits.output_le

end Pulse

namespace Noise

variable {noise : Noise}

theorem write_fits (fits : noise.envelope.Fits) (register : UInt16) (data : UInt8) :
    (noise.write register data).envelope.Fits := by
  unfold write
  split
  · exact fits.write data
  · exact fits
  · exact fits
  · exact fits.restart

theorem clockTimer_frame (noise : Noise) :
    noise.clockTimer =
      { noise with timer := noise.clockTimer.timer, shift := noise.clockTimer.shift } := by
  unfold clockTimer
  split <;> rfl

theorem clockTimer_envelope (noise : Noise) : noise.clockTimer.envelope = noise.envelope := by
  rw [clockTimer_frame]

theorem output_le (fits : noise.envelope.Fits) : noise.output ≤ 15 := by
  unfold output
  split
  · decide
  · exact fits.output_le

end Noise

/-- The wave itself has four bits. -/
theorem Triangle.output_le (triangle : Triangle) : triangle.output ≤ 15 := by
  have wave : waveAt triangle.sequencerStep ≤ 15 :=
    byte_all (fun step => waveAt step ≤ 15) (by decide +kernel) _
  unfold output
  split
  · decide
  · exact wave

namespace Apu.State

variable {apu : State}

/-! ### The unit -/

/-- The three envelopes fit. -/
structure Fits (apu : State) : Prop where
  pulse1 : apu.pulse1.envelope.Fits
  pulse2 : apu.pulse2.envelope.Fits
  noise : apu.noise.envelope.Fits

theorem powerOn_fits : ({} : State).Fits := by
  have fresh : ({} : Envelope).Fits := ⟨by decide, nofun⟩
  exact ⟨fresh, fresh, fresh⟩

theorem Fits.clockQuarterFrame (fits : apu.Fits) : apu.clockQuarterFrame.Fits :=
  ⟨fits.pulse1.clock, fits.pulse2.clock, fits.noise.clock⟩

theorem Fits.clockHalfFrame (fits : apu.Fits) : apu.clockHalfFrame.Fits := by
  have pulse1 := apu.pulse1.clockLength.clockSweep_envelope
  have pulse2 := apu.pulse2.clockLength.clockSweep_envelope
  exact ⟨pulse1 ▸ fits.pulse1, pulse2 ▸ fits.pulse2, fits.noise⟩

theorem Fits.writeFrameCounter (fits : apu.Fits) (data : UInt8) :
    (apu.writeFrameCounter data).Fits := by
  simp only [State.writeFrameCounter]
  split
  · exact .clockHalfFrame (.clockQuarterFrame ⟨fits.pulse1, fits.pulse2, fits.noise⟩)
  · exact ⟨fits.pulse1, fits.pulse2, fits.noise⟩

theorem Fits.write (fits : apu.Fits) (address : UInt16) (data : UInt8) :
    (apu.write address data).Fits := by
  have counter := fits.writeFrameCounter data
  have written := apu.written address data
  obtain ⟨pulse1, pulse2, noise⟩ := fits
  generalize apu.write address data = next at written ⊢
  cases written with
  | nothing | triangle | dmc | switches => exact ⟨pulse1, pulse2, noise⟩
  | pulse1 => exact ⟨Pulse.write_fits pulse1 address data, pulse2, noise⟩
  | pulse2 => exact ⟨pulse1, Pulse.write_fits pulse2 address data, noise⟩
  | noise => exact ⟨pulse1, pulse2, Noise.write_fits noise address data⟩
  | counter => exact counter

theorem Fits.clockSequence (fits : apu.Fits) : apu.clockSequence.Fits := by
  have quarter := fits.clockQuarterFrame
  have half := quarter.clockHalfFrame
  simp only [State.clockSequence]
  repeat' split
  · exact quarter
  · exact half
  · exact ⟨half.pulse1, half.pulse2, half.noise⟩
  · exact half
  · exact fits

theorem Fits.clockFrameCounter (fits : apu.Fits) : apu.clockFrameCounter.Fits := by
  obtain ⟨pulse1, pulse2, noise⟩ :=
    @Fits.clockSequence { apu with frameCycle := apu.frameCycle + 1 }
      ⟨fits.pulse1, fits.pulse2, fits.noise⟩
  simp only [State.clockFrameCounter]
  split <;> exact ⟨pulse1, pulse2, noise⟩

theorem Fits.clockTimers (fits : apu.Fits) : apu.clockTimers.Fits := by
  have pulse1 := apu.pulse1.clockTimer_envelope
  have pulse2 := apu.pulse2.clockTimer_envelope
  have noise := apu.noise.clockTimer_envelope
  simp only [State.clockTimers]
  split
  · exact ⟨pulse1 ▸ fits.pulse1, pulse2 ▸ fits.pulse2, noise ▸ fits.noise⟩
  · exact ⟨fits.pulse1, fits.pulse2, noise ▸ fits.noise⟩

theorem Fits.clock (fits : apu.Fits) (memory : UInt16 → UInt8) : (apu.clock memory).2.Fits := by
  obtain ⟨pulse1, pulse2, noise⟩ := fits.clockFrameCounter.clockTimers
  exact ⟨pulse1, pulse2, noise⟩

/-- The outputs have the widths that the mixer counts on, and its curves are long enough. -/
structure InRange (apu : State) : Prop where
  pulse1 : apu.pulse1.output ≤ 15
  pulse2 : apu.pulse2.output ≤ 15
  triangle : apu.triangle.output ≤ 15
  noise : apu.noise.output ≤ 15
  dmc : apu.dmc.output ≤ 127
  pulseLevel : Mixer.pulseLevel apu.pulse1.output apu.pulse2.output =
    apu.pulse1.output.toNat + apu.pulse2.output.toNat
  wideLevel : Mixer.wideLevel apu.triangle.output apu.noise.output apu.dmc.output =
    3 * apu.triangle.output.toNat + 2 * apu.noise.output.toNat + apu.dmc.output.toNat

theorem Fits.inRange (fits : apu.Fits) (bounded : apu.Bounded) : apu.InRange := by
  have pulse1 := Pulse.output_le fits.pulse1
  have pulse2 := Pulse.output_le fits.pulse2
  have triangle := apu.triangle.output_le
  have noise := Noise.output_le fits.noise
  have dmc : apu.dmc.output ≤ 127 := bounded.dmc.outputLevel
  refine ⟨pulse1, pulse2, triangle, noise, dmc, ?_, ?_⟩
  · rw [UInt8.le_iff_toNat_le] at pulse1 pulse2
    exact Nat.min_eq_left (Nat.add_le_add pulse1 pulse2)
  · rw [UInt8.le_iff_toNat_le] at triangle noise dmc
    have tones := Nat.add_le_add (Nat.mul_le_mul_left 3 triangle) (Nat.mul_le_mul_left 2 noise)
    exact Nat.min_eq_left (Nat.add_le_add tones dmc)

end Apu.State

namespace Apu

theorem perform_fits {apu : Apu} (fits : apu.state.Fits) (event : Event) :
    (perform apu event).state.Fits := by
  cases event with
  | write address data => exact fits.write address data
  | step memory =>
    obtain ⟨phase, stepped⟩ := apu.step_state memory
    obtain ⟨pulse1, pulse2, noise⟩ := fits.clock memory
    rw [perform, stepped]
    exact ⟨pulse1, pulse2, noise⟩
  | readStatus | reset => exact ⟨fits.pulse1, fits.pulse2, fits.noise⟩

theorem follow_fits {start : Apu} (fits : start.state.Fits) (events : List Event) :
    (follow start events).state.Fits := by
  induction events using List.reverseRecOn with
  | nil => exact fits
  | append_singleton events event ih =>
    rw [follow_snoc]
    exact perform_fits ih event

end Apu
end Nes
