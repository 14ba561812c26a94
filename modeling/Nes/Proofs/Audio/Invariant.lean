import Nes.Proofs.Audio.Volume
import Nes.Proofs.Bits

/-!
What is true of a sound unit at every moment since power-on, whatever is written to it and whatever
it plays. No field is wider than the register behind it, the outputs stay in their range, a channel
that is switched off is silent until it is switched on again, and neither source of interrupts asks
for one that it may not raise.
-/

namespace Nes

/-! ### Lengths -/

namespace LengthCounter

/-- What an operation other than switching does to a length: an ended note of a channel that is off
stays ended. -/
structure Follows (before after : LengthCounter) : Prop where
  enabled : after.enabled = before.enabled
  ended : before.enabled = false → before.value = 0 → after.value = 0

theorem Follows.refl (counter : LengthCounter) : Follows counter counter :=
  ⟨rfl, fun _ ended => ended⟩

theorem halt_follows (counter : LengthCounter) (halt : Bool) :
    Follows counter { counter with halt } := ⟨rfl, fun _ ended => ended⟩

theorem load_follows (counter : LengthCounter) (data : UInt8) :
    Follows counter (counter.load data) := by
  unfold load
  split
  · rename_i on
    exact ⟨rfl, fun off => absurd (on.symm.trans off) (by decide)⟩
  · exact .refl counter

theorem clock_follows (counter : LengthCounter) : Follows counter counter.clock := by
  unfold clock
  split
  · rename_i running
    refine ⟨rfl, fun _ ended => ?_⟩
    rw [ended] at running
    simp at running
  · exact .refl counter

end LengthCounter

open LengthCounter (Follows)

namespace Pulse

theorem write_length (pulse : Pulse) (register : UInt16) (data : UInt8) :
    Follows pulse.length (pulse.write register data).length := by
  unfold write
  split
  · exact pulse.length.halt_follows _
  · exact .refl _
  · exact .refl _
  · exact pulse.length.load_follows data

theorem clockTimer_length (pulse : Pulse) : pulse.clockTimer.length = pulse.length := by
  rw [clockTimer_frame]

theorem clockSweep_length (pulse : Pulse) : pulse.clockSweep.length = pulse.length := by
  unfold clockSweep
  split <;> rfl

theorem output_ended {pulse : Pulse} (ended : pulse.length.value = 0) : pulse.output = 0 := by
  rw [output, LengthCounter.active, ended]
  rfl

end Pulse

namespace Triangle

theorem write_length (triangle : Triangle) (register : UInt16) (data : UInt8) :
    Follows triangle.length (triangle.write register data).length := by
  unfold write
  split
  · exact triangle.length.halt_follows _
  · exact .refl _
  · exact .refl _
  · exact triangle.length.load_follows data

theorem clockTimer_length (triangle : Triangle) : triangle.clockTimer.length = triangle.length := by
  unfold clockTimer
  repeat' split
  all_goals rfl

theorem output_ended {triangle : Triangle} (ended : triangle.length.value = 0) :
    triangle.output = 0 := by
  rw [output, sounding, LengthCounter.active, ended]
  rfl

end Triangle

namespace Noise

theorem write_length (noise : Noise) (register : UInt16) (data : UInt8) :
    Follows noise.length (noise.write register data).length := by
  unfold write
  split
  · exact noise.length.halt_follows _
  · exact .refl _
  · exact .refl _
  · exact noise.length.load_follows data

theorem clockTimer_length (noise : Noise) : noise.clockTimer.length = noise.length := by
  rw [clockTimer_frame]

theorem output_ended {noise : Noise} (ended : noise.length.value = 0) : noise.output = 0 := by
  rw [output, LengthCounter.active, ended]
  rfl

end Noise

/-! ### Sample interrupt -/

namespace Dmc

/-- No interrupt waits while it is switched off. -/
def Masked (dmc : Dmc) : Prop := dmc.irqEnabled = false → dmc.irqPending = false

variable {dmc : Dmc}

theorem Masked.write (masked : dmc.Masked) (register : UInt16) (data : UInt8) :
    (dmc.write register data).Masked := by
  unfold Dmc.write
  split
  · intro off
    simp only at off ⊢
    rw [off, Bool.and_false]
  all_goals exact masked

theorem setEnabled_masked (dmc : Dmc) (enabled : Bool) : (dmc.setEnabled enabled).Masked := by
  simp only [Dmc.setEnabled]
  repeat' split
  all_goals exact fun _ => rfl

theorem Masked.accept (masked : dmc.Masked) (byte : UInt8) : (dmc.accept byte).Masked := by
  simp only [Dmc.accept]
  repeat' split
  · exact masked
  · exact masked
  · rename_i on
    exact fun off => absurd (on.symm.trans off) (by decide)
  · exact masked

theorem Masked.clockOutput (masked : dmc.Masked) : dmc.clockOutput.Masked := by
  simp only [Dmc.clockOutput, shiftOut, refill]
  repeat' split
  all_goals exact masked

theorem Masked.step (masked : dmc.Masked) (memory : UInt16 → UInt8) :
    (dmc.step memory).2.Masked := by
  unfold Dmc.step
  split
  · exact (masked.accept _).clockOutput
  · exact masked.clockOutput

end Dmc

/-! ### Tones -/

/-- The channels that play notes. -/
inductive Tone where
  | pulse1
  | pulse2
  | triangle
  | noise

namespace Tone

def length (apu : Apu.State) : Tone → LengthCounter
  | pulse1 => apu.pulse1.length
  | pulse2 => apu.pulse2.length
  | triangle => apu.triangle.length
  | noise => apu.noise.length

def output (apu : Apu.State) : Tone → UInt8
  | pulse1 => apu.pulse1.output
  | pulse2 => apu.pulse2.output
  | triangle => apu.triangle.output
  | noise => apu.noise.output

/-- The place of the channel's switch and of its status bit. -/
def place : Tone → Nat
  | pulse1 => 0
  | pulse2 => 1
  | triangle => 2
  | noise => 3

def bit : Tone → UInt8
  | pulse1 => 0x01
  | pulse2 => 0x02
  | triangle => 0x04
  | noise => 0x08

theorem toNat_bit (tone : Tone) : tone.bit.toNat = 2 ^ tone.place := by
  cases tone <;> rfl

variable {apu : Apu.State} {tone : Tone}

theorem output_ended (ended : (tone.length apu).value = 0) : tone.output apu = 0 := by
  cases tone with
  | pulse1 | pulse2 => exact Pulse.output_ended ended
  | triangle => exact Triangle.output_ended ended
  | noise => exact Noise.output_ended ended

private theorem testBit_flag (on : Bool) (mask : UInt8) (place : Nat) :
    (if on then mask else 0).toNat.testBit place = (on && mask.toNat.testBit place) := by
  cases on with
  | true => rw [if_pos rfl, Bool.true_and]
  | false => rw [if_neg Bool.false_ne_true, Bool.false_and, UInt8.toNat_zero, Nat.zero_testBit]

/-- The status shows whether the note has ended. -/
theorem status_bit (openBus : UInt8) :
    (apu.status openBus &&& tone.bit != 0) = (tone.length apu).active := by
  rw [Bits.and_single tone.place _ tone.toNat_bit]
  simp only [Apu.State.status, UInt8.toNat_or, UInt8.toNat_and, Nat.testBit_or, Nat.testBit_and,
    testBit_flag]
  cases tone <;> simp [place, length, Nat.testBit]

end Tone

namespace Apu.State

variable {apu before after : State}

/-! ### Lengths of the unit -/

theorem clockQuarterFrame_length (apu : State) (tone : Tone) :
    tone.length apu.clockQuarterFrame = tone.length apu := by
  cases tone <;> rfl

theorem clockHalfFrame_length (apu : State) (tone : Tone) :
    tone.length apu.clockHalfFrame = (tone.length apu).clock := by
  cases tone with
  | pulse1 => exact apu.pulse1.clockLength.clockSweep_length
  | pulse2 => exact apu.pulse2.clockLength.clockSweep_length
  | triangle | noise => rfl

theorem enableChannels_length (apu : State) (data : UInt8) (tone : Tone) :
    tone.length (apu.enableChannels data) =
      (tone.length apu).setEnabled (data &&& tone.bit != 0) := by
  cases tone <;> rfl

theorem clockTimers_length (apu : State) (tone : Tone) :
    tone.length apu.clockTimers = tone.length apu := by
  simp only [clockTimers]
  split
  · cases tone with
    | pulse1 => exact apu.pulse1.clockTimer_length
    | pulse2 => exact apu.pulse2.clockTimer_length
    | triangle => exact apu.triangle.clockTimer_length
    | noise => exact apu.noise.clockTimer_length
  · cases tone with
    | pulse1 | pulse2 => rfl
    | triangle => exact apu.triangle.clockTimer_length
    | noise => exact apu.noise.clockTimer_length

theorem clockDmc_length (apu : State) (memory : UInt16 → UInt8) (tone : Tone) :
    tone.length (apu.clockDmc memory).2 = tone.length apu := by
  cases tone <;> rfl

/-- The frame counter and the sampler have no part in the lengths. -/
theorem timing_length (apu : State) (frameCycle : UInt32) (fiveStep irqInhibit frameIrq : Bool)
    (samplePhase : Phase) (tone : Tone) :
    tone.length { apu with frameCycle, fiveStep, irqInhibit, frameIrq, samplePhase } =
      tone.length apu := by
  cases tone <;> rfl

/-- Both clocks of the frame counter together. -/
theorem clockFrames_length (apu : State) (tone : Tone) :
    Follows (tone.length apu) (tone.length apu.clockQuarterFrame.clockHalfFrame) := by
  rw [clockHalfFrame_length, clockQuarterFrame_length]
  exact LengthCounter.clock_follows _

theorem clockFrameCounter_length (apu : State) (tone : Tone) :
    Follows (tone.length apu) (tone.length apu.clockFrameCounter) := by
  have counted : tone.length { apu with frameCycle := apu.frameCycle + 1 } = tone.length apu :=
    timing_length ..
  have both := clockFrames_length { apu with frameCycle := apu.frameCycle + 1 } tone
  have sequence : Follows (tone.length apu)
      (tone.length (clockSequence { apu with frameCycle := apu.frameCycle + 1 })) := by
    rw [counted] at both
    simp only [clockSequence]
    repeat' split
    · rw [clockQuarterFrame_length, counted]
      exact .refl _
    · exact both
    · rw [timing_length]
      exact both
    · exact both
    · rw [counted]
      exact .refl _
  simp only [clockFrameCounter]
  split
  · rw [timing_length]
    exact sequence
  · exact sequence

theorem clock_length (apu : State) (memory : UInt16 → UInt8) (tone : Tone) :
    Follows (tone.length apu) (tone.length (apu.clock memory).2) := by
  rw [clock, clockDmc_length, clockTimers_length]
  exact apu.clockFrameCounter_length tone

/-- No write but that of the switches switches a channel. -/
theorem write_length (apu : State) {address : UInt16} (other : address ≠ 0x4015) (data : UInt8)
    (tone : Tone) : Follows (tone.length apu) (tone.length (apu.write address data)) := by
  have counter : Follows (tone.length apu) (tone.length (apu.writeFrameCounter data)) := by
    simp only [writeFrameCounter]
    split
    · rw [clockHalfFrame_length, clockQuarterFrame_length, timing_length]
      exact LengthCounter.clock_follows _
    · rw [timing_length]
      exact .refl _
  have written := apu.written address data
  generalize apu.write address data = next at written ⊢
  cases written with
  | nothing => exact .refl _
  | pulse1 =>
    cases tone with
    | pulse1 => exact apu.pulse1.write_length address data
    | pulse2 | triangle | noise => exact .refl _
  | pulse2 =>
    cases tone with
    | pulse2 => exact apu.pulse2.write_length address data
    | pulse1 | triangle | noise => exact .refl _
  | triangle =>
    cases tone with
    | triangle => exact apu.triangle.write_length address data
    | pulse1 | pulse2 | noise => exact .refl _
  | noise =>
    cases tone with
    | noise => exact apu.noise.write_length address data
    | pulse1 | pulse2 | triangle => exact .refl _
  | dmc => cases tone <;> exact .refl _
  | switches place => exact absurd place other
  | counter => exact counter

/-- The channels are on as the switches say, and those that are off have no note. -/
def Wired (switches : UInt8) (apu : State) : Prop :=
  ∀ tone : Tone, (tone.length apu).enabled = (switches &&& tone.bit != 0) ∧
    ((tone.length apu).enabled = false → (tone.length apu).value = 0)

theorem Wired.follows {switches : UInt8} (wired : before.Wired switches)
    (follows : ∀ tone : Tone, Follows (tone.length before) (tone.length after)) :
    after.Wired switches := by
  intro tone
  obtain ⟨enabled, ended⟩ := wired tone
  obtain ⟨same, kept⟩ := follows tone
  refine ⟨same.trans enabled, fun off => ?_⟩
  rw [same] at off
  exact kept off (ended off)

theorem enableChannels_wired (apu : State) (data : UInt8) :
    (apu.enableChannels data).Wired data := by
  intro tone
  rw [enableChannels_length, LengthCounter.setEnabled]
  split
  · rename_i on
    exact ⟨on.symm, fun off => nomatch off⟩
  · rename_i off
    exact ⟨((Bool.not_eq_true _).mp off).symm, fun _ => rfl⟩

/-! ### Frame counter and interrupts -/

/-- The frame counter is within its sequence, and no interrupt waits that may not be raised. -/
structure Ordered (apu : State) : Prop where
  frameCycle : apu.frameCycle ≤ apu.lastStep
  frameIrq : apu.irqInhibit = true → apu.frameIrq = false
  dmc : apu.dmc.Masked

theorem powerOn_ordered : ({} : State).Ordered := ⟨by decide, nofun, fun _ => rfl⟩

theorem restarted_le (apu : State) : 0 ≤ apu.lastStep := by
  unfold lastStep
  split <;> decide

theorem Ordered.writeFrameCounter (ordered : apu.Ordered) (data : UInt8) :
    (apu.writeFrameCounter data).Ordered := by
  have inhibited : (data &&& 0x40 != 0) = true →
      (apu.frameIrq && !(data &&& 0x40 != 0)) = false := by
    intro inhibits
    rw [inhibits, Bool.not_true, Bool.and_false]
  simp only [State.writeFrameCounter]
  split <;> exact ⟨restarted_le _, inhibited, ordered.dmc⟩

theorem Ordered.write (ordered : apu.Ordered) (address : UInt16) (data : UInt8) :
    (apu.write address data).Ordered := by
  have counter := ordered.writeFrameCounter data
  have written := apu.written address data
  obtain ⟨frameCycle, frameIrq, dmc⟩ := ordered
  generalize apu.write address data = next at written ⊢
  cases written with
  | nothing | pulse1 | pulse2 | triangle | noise => exact ⟨frameCycle, frameIrq, dmc⟩
  | dmc => exact ⟨frameCycle, frameIrq, dmc.write address data⟩
  | switches => exact ⟨frameCycle, frameIrq, apu.dmc.setEnabled_masked _⟩
  | counter => exact counter

/-- The sequence leaves its place and its mode alone. -/
theorem clockSequence_frame (apu : State) :
    (apu.clockSequence.frameCycle, apu.clockSequence.fiveStep, apu.clockSequence.dmc) =
      (apu.frameCycle, apu.fiveStep, apu.dmc) := by
  simp only [clockSequence]
  repeat' split
  all_goals rfl

/-- An interrupt is raised only if it is not inhibited. -/
theorem clockSequence_frameIrq (inhibited : apu.irqInhibit = true → apu.frameIrq = false) :
    apu.clockSequence.irqInhibit = true → apu.clockSequence.frameIrq = false := by
  simp only [clockSequence]
  split
  · exact inhibited
  · split
    · exact inhibited
    · split
      · split
        · rename_i raised
          intro inhibits
          rw [Bool.and_eq_true] at raised
          have free := raised.2
          rw [inhibits] at free
          cases free
        · exact inhibited
      · exact inhibited

theorem Ordered.clockFrameCounter (ordered : apu.Ordered) : apu.clockFrameCounter.Ordered := by
  have frame := clockSequence_frame { apu with frameCycle := apu.frameCycle + 1 }
  have frameIrq := @clockSequence_frameIrq { apu with frameCycle := apu.frameCycle + 1 }
    ordered.frameIrq
  have dmc : (clockSequence { apu with frameCycle := apu.frameCycle + 1 }).dmc.Masked := by
    rw [(Prod.mk.inj (Prod.mk.inj frame).2).2]
    exact ordered.dmc
  simp only [State.clockFrameCounter]
  split
  · exact ⟨restarted_le _, frameIrq, dmc⟩
  · rename_i inside
    exact ⟨UInt32.not_lt.mp inside, frameIrq, dmc⟩

theorem Ordered.clockTimers (ordered : apu.Ordered) : apu.clockTimers.Ordered := by
  obtain ⟨frameCycle, frameIrq, dmc⟩ := ordered
  simp only [State.clockTimers]
  split <;> exact ⟨frameCycle, frameIrq, dmc⟩

theorem Ordered.clockDmc (ordered : apu.Ordered) (memory : UInt16 → UInt8) :
    (apu.clockDmc memory).2.Ordered :=
  ⟨ordered.frameCycle, ordered.frameIrq, ordered.dmc.step memory⟩

theorem Ordered.clock (ordered : apu.Ordered) (memory : UInt16 → UInt8) :
    (apu.clock memory).2.Ordered :=
  ordered.clockFrameCounter.clockTimers.clockDmc memory

theorem reset_ordered (apu : State) : apu.reset.Ordered :=
  ⟨restarted_le _, fun _ => rfl, fun _ => rfl⟩

/-! ### Everything together -/

/-- Everything that holds of a unit at all times, with the byte last written to the switches. -/
structure Consistent (switches : UInt8) (apu : State) : Prop where
  pulse1 : apu.pulse1.validate = .ok ()
  pulse2 : apu.pulse2.validate = .ok ()
  triangle : apu.triangle.validate = .ok ()
  noise : apu.noise.validate = .ok ()
  dmc : apu.dmc.validate = .ok ()
  fourStep : apu.fiveStep = false → apu.frameCycle ≤ 29829
  fiveStep : apu.fiveStep = true → apu.frameCycle ≤ 37281
  /-- The mixer cuts nothing off. -/
  inRange : apu.InRange
  off : ∀ tone : Tone, switches &&& tone.bit = 0 →
    (tone.length apu).value = 0 ∧ tone.output apu = 0 ∧
      ∀ openBus, apu.status openBus &&& tone.bit = 0
  frameIrq : apu.irqInhibit = true → apu.frameIrq = false
  dmcIrq : apu.dmc.irqEnabled = false → apu.dmc.irqPending = false

theorem Wired.silent {switches : UInt8} (wired : apu.Wired switches) {tone : Tone}
    (off : switches &&& tone.bit = 0) :
    (tone.length apu).value = 0 ∧ tone.output apu = 0 ∧
      ∀ openBus, apu.status openBus &&& tone.bit = 0 := by
  obtain ⟨enabled, ended⟩ := wired tone
  rw [off, bne_self_eq_false] at enabled
  have value := ended enabled
  refine ⟨value, tone.output_ended value, fun openBus => ?_⟩
  have shown : (apu.status openBus &&& tone.bit != 0) = _ := Tone.status_bit openBus
  rw [LengthCounter.active, value] at shown
  exact bne_eq_false_iff_eq.mp shown

theorem Ordered.consistent {switches : UInt8} (ordered : apu.Ordered)
    (wired : apu.Wired switches) (bounded : apu.Bounded) (fits : apu.Fits) :
    apu.Consistent switches := by
  have frameCycle := ordered.frameCycle
  have last (five : Bool) (mode : apu.fiveStep = five) :
      apu.lastStep = if five then 37281 else 29829 := by
    rw [lastStep, mode]
    rfl
  exact {
    pulse1 := Pulse.validate_iff.mpr bounded.pulse1
    pulse2 := Pulse.validate_iff.mpr bounded.pulse2
    triangle := Triangle.validate_iff.mpr bounded.triangle
    noise := Noise.validate_iff.mpr bounded.noise
    dmc := Dmc.validate_iff.mpr bounded.dmc
    fourStep := fun mode => by rwa [last _ mode] at frameCycle
    fiveStep := fun mode => by rwa [last _ mode] at frameCycle
    inRange := fits.inRange bounded
    off := fun tone => wired.silent
    frameIrq := ordered.frameIrq
    dmcIrq := ordered.dmc }

end Apu.State

namespace Apu

/-- What the event leaves in the switches. -/
def Event.switches (before : UInt8) : Event → UInt8
  | .write address data => if address = 0x4015 then data else before
  | .reset => 0
  | _ => before

/-- The byte last written to the switches; the reset line switches everything off. -/
def switches (events : List Event) : UInt8 := events.foldl Event.switches 0

theorem switches_snoc (events : List Event) (event : Event) :
    switches (events ++ [event]) = event.switches (switches events) := by
  rw [switches, List.foldl_append]
  rfl

variable {apu : Apu}

theorem perform_ordered (ordered : apu.state.Ordered) (event : Event) :
    (perform apu event).state.Ordered := by
  cases event with
  | write address data => exact ordered.write address data
  | step memory =>
    obtain ⟨phase, stepped⟩ := apu.step_state memory
    have clocked := ordered.clock memory
    rw [perform, stepped]
    generalize (apu.state.clock memory).2 = next at clocked ⊢
    exact ⟨clocked.frameCycle, clocked.frameIrq, clocked.dmc⟩
  | readStatus => exact ⟨ordered.frameCycle, fun _ => rfl, ordered.dmc⟩
  | reset => exact apu.state.reset_ordered

theorem perform_wired {before : UInt8} (wired : apu.state.Wired before) (event : Event) :
    (perform apu event).state.Wired (event.switches before) := by
  cases event with
  | write address data =>
    rw [Event.switches]
    split
    · rename_i switches
      rw [switches]
      exact apu.state.enableChannels_wired data
    · rename_i other
      exact wired.follows (apu.state.write_length other data)
  | step memory =>
    obtain ⟨phase, stepped⟩ := apu.step_state memory
    refine wired.follows fun tone => ?_
    have played := apu.state.clock_length memory tone
    rw [perform, stepped]
    generalize (apu.state.clock memory).2 = next at played ⊢
    rw [State.timing_length]
    exact played
  | readStatus =>
    refine wired.follows fun tone => ?_
    cases tone <;> exact .refl _
  | reset =>
    refine (apu.state.enableChannels_wired 0).follows fun tone => ?_
    cases tone <;> exact .refl _

theorem powerOn_wired (settings : Settings) : (powerOn settings).state.Wired 0 := by
  intro tone
  cases tone <;> exact ⟨rfl, fun _ => rfl⟩

theorem after_ordered (settings : Settings) (events : List Event) :
    (after settings events).state.Ordered ∧
      (after settings events).state.Wired (switches events) := by
  induction events using List.reverseRecOn with
  | nil => exact ⟨State.powerOn_ordered, powerOn_wired settings⟩
  | append_singleton events event ih =>
    rw [after_snoc, switches_snoc]
    exact ⟨perform_ordered ih.1 event, perform_wired ih.2 event⟩

/-- Whatever happens to the unit since power-on, it stays consistent. -/
theorem after_consistent (settings : Settings) (events : List Event) :
    (after settings events).state.Consistent (switches events) := by
  obtain ⟨ordered, wired⟩ := after_ordered settings events
  exact ordered.consistent wired (follow_bounded State.powerOn_bounded events)
    (follow_fits State.powerOn_fits events)

end Apu

end Nes
