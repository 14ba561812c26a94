import Nes.Proofs.Checked.Channels

/-!
The sound unit with every operation asked for: the mixer's two curves are tables, the frame counter
counts in a word of 32 bits, and the outputs of the channels are asked for only when a sample is
due. A unit within the bounds of a snapshot never stops the machine.
-/

namespace Nes

open Checked

namespace Mixer

/-- The curves are tables of 31 and 203 entries. -/
def mixChecked (pulse1 pulse2 triangle noise dmc : UInt8) : Checked Float32 := do
  inside (pulseLevel pulse1 pulse2) 31
  inside (wideLevel triangle noise dmc) 203
  return mix pulse1 pulse2 triangle noise dmc

theorem mixChecked_eq (pulse1 pulse2 triangle noise dmc : UInt8) :
    mixChecked pulse1 pulse2 triangle noise dmc = .ok (mix pulse1 pulse2 triangle noise dmc) := by
  have narrow : pulseLevel pulse1 pulse2 < 31 := Nat.lt_succ_of_le (Nat.min_le_right _ _)
  have wide : wideLevel triangle noise dmc < 203 := Nat.lt_succ_of_le (Nat.min_le_right _ _)
  rw [mixChecked, inside_ok narrow, ok_bind, inside_ok wide]
  rfl

end Mixer

namespace Apu.State

variable {apu : State}

def clockQuarterFrameChecked (apu : State) : Checked State :=
  return { apu with
    pulse1 := ← apu.pulse1.clockEnvelopeChecked
    pulse2 := ← apu.pulse2.clockEnvelopeChecked
    noise := ← apu.noise.clockEnvelopeChecked
    triangle := ← apu.triangle.clockLinearChecked }

/-- All length counters come before the sweeps. -/
def clockHalfFrameChecked (apu : State) : Checked State := do
  let pulse1 ← apu.pulse1.clockLengthChecked
  let pulse2 ← apu.pulse2.clockLengthChecked
  return { apu with
    triangle := ← apu.triangle.clockLengthChecked
    noise := ← apu.noise.clockLengthChecked
    pulse1 := ← pulse1.clockSweepChecked
    pulse2 := ← pulse2.clockSweepChecked }

def writeFrameCounterChecked (apu : State) (data : UInt8) : Checked State :=
  let fiveStep := data &&& 0x80 != 0
  let irqInhibit := data &&& 0x40 != 0
  let apu :=
    { apu with
      fiveStep
      irqInhibit
      frameCycle := 0
      frameIrq := apu.frameIrq && !irqInhibit }
  if fiveStep then do (← apu.clockQuarterFrameChecked).clockHalfFrameChecked else return apu

def writeChecked (apu : State) (address : UInt16) (data : UInt8) : Checked State := do
  if address < 0x4000 then return apu
  else if address < 0x4004 then
    return { apu with pulse1 := ← apu.pulse1.writeChecked address data }
  else if address < 0x4008 then
    return { apu with pulse2 := ← apu.pulse2.writeChecked address data }
  else if address < 0x400C then
    return { apu with triangle := ← apu.triangle.writeChecked address data }
  else if address < 0x4010 then
    return { apu with noise := ← apu.noise.writeChecked address data }
  else if address < 0x4014 then
    return { apu with dmc := ← apu.dmc.writeChecked address data }
  else if address == 0x4015 then return apu.enableChannels data
  else if address == 0x4017 then apu.writeFrameCounterChecked data
  else return apu

def clockSequenceChecked (apu : State) : Checked State :=
  if apu.frameCycle == step1 || apu.frameCycle == step3 then apu.clockQuarterFrameChecked
  else if apu.frameCycle == step2 then do
    (← apu.clockQuarterFrameChecked).clockHalfFrameChecked
  else if apu.frameCycle == apu.lastStep then do
    let clocked ← (← apu.clockQuarterFrameChecked).clockHalfFrameChecked
    if !clocked.fiveStep && !clocked.irqInhibit then return { clocked with frameIrq := true }
    else return clocked
  else return apu

def clockFrameCounterChecked (apu : State) : Checked State := do
  let frameCycle ← add apu.frameCycle 1
  let apu ← clockSequenceChecked { apu with frameCycle }
  if apu.lastStep < apu.frameCycle then return { apu with frameCycle := 0 } else return apu

def clockTimersChecked (apu : State) : Checked State := do
  let apu ←
    if apu.oddCycle then
      pure { apu with
        pulse1 := ← apu.pulse1.clockTimerChecked
        pulse2 := ← apu.pulse2.clockTimerChecked }
    else pure apu
  return { apu with
    oddCycle := !apu.oddCycle
    triangle := ← apu.triangle.clockTimerChecked
    noise := ← apu.noise.clockTimerChecked }

def clockDmcChecked (memory : UInt16 → Checked UInt8) (apu : State) :
    Checked (Option UInt16 × State) := do
  let (fetched, dmc) ← apu.dmc.stepChecked memory
  return (fetched, { apu with dmc })

def clockChecked (memory : UInt16 → Checked UInt8) (apu : State) :
    Checked (Option UInt16 × State) := do
  let apu ← apu.clockFrameCounterChecked
  let apu ← apu.clockTimersChecked
  apu.clockDmcChecked memory

def mixedChecked (apu : State) : Checked Float32 := do
  Mixer.mixChecked (← apu.pulse1.outputChecked) (← apu.pulse2.outputChecked)
    (← apu.triangle.outputChecked) apu.noise.output apu.dmc.output

theorem clockQuarterFrameChecked_eq (apu : State) :
    apu.clockQuarterFrameChecked = .ok apu.clockQuarterFrame := by
  rw [clockQuarterFrameChecked, apu.pulse1.clockEnvelopeChecked_eq,
    apu.pulse2.clockEnvelopeChecked_eq, apu.noise.clockEnvelopeChecked_eq,
    apu.triangle.clockLinearChecked_eq]
  rfl

theorem ChannelsBounded.clockHalfFrameChecked_eq (bounded : apu.ChannelsBounded) :
    apu.clockHalfFrameChecked = .ok apu.clockHalfFrame := by
  rw [clockHalfFrameChecked, apu.pulse1.clockLengthChecked_eq, apu.pulse2.clockLengthChecked_eq,
    apu.triangle.clockLengthChecked_eq, apu.noise.clockLengthChecked_eq, ok_bind, ok_bind, ok_bind,
    ok_bind, bounded.pulse1.clockLength.clockSweepChecked_eq,
    bounded.pulse2.clockLength.clockSweepChecked_eq]
  rfl

/-- A quarter frame and then a half frame. -/
theorem ChannelsBounded.clockBothChecked_eq (bounded : apu.ChannelsBounded) :
    (do (← apu.clockQuarterFrameChecked).clockHalfFrameChecked) =
      .ok apu.clockQuarterFrame.clockHalfFrame := by
  rw [clockQuarterFrameChecked_eq, ok_bind]
  exact bounded.clockQuarterFrame.clockHalfFrameChecked_eq

theorem ChannelsBounded.writeFrameCounterChecked_eq (bounded : apu.ChannelsBounded)
    (data : UInt8) : apu.writeFrameCounterChecked data = .ok (apu.writeFrameCounter data) := by
  obtain ⟨pulse1, pulse2, triangle, noise, dmc⟩ := bounded
  simp only [writeFrameCounterChecked, writeFrameCounter]
  split
  · exact clockBothChecked_eq ⟨pulse1, pulse2, triangle, noise, dmc⟩
  · rfl

theorem ChannelsBounded.writeChecked_eq (bounded : apu.ChannelsBounded) (address : UInt16)
    (data : UInt8) : apu.writeChecked address data = .ok (apu.write address data) := by
  unfold writeChecked State.write
  rw [apu.pulse1.writeChecked_eq, apu.pulse2.writeChecked_eq, apu.triangle.writeChecked_eq,
    apu.noise.writeChecked_eq, apu.dmc.writeChecked_eq, bounded.writeFrameCounterChecked_eq]
  repeat' split
  all_goals rfl

theorem ChannelsBounded.clockSequenceChecked_eq (bounded : apu.ChannelsBounded) :
    apu.clockSequenceChecked = .ok apu.clockSequence := by
  unfold clockSequenceChecked State.clockSequence
  split
  · exact clockQuarterFrameChecked_eq apu
  · split
    · exact bounded.clockBothChecked_eq
    · split
      · rw [clockQuarterFrameChecked_eq, ok_bind,
          bounded.clockQuarterFrame.clockHalfFrameChecked_eq, ok_bind]
        simp only
        split <;> rfl
      · rfl

/-- The frame counter does not count past its last step, so its word never overflows. -/
theorem Bounded.clockFrameCounterChecked_eq (bounded : apu.Bounded) :
    apu.clockFrameCounterChecked = .ok apu.clockFrameCounter := by
  obtain ⟨⟨pulse1, pulse2, triangle, noise, dmc⟩, last⟩ := bounded
  have count : apu.frameCycle.toNat ≤ 37281 := UInt32.le_iff_toNat_le.mp last
  have fits : apu.frameCycle.toNat + 1 < 2 ^ 32 := by omega
  have sequence := @ChannelsBounded.clockSequenceChecked_eq
    { apu with frameCycle := apu.frameCycle + 1 } ⟨pulse1, pulse2, triangle, noise, dmc⟩
  unfold clockFrameCounterChecked State.clockFrameCounter
  rw [add_ok apu.frameCycle 1 fits, ok_bind, sequence, ok_bind]
  simp only
  split <;> rfl

theorem Bounded.clockTimersChecked_eq (bounded : apu.Bounded) :
    apu.clockTimersChecked = .ok apu.clockTimers := by
  unfold clockTimersChecked State.clockTimers
  rw [apu.pulse1.clockTimerChecked_eq, apu.pulse2.clockTimerChecked_eq]
  split
  · simp only [ok_bind, pure_eq, bounded.triangle.clockTimerChecked_eq,
      apu.noise.clockTimerChecked_eq]
  · simp only [ok_bind, pure_eq, bounded.triangle.clockTimerChecked_eq,
      apu.noise.clockTimerChecked_eq]

variable {memory : UInt16 → Checked UInt8} {answers : UInt16 → UInt8}

theorem Bounded.clockDmcChecked_eq (bounded : apu.Bounded)
    (reads : ∀ address, memory address = .ok (answers address)) :
    apu.clockDmcChecked memory = .ok (apu.clockDmc answers) := by
  rw [clockDmcChecked, bounded.dmc.stepChecked_eq reads]
  rfl

theorem Bounded.clockChecked_eq (bounded : apu.Bounded)
    (reads : ∀ address, memory address = .ok (answers address)) :
    apu.clockChecked memory = .ok (apu.clock answers) := by
  have counted := bounded.clockFrameCounter
  rw [clockChecked, bounded.clockFrameCounterChecked_eq, ok_bind, counted.clockTimersChecked_eq,
    ok_bind]
  exact counted.clockTimers.clockDmcChecked_eq reads

theorem ChannelsBounded.mixedChecked_eq (bounded : apu.ChannelsBounded) :
    apu.mixedChecked = .ok apu.mixed := by
  rw [mixedChecked, bounded.pulse1.outputChecked_eq, bounded.pulse2.outputChecked_eq,
    bounded.triangle.outputChecked_eq]
  exact Mixer.mixChecked_eq _ _ _ _ _

end Apu.State

namespace Apu

variable {apu : Apu}

/-- A sample is mixed only when it is due. -/
def sampleChecked (apu : Apu) : Checked Apu :=
  let (due, phase) := apu.state.samplePhase.advance apu.cyclesPerSample
  let apu := { apu with state := { apu.state with samplePhase := phase } }
  if due then do
    let (_, queue) := apu.queue.push ((← apu.state.mixedChecked) * apu.volume)
    return { apu with queue }
  else return apu

def stepChecked (memory : UInt16 → Checked UInt8) (apu : Apu) :
    Checked (Option UInt16 × Apu) := do
  let (fetched, state) ← apu.state.clockChecked memory
  return (fetched, ← sampleChecked { apu with state })

def writeChecked (apu : Apu) (address : UInt16) (data : UInt8) : Checked Apu :=
  return { apu with state := ← apu.state.writeChecked address data }

theorem sampleChecked_eq (bounded : apu.state.Bounded) : apu.sampleChecked = .ok apu.sample := by
  have mixed (phase : Phase) := @State.ChannelsBounded.mixedChecked_eq
    { apu.state with samplePhase := phase }
    ⟨bounded.pulse1, bounded.pulse2, bounded.triangle, bounded.noise, bounded.dmc⟩
  simp only [sampleChecked, sample]
  split
  · rw [mixed]
    rfl
  · rfl

theorem stepChecked_eq (bounded : apu.state.Bounded) {memory : UInt16 → Checked UInt8}
    {answers : UInt16 → UInt8} (reads : ∀ address, memory address = .ok (answers address)) :
    apu.stepChecked memory = .ok (apu.step answers) := by
  have clocked : ({ apu with state := (apu.state.clock answers).2 } : Apu).state.Bounded :=
    bounded.clock answers
  rw [stepChecked, bounded.clockChecked_eq reads, ok_bind]
  simp only [sampleChecked_eq clocked]
  rfl

theorem writeChecked_eq (bounded : apu.state.Bounded) (address : UInt16) (data : UInt8) :
    apu.writeChecked address data = .ok (apu.write address data) := by
  rw [writeChecked, bounded.toChannelsBounded.writeChecked_eq address data]
  rfl

end Apu

end Nes
