import Nes.Proofs.Audio.Invariant

/-!
The schedule of the frame counter. From a write that restarts it, the number of cycles alone tells
when envelopes, lengths and sweeps are clocked and when the interrupt is raised, whatever else
happens to the unit in between.
-/

namespace Nes

/-! ### What the frame counter clocks -/

/-- A volume that is not clocked: a new note may be asked for, and nothing counts. -/
structure Envelope.Rests (before after : Envelope) : Prop where
  divider : after.divider = before.divider
  decay : after.decay = before.decay
  start : before.start = true → after.start = true

/-- What registers make of a note's length without counting it down. -/
inductive LengthCounter.Rests (before : LengthCounter) : LengthCounter → Prop where
  | halt (halt : Bool) : Rests before { before with halt }
  | load (data : UInt8) : Rests before (before.load data)
  | setEnabled (enabled : Bool) : Rests before (before.setEnabled enabled)

/-- A note's length at a half frame and between two of them: it is one lower at the first, unless it
has ended or is halted. -/
structure LengthCounter.Counts (half : Bool) (before after : LengthCounter) : Prop where
  enabled : after.enabled = before.enabled
  halt : after.halt = before.halt
  value : after.value.toNat =
    if half && !before.halt then before.value.toNat - 1 else before.value.toNat

theorem LengthCounter.clock_counts (counter : LengthCounter) :
    Counts true counter counter.clock := by
  have positive : 0 < counter.value ↔ 0 < counter.value.toNat := UInt8.lt_iff_toNat_lt
  unfold clock
  cases halt : counter.halt with
  | true => exact ⟨rfl, rfl, by simp [halt]⟩
  | false =>
    by_cases left : 0 < counter.value
    · have least : (1 : UInt8) ≤ counter.value := UInt8.le_iff_toNat_le.mpr (positive.mp left)
      simp only [Bool.not_false, left, decide_true, Bool.and_self, if_true]
      exact ⟨rfl, halt.symm, by simp [halt, UInt8.toNat_sub_of_le _ _ least]⟩
    · have ended : counter.value.toNat = 0 :=
        Nat.eq_zero_of_not_pos fun more => left (positive.mpr more)
      simp only [Bool.not_false, left, decide_false, Bool.and_false, Bool.false_eq_true, if_false]
      exact ⟨rfl, rfl, by simp [ended]⟩

theorem LengthCounter.Counts.refl (counter : LengthCounter) : Counts false counter counter :=
  ⟨rfl, rfl, rfl⟩

theorem Envelope.Rests.refl (envelope : Envelope) : envelope.Rests envelope :=
  ⟨rfl, rfl, fun start => start⟩

theorem LengthCounter.Rests.refl (counter : LengthCounter) : counter.Rests counter :=
  .halt counter.halt

namespace Pulse

/-- The sweep with the registers: the channel without its volume, its note and its wave. -/
def sweepUnit (pulse : Pulse) : Pulse :=
  { pulse with envelope := {}, length := {}, timer := 0, sequencerStep := 0 }

/-- The envelope is clocked at quarter frames, the length and the sweep at half frames. -/
structure Clocked (quarter half : Bool) (before after : Pulse) : Prop where
  envelope : after.envelope = if quarter then before.envelope.clock else before.envelope
  length : LengthCounter.Counts half before.length after.length
  sweep : after.sweepUnit = if half then before.sweepUnit.clockSweep else before.sweepUnit

/-- Nothing of the channel is clocked. -/
structure Rests (before after : Pulse) : Prop where
  envelope : before.envelope.Rests after.envelope
  length : before.length.Rests after.length
  sweepDivider : after.sweepDivider = before.sweepDivider
  sweepReload : before.sweepReload = true → after.sweepReload = true

theorem Rests.refl (pulse : Pulse) : pulse.Rests pulse :=
  ⟨.refl _, .refl _, rfl, fun reload => reload⟩

theorem write_rests (pulse : Pulse) (register : UInt16) (data : UInt8) :
    pulse.Rests (pulse.write register data) := by
  unfold write
  split
  · exact ⟨⟨rfl, rfl, fun start => start⟩, .halt _, rfl, fun reload => reload⟩
  · exact ⟨.refl _, .refl _, rfl, fun _ => rfl⟩
  · exact ⟨.refl _, .refl _, rfl, fun reload => reload⟩
  · exact ⟨⟨rfl, rfl, fun _ => rfl⟩, .load data, rfl, fun reload => reload⟩

theorem setEnabled_rests (pulse : Pulse) (enabled : Bool) :
    pulse.Rests (pulse.setEnabled enabled) :=
  ⟨.refl _, .setEnabled enabled, rfl, fun reload => reload⟩

/-- The sweep goes by its own fields. -/
theorem clockSweep_sweepUnit (pulse : Pulse) :
    pulse.clockSweep.sweepUnit = pulse.sweepUnit.clockSweep := by
  unfold clockSweep
  by_cases due : (pulse.sweepDivider == 0 || pulse.sweepReload) = true
  · have dueUnit : (pulse.sweepUnit.sweepDivider == 0 || pulse.sweepUnit.sweepReload) = true := due
    rw [if_pos due, if_pos dueUnit]
    rfl
  · have restUnit :
      ¬ (pulse.sweepUnit.sweepDivider == 0 || pulse.sweepUnit.sweepReload) = true := due
    rw [if_neg due, if_neg restUnit]
    rfl

theorem Clocked.clockTimer {quarter half : Bool} {before after : Pulse}
    (clocked : Clocked quarter half before after) :
    Clocked quarter half before after.clockTimer := by
  rw [clockTimer_frame]
  exact ⟨clocked.envelope, clocked.length, clocked.sweep⟩

end Pulse

namespace Triangle

/-- The linear counter is clocked at quarter frames, the length at half frames. -/
structure Clocked (quarter half : Bool) (before after : Triangle) : Prop where
  linearCounter : after.linearCounter = if quarter then before.nextLinear else before.linearCounter
  linearReload : after.linearReload =
    if quarter then before.linearReload && before.control else before.linearReload
  length : LengthCounter.Counts half before.length after.length

structure Rests (before after : Triangle) : Prop where
  linearCounter : after.linearCounter = before.linearCounter
  linearReload : before.linearReload = true → after.linearReload = true
  length : before.length.Rests after.length

theorem Rests.refl (triangle : Triangle) : triangle.Rests triangle :=
  ⟨rfl, fun reload => reload, .refl _⟩

theorem write_rests (triangle : Triangle) (register : UInt16) (data : UInt8) :
    triangle.Rests (triangle.write register data) := by
  unfold write
  split
  · exact ⟨rfl, fun reload => reload, .halt _⟩
  · exact .refl triangle
  · exact ⟨rfl, fun reload => reload, .refl _⟩
  · exact ⟨rfl, fun _ => rfl, .load data⟩

theorem setEnabled_rests (triangle : Triangle) (enabled : Bool) :
    triangle.Rests (triangle.setEnabled enabled) :=
  ⟨rfl, fun reload => reload, .setEnabled enabled⟩

theorem Clocked.clockTimer {quarter half : Bool} {before after : Triangle}
    (clocked : Clocked quarter half before after) :
    Clocked quarter half before after.clockTimer := by
  obtain ⟨linearCounter, linearReload, length⟩ := clocked
  unfold Triangle.clockTimer
  repeat' split
  all_goals exact ⟨linearCounter, linearReload, length⟩

end Triangle

namespace Noise

/-- The envelope is clocked at quarter frames, the length at half frames. -/
structure Clocked (quarter half : Bool) (before after : Noise) : Prop where
  envelope : after.envelope = if quarter then before.envelope.clock else before.envelope
  length : LengthCounter.Counts half before.length after.length

structure Rests (before after : Noise) : Prop where
  envelope : before.envelope.Rests after.envelope
  length : before.length.Rests after.length

theorem Rests.refl (noise : Noise) : noise.Rests noise := ⟨.refl _, .refl _⟩

theorem write_rests (noise : Noise) (register : UInt16) (data : UInt8) :
    noise.Rests (noise.write register data) := by
  unfold write
  split
  · exact ⟨⟨rfl, rfl, fun start => start⟩, .halt _⟩
  · exact .refl noise
  · exact ⟨.refl _, .refl _⟩
  · exact ⟨⟨rfl, rfl, fun _ => rfl⟩, .load data⟩

theorem setEnabled_rests (noise : Noise) (enabled : Bool) :
    noise.Rests (noise.setEnabled enabled) :=
  ⟨.refl _, .setEnabled enabled⟩

theorem Clocked.clockTimer {quarter half : Bool} {before after : Noise}
    (clocked : Clocked quarter half before after) :
    Clocked quarter half before after.clockTimer := by
  rw [clockTimer_frame]
  exact ⟨clocked.envelope, clocked.length⟩

end Noise

namespace Apu

/-! ### The points of the sequence -/

/-- The last point of a sequence; the counter starts again in the cycle behind it. -/
def lastPoint (five : Bool) : Nat := if five then 37281 else 29829

/-- The cycles from one beginning of a sequence to the next. -/
def period (five : Bool) : Nat := if five then 37282 else 29830

def quarterAt (five : Bool) (place : Nat) : Bool :=
  [7457, 14913, 22371, lastPoint five].contains place

def halfAt (five : Bool) (place : Nat) : Bool := [14913, lastPoint five].contains place

/-- Only the four-step sequence has an interrupt, and only where it is not inhibited. -/
def flagAt (five inhibit : Bool) (place : Nat) : Bool := !five && !inhibit && place == 29829

theorem period_pos (five : Bool) : 0 < period five := by cases five <;> decide

theorem period_le (five : Bool) : period five ≤ 37282 := by cases five <;> decide

theorem lastPoint_succ (five : Bool) : lastPoint five + 1 = period five := by cases five <;> rfl

/-- Nothing is due where a sequence begins again. -/
theorem idle_of_begin (five inhibit : Bool) {place : Nat} (begins : place = 0 ∨ place = period five) :
    quarterAt five place = false ∧ halfAt five place = false ∧
      flagAt five inhibit place = false := by
  rcases begins with rfl | rfl <;> cases five <;> cases inhibit <;> decide

namespace State

variable {apu before after : State}

/-- The four channels at a point of the sequence. -/
structure Clocked (quarter half : Bool) (before after : State) : Prop where
  pulse1 : Pulse.Clocked quarter half before.pulse1 after.pulse1
  pulse2 : Pulse.Clocked quarter half before.pulse2 after.pulse2
  triangle : Triangle.Clocked quarter half before.triangle after.triangle
  noise : Noise.Clocked quarter half before.noise after.noise

structure Rests (before after : State) : Prop where
  pulse1 : before.pulse1.Rests after.pulse1
  pulse2 : before.pulse2.Rests after.pulse2
  triangle : before.triangle.Rests after.triangle
  noise : before.noise.Rests after.noise

theorem Rests.refl (apu : State) : apu.Rests apu := ⟨.refl _, .refl _, .refl _, .refl _⟩

/-- The clocks that are due, quarter frames first. -/
def framed (quarter half : Bool) (apu : State) : State :=
  let apu := if quarter then apu.clockQuarterFrame else apu
  if half then apu.clockHalfFrame else apu

/-- The clocks of the channels are no part of the frame counter itself. -/
theorem framed_frame (quarter half : Bool) (apu : State) :
    (apu.framed quarter half).frameCycle = apu.frameCycle ∧
      (apu.framed quarter half).fiveStep = apu.fiveStep ∧
      (apu.framed quarter half).irqInhibit = apu.irqInhibit := by
  cases quarter <;> cases half <;> exact ⟨rfl, rfl, rfl⟩

theorem framed_clocked (quarter half : Bool) (apu : State) :
    Clocked quarter half apu (apu.framed quarter half) := by
  have swept (pulse : Pulse) :
      LengthCounter.Counts true pulse.length pulse.clockLength.clockSweep.length :=
    pulse.clockLength.clockSweep_length ▸ pulse.length.clock_counts
  have kept (pulse : Pulse) : pulse.clockLength.clockSweep.envelope = pulse.envelope :=
    pulse.clockLength.clockSweep_envelope
  have unit (pulse : Pulse) :
      pulse.clockLength.clockSweep.sweepUnit = pulse.sweepUnit.clockSweep :=
    pulse.clockLength.clockSweep_sweepUnit
  cases quarter <;> cases half
  · exact ⟨⟨rfl, .refl _, rfl⟩, ⟨rfl, .refl _, rfl⟩, ⟨rfl, rfl, .refl _⟩, ⟨rfl, .refl _⟩⟩
  · exact ⟨⟨kept _, swept apu.pulse1, unit _⟩, ⟨kept _, swept apu.pulse2, unit _⟩,
      ⟨rfl, rfl, apu.triangle.length.clock_counts⟩, ⟨rfl, apu.noise.length.clock_counts⟩⟩
  · exact ⟨⟨rfl, .refl _, rfl⟩, ⟨rfl, .refl _, rfl⟩, ⟨rfl, rfl, .refl _⟩, ⟨rfl, .refl _⟩⟩
  · exact ⟨⟨kept _, swept apu.clockQuarterFrame.pulse1, unit _⟩,
      ⟨kept _, swept apu.clockQuarterFrame.pulse2, unit _⟩,
      ⟨rfl, rfl, apu.triangle.length.clock_counts⟩, ⟨rfl, apu.noise.length.clock_counts⟩⟩

theorem Clocked.clockTimers {quarter half : Bool} (clocked : Clocked quarter half before after) :
    Clocked quarter half before after.clockTimers := by
  obtain ⟨pulse1, pulse2, triangle, noise⟩ := clocked
  simp only [State.clockTimers]
  split
  · exact ⟨pulse1.clockTimer, pulse2.clockTimer, triangle.clockTimer, noise.clockTimer⟩
  · exact ⟨pulse1, pulse2, triangle.clockTimer, noise.clockTimer⟩

theorem lastStep_toNat (apu : State) : apu.lastStep.toNat = lastPoint apu.fiveStep := by
  unfold lastStep lastPoint
  split <;> rfl

/-- What is due at a place of the sequence, told by the place alone. -/
theorem clockSequence_eq (apu : State) :
    let place := apu.frameCycle.toNat
    apu.clockSequence =
      { apu.framed (quarterAt apu.fiveStep place) (halfAt apu.fiveStep place) with
        frameIrq := apu.frameIrq || flagAt apu.fiveStep apu.irqInhibit place } := by
  intro place
  have at_iff (point : UInt32) : (apu.frameCycle == point) = (place == point.toNat) := by
    rw [Bool.eq_iff_iff, beq_iff_eq, beq_iff_eq, UInt32.toNat_inj]
  have points : step1.toNat = 7457 ∧ step2.toNat = 14913 ∧ step3.toNat = 22371 := ⟨rfl, rfl, rfl⟩
  simp only [clockSequence, at_iff, lastStep_toNat, points]
  generalize place = place
  by_cases quarter : place = 7457 ∨ place = 22371
  · rcases quarter with rfl | rfl <;> cases five : apu.fiveStep <;>
      simp [quarterAt, halfAt, flagAt, lastPoint, framed, clockQuarterFrame, five]
  by_cases middle : place = 14913
  · subst middle
    cases five : apu.fiveStep <;>
      simp [quarterAt, halfAt, flagAt, lastPoint, framed, clockQuarterFrame, clockHalfFrame]
  by_cases final : place = lastPoint apu.fiveStep
  · subst final
    cases five : apu.fiveStep <;> cases inhibit : apu.irqInhibit <;>
      simp [quarterAt, halfAt, flagAt, lastPoint, framed, clockQuarterFrame, clockHalfFrame, five,
        inhibit]
  · have unflagged : flagAt apu.fiveStep apu.irqInhibit place = false := by
      cases five : apu.fiveStep <;> simp_all [flagAt, lastPoint]
    obtain ⟨first, third⟩ := not_or.mp quarter
    simp [quarterAt, halfAt, unflagged, framed, first, middle, third, final]

/-- The frame counter after so many cycles of a sequence. -/
structure Scheduled (five inhibit : Bool) (count : Nat) (apu : State) : Prop where
  fiveStep : apu.fiveStep = five
  irqInhibit : apu.irqInhibit = inhibit
  frameCycle : apu.frameCycle.toNat = count % period five

variable {five inhibit : Bool} {count : Nat}

/-- The state with its frame counter moved on and what is due there clocked. -/
def counted (apu : State) : State :=
  let place := apu.frameCycle.toNat + 1
  { framed (quarterAt apu.fiveStep place) (halfAt apu.fiveStep place)
      { apu with frameCycle := apu.frameCycle + 1 } with
    frameIrq := apu.frameIrq || flagAt apu.fiveStep apu.irqInhibit place }

theorem counted_frame (apu : State) :
    apu.counted.frameCycle = apu.frameCycle + 1 ∧ apu.counted.fiveStep = apu.fiveStep ∧
      apu.counted.irqInhibit = apu.irqInhibit :=
  framed_frame _ _ { apu with frameCycle := apu.frameCycle + 1 }

theorem counted_clocked (apu : State) :
    let place := apu.frameCycle.toNat + 1
    Clocked (quarterAt apu.fiveStep place) (halfAt apu.fiveStep place) apu apu.counted := by
  intro place
  obtain ⟨pulse1, pulse2, triangle, noise⟩ := framed_clocked (quarterAt apu.fiveStep place)
    (halfAt apu.fiveStep place) { apu with frameCycle := apu.frameCycle + 1 }
  exact ⟨pulse1, pulse2, triangle, noise⟩

theorem frameCycle_succ (inside : apu.frameCycle.toNat < period apu.fiveStep) :
    (apu.frameCycle + 1).toNat = apu.frameCycle.toNat + 1 := by
  have small := period_le apu.fiveStep
  rw [UInt32.toNat_add]
  exact Nat.mod_eq_of_lt (by simp; omega)

/-- Behind the last place the counter starts again. -/
theorem clockFrameCounter_eq (inside : apu.frameCycle.toNat < period apu.fiveStep) :
    apu.clockFrameCounter =
      if apu.frameCycle.toNat + 1 = period apu.fiveStep then { apu.counted with frameCycle := 0 }
      else apu.counted := by
  have behind := lastPoint_succ apu.fiveStep
  have next := frameCycle_succ inside
  have sequence : clockSequence { apu with frameCycle := apu.frameCycle + 1 } = apu.counted := by
    rw [clockSequence_eq, counted]
    simp only [next]
  obtain ⟨cycle, mode, -⟩ := apu.counted_frame
  have ends : apu.counted.lastStep < apu.counted.frameCycle ↔
      apu.frameCycle.toNat + 1 = period apu.fiveStep := by
    rw [UInt32.lt_iff_toNat_lt, lastStep_toNat, mode, cycle, next]
    omega
  simp only [State.clockFrameCounter, sequence]
  exact if_congr ends rfl rfl

/-- A cycle of the frame counter comes to the next place and clocks what is due there. -/
theorem Scheduled.clockFrameCounter (scheduled : Scheduled five inhibit count apu) :
    let next := (count + 1) % period five
    Scheduled five inhibit (count + 1) apu.clockFrameCounter ∧
      Clocked (quarterAt five next) (halfAt five next) apu apu.clockFrameCounter ∧
      apu.clockFrameCounter.frameIrq = (apu.frameIrq || flagAt five inhibit next) := by
  intro next
  obtain ⟨rfl, rfl, place⟩ := scheduled
  have inside : apu.frameCycle.toNat < period apu.fiveStep :=
    place ▸ Nat.mod_lt count (period_pos apu.fiveStep)
  have moved : next = (apu.frameCycle.toNat + 1) % period apu.fiveStep := by
    rw [place]
    exact (Nat.mod_add_mod ..).symm
  obtain ⟨cycle, mode, inhibit⟩ := apu.counted_frame
  obtain ⟨pulse1, pulse2, triangle, noise⟩ := apu.counted_clocked
  rw [clockFrameCounter_eq inside]
  by_cases wraps : apu.frameCycle.toNat + 1 = period apu.fiveStep
  · rw [wraps, Nat.mod_self] at moved
    obtain ⟨quarter, half, flag⟩ := idle_of_begin apu.fiveStep apu.irqInhibit (.inl moved)
    obtain ⟨lastQuarter, lastHalf, lastFlag⟩ :=
      idle_of_begin apu.fiveStep apu.irqInhibit (.inr wraps)
    rw [if_pos wraps, quarter, half, flag]
    rw [lastQuarter, lastHalf] at pulse1 pulse2 triangle noise
    exact ⟨⟨mode, inhibit, moved.symm⟩, ⟨pulse1, pulse2, triangle, noise⟩,
      congrArg (apu.frameIrq || ·) lastFlag⟩
  · rw [Nat.mod_eq_of_lt (by omega)] at moved
    rw [if_neg wraps, moved]
    exact ⟨⟨mode, inhibit, by rw [cycle, frameCycle_succ inside, ← moved]⟩,
      ⟨pulse1, pulse2, triangle, noise⟩, rfl⟩

/-- The timers are no part of the frame counter. -/
theorem clockTimers_frame (apu : State) :
    apu.clockTimers.frameCycle = apu.frameCycle ∧ apu.clockTimers.fiveStep = apu.fiveStep ∧
      apu.clockTimers.irqInhibit = apu.irqInhibit ∧ apu.clockTimers.frameIrq = apu.frameIrq := by
  simp only [State.clockTimers]
  split <;> exact ⟨rfl, rfl, rfl, rfl⟩

theorem framed_both (due : Bool) (apu : State) :
    apu.framed due due = if due then apu.clockQuarterFrame.clockHalfFrame else apu := by
  cases due <;> rfl

/-- The write that restarts the counter; the five-step sequence begins with both clocks. -/
theorem writeFrameCounter_clocked (apu : State) (data : UInt8) :
    let five := data &&& 0x80 != 0
    Clocked five five apu (apu.writeFrameCounter data) ∧
      (apu.writeFrameCounter data).frameIrq = (apu.frameIrq && !(data &&& 0x40 != 0)) := by
  intro five
  let restarted : State :=
    { apu with
      fiveStep := five
      irqInhibit := data &&& 0x40 != 0
      frameCycle := 0
      frameIrq := apu.frameIrq && !(data &&& 0x40 != 0) }
  have write : apu.writeFrameCounter data = restarted.framed five five :=
    (framed_both five restarted).symm
  obtain ⟨pulse1, pulse2, triangle, noise⟩ := restarted.framed_clocked five five
  constructor
  · rw [write]
    exact ⟨pulse1, pulse2, triangle, noise⟩
  · rw [write, framed_both]
    split <;> rfl

theorem writeFrameCounter_scheduled (apu : State) (data : UInt8) :
    Scheduled (data &&& 0x80 != 0) (data &&& 0x40 != 0) 0 (apu.writeFrameCounter data) := by
  simp only [writeFrameCounter]
  split <;> exact ⟨rfl, rfl, (Nat.zero_mod _).symm⟩

theorem clockDmc_eq (apu : State) (memory : UInt16 → UInt8) :
    (apu.clockDmc memory).2 = { apu with dmc := (apu.dmc.step memory).2 } := rfl

/-- One cycle of the whole unit is a cycle of its frame counter. -/
theorem Scheduled.clock (scheduled : Scheduled five inhibit count apu)
    (memory : UInt16 → UInt8) (phase : Phase) :
    let next := (count + 1) % period five
    let after : State := { (apu.clock memory).2 with samplePhase := phase }
    Scheduled five inhibit (count + 1) after ∧
      Clocked (quarterAt five next) (halfAt five next) apu after ∧
      after.frameIrq = (apu.frameIrq || flagAt five inhibit next) := by
  intro next after
  obtain ⟨⟨fiveStep, irqInhibit, frameCycle⟩, clocked, flagged⟩ := scheduled.clockFrameCounter
  obtain ⟨pulse1, pulse2, triangle, noise⟩ := clocked.clockTimers
  obtain ⟨cycle, mode, inhibits, flag⟩ := apu.clockFrameCounter.clockTimers_frame
  simp only [after, State.clock, clockDmc_eq]
  generalize apu.clockFrameCounter.clockTimers = timed at *
  exact ⟨⟨mode.trans fiveStep, inhibits.trans irqInhibit,
    (congrArg UInt32.toNat cycle).trans frameCycle⟩, ⟨pulse1, pulse2, triangle, noise⟩,
    flag.trans flagged⟩

/-- A write elsewhere clocks nothing and leaves the frame counter alone. -/
theorem Scheduled.write (scheduled : Scheduled five inhibit count apu) {address : UInt16}
    (elsewhere : address ≠ 0x4017) (data : UInt8) :
    Scheduled five inhibit count (apu.write address data) ∧
      apu.Rests (apu.write address data) ∧
      (apu.write address data).frameIrq = apu.frameIrq := by
  obtain ⟨fiveStep, irqInhibit, frameCycle⟩ := scheduled
  have written := apu.written address data
  generalize apu.write address data = next at written ⊢
  cases written with
  | nothing => exact ⟨⟨fiveStep, irqInhibit, frameCycle⟩, .refl apu, rfl⟩
  | pulse1 =>
    exact ⟨⟨fiveStep, irqInhibit, frameCycle⟩,
      ⟨apu.pulse1.write_rests address data, .refl _, .refl _, .refl _⟩, rfl⟩
  | pulse2 =>
    exact ⟨⟨fiveStep, irqInhibit, frameCycle⟩,
      ⟨.refl _, apu.pulse2.write_rests address data, .refl _, .refl _⟩, rfl⟩
  | triangle =>
    exact ⟨⟨fiveStep, irqInhibit, frameCycle⟩,
      ⟨.refl _, .refl _, apu.triangle.write_rests address data, .refl _⟩, rfl⟩
  | noise =>
    exact ⟨⟨fiveStep, irqInhibit, frameCycle⟩,
      ⟨.refl _, .refl _, .refl _, apu.noise.write_rests address data⟩, rfl⟩
  | dmc => exact ⟨⟨fiveStep, irqInhibit, frameCycle⟩, ⟨.refl _, .refl _, .refl _, .refl _⟩, rfl⟩
  | switches =>
    exact ⟨⟨fiveStep, irqInhibit, frameCycle⟩,
      ⟨apu.pulse1.setEnabled_rests _, apu.pulse2.setEnabled_rests _,
        apu.triangle.setEnabled_rests _, apu.noise.setEnabled_rests _⟩, rfl⟩
  | counter place => exact absurd place elsewhere

end State

/-! ### Runs -/

/-- What happens without restarting the frame counter: cycles, reads and writes elsewhere. -/
def Event.Calm : Event → Prop
  | .write address _ => address ≠ 0x4017
  | .reset => False
  | _ => True

def Event.isStep : Event → Bool
  | .step _ => true
  | _ => false

def Event.readsStatus : Event → Bool
  | .readStatus _ => true
  | _ => false

/-- The cycles among the events. -/
def steps (events : List Event) : Nat := events.countP Event.isStep

/-- The last of the events brings the sequence to its interrupt. -/
def Raises (five inhibit : Bool) (events : List Event) : Prop :=
  ∃ early memory, events = early ++ [.step memory] ∧
    flagAt five inhibit (steps events % period five) = true

theorem raises_snoc {five inhibit : Bool} {events : List Event} {event : Event} :
    Raises five inhibit (events ++ [event]) ↔ event.isStep = true ∧
      flagAt five inhibit (steps (events ++ [event]) % period five) = true := by
  constructor
  · rintro ⟨early, memory, same, flag⟩
    obtain ⟨-, rfl⟩ := List.append_inj' same rfl |>.imp_right List.cons.inj |>.imp_right And.left
    exact ⟨rfl, flag⟩
  · rintro ⟨step, flag⟩
    cases event with
    | step memory => exact ⟨events, memory, rfl, flag⟩
    | write | readStatus | reset => cases step

/-- A point of a history and what came since, one event later. -/
theorem exists_since_snoc {α : Type} {here since : List α → Prop} {history : List α} {last : α} :
    (∃ early late, history ++ [last] = early ++ late ∧ here early ∧ since late) ↔
      (here (history ++ [last]) ∧ since []) ∨
        ∃ early late, history = early ++ late ∧ here early ∧ since (late ++ [last]) := by
  constructor
  · rintro ⟨early, late, same, found, kept⟩
    rcases late.eq_nil_or_concat with rfl | ⟨late, event, rfl⟩
    · rw [List.append_nil] at same
      exact .inl ⟨same ▸ found, kept⟩
    · rw [List.concat_eq_append] at same kept
      rw [← List.append_assoc] at same
      obtain ⟨rfl, tail⟩ := List.append_inj' same rfl
      obtain rfl := List.singleton_inj.mp tail
      exact .inr ⟨early, late, rfl, found, kept⟩
  · rintro (⟨found, kept⟩ | ⟨early, late, rfl, found, kept⟩)
    · exact ⟨_, [], (List.append_nil _).symm, found, kept⟩
    · exact ⟨early, late ++ [last], List.append_assoc .., found, kept⟩

variable {apu : Apu} {five inhibit : Bool} {count : Nat}

theorem State.Scheduled.step (scheduled : apu.state.Scheduled five inhibit count)
    (memory : UInt16 → UInt8) :
    let next := (count + 1) % period five
    (apu.step memory).2.state.Scheduled five inhibit (count + 1) ∧
      State.Clocked (quarterAt five next) (halfAt five next) apu.state (apu.step memory).2.state ∧
      (apu.step memory).2.state.frameIrq = (apu.state.frameIrq || flagAt five inhibit next) := by
  intro next
  obtain ⟨phase, stepped⟩ := apu.step_state memory
  rw [stepped]
  exact scheduled.clock memory phase

/-- Between the cycles nothing is clocked, and only a read of the status takes the flag back. -/
theorem State.Scheduled.access (scheduled : apu.state.Scheduled five inhibit count) {event : Event}
    (calm : event.Calm) (other : event.isStep = false) :
    (perform apu event).state.Scheduled five inhibit count ∧
      apu.state.Rests (perform apu event).state ∧
      (perform apu event).state.frameIrq = (apu.state.frameIrq && !event.readsStatus) := by
  cases event with
  | write address data =>
    obtain ⟨scheduled, rests, flag⟩ := scheduled.write calm data
    exact ⟨scheduled, rests, flag.trans (Bool.and_true _).symm⟩
  | step => cases other
  | readStatus openBus =>
    obtain ⟨fiveStep, irqInhibit, frameCycle⟩ := scheduled
    have rests := State.Rests.refl apu.state
    exact ⟨⟨fiveStep, irqInhibit, frameCycle⟩, ⟨rests.pulse1, rests.pulse2, rests.triangle,
      rests.noise⟩, (Bool.and_false _).symm⟩
  | reset => exact calm.elim

theorem steps_step (events : List Event) (memory : UInt16 → UInt8) :
    steps (events ++ [.step memory]) = steps events + 1 := List.countP_append

theorem steps_access (events : List Event) {event : Event} (other : event.isStep = false) :
    steps (events ++ [event]) = steps events := by
  rw [steps, List.countP_append, List.countP_singleton, other]
  rfl

theorem follow_scheduled (scheduled : apu.state.Scheduled five inhibit 0) {events : List Event}
    (calm : ∀ event ∈ events, event.Calm) :
    (follow apu events).state.Scheduled five inhibit (steps events) := by
  induction events using List.reverseRecOn with
  | nil => exact scheduled
  | append_singleton events event ih =>
    have before := ih fun event earlier => calm event (List.mem_append_left _ earlier)
    have last := calm event (List.mem_append_right _ (List.mem_singleton_self event))
    rw [follow_snoc]
    cases event with
    | step memory =>
      rw [steps_step]
      exact (before.step memory).1
    | write | readStatus | reset =>
      rw [steps_access _ rfl]
      exact (before.access last rfl).1

/-- The flag is set if it was left set or has been raised, and not read since. -/
theorem follow_frameIrq (scheduled : apu.state.Scheduled five inhibit 0) {events : List Event}
    (calm : ∀ event ∈ events, event.Calm) :
    (follow apu events).state.frameIrq = true ↔
      ∃ early late, events = early ++ late ∧
        (early = [] ∧ apu.state.frameIrq = true ∨ Raises five inhibit early) ∧
        ∀ event ∈ late, event.readsStatus = false := by
  induction events using List.reverseRecOn with
  | nil =>
    constructor
    · intro flag
      exact ⟨[], [], rfl, .inl ⟨rfl, flag⟩, by simp⟩
    · rintro ⟨early, late, same, found, -⟩
      obtain ⟨rfl, -⟩ := List.nil_eq_append_iff.mp same
      obtain ⟨-, flag⟩ | ⟨early, memory, same, -⟩ := found
      · exact flag
      · simp at same
  | append_singleton events event ih =>
    have earlier : ∀ event ∈ events, event.Calm :=
      fun event earlier => calm event (List.mem_append_left _ earlier)
    have last := calm event (List.mem_append_right _ (List.mem_singleton_self event))
    have before := follow_scheduled scheduled earlier
    have flag : (perform (follow apu events) event).state.frameIrq =
        (event.isStep && flagAt five inhibit (steps (events ++ [event]) % period five) ||
          (follow apu events).state.frameIrq && !event.readsStatus) := by
      cases event with
      | step memory =>
        rw [steps_step, perform, (before.step memory).2.2, Bool.or_comm]
        exact congrArg _ (Bool.and_true _).symm
      | write | readStatus | reset => exact (before.access last rfl).2.2
    have fresh : ¬ (events ++ [event] = [] ∧ apu.state.frameIrq = true) := by simp
    rw [follow_snoc, flag, exists_since_snoc, or_iff_right fresh, raises_snoc, Bool.or_eq_true,
      Bool.and_eq_true, Bool.and_eq_true, ih earlier]
    simp only [List.forall_mem_append, List.forall_mem_singleton, ← and_assoc, exists_and_right,
      List.not_mem_nil, false_implies, implies_true, and_true, Bool.not_eq_true']

/-- From a write that restarts the frame counter, its place is the number of cycles since, within
the sequence. Envelopes and the linear counter are clocked in the cycles that come to a quarter
frame, lengths and sweeps in those that come to a half frame, and with the write itself if the
sequence has five steps; nothing else clocks them. The flag is raised where the four-step sequence
ends and stays until the status is read. -/
theorem clocked_by_schedule (apu : Apu) (data : UInt8) (events : List Event)
    (calm : ∀ event ∈ events, event.Calm) :
    let five := data &&& 0x80 != 0
    let inhibit := data &&& 0x40 != 0
    let start := apu.write 0x4017 data
    let now := follow start events
    let next := (steps events + 1) % period five
    (State.Clocked five five apu.state start.state ∧
      start.state.frameIrq = (apu.state.frameIrq && !inhibit)) ∧
    now.state.frameCycle.toNat = steps events % period five ∧
    (∀ memory, State.Clocked (quarterAt five next) (halfAt five next) now.state
      (now.step memory).2.state) ∧
    (∀ event : Event, event.Calm → event.isStep = false →
      now.state.Rests (perform now event).state) ∧
    (now.state.frameIrq = true ↔
      ∃ early late, events = early ++ late ∧
        (early = [] ∧ start.state.frameIrq = true ∨ Raises five inhibit early) ∧
        ∀ event ∈ late, event.readsStatus = false) := by
  intro five inhibit start now next
  have scheduled : start.state.Scheduled five inhibit 0 :=
    apu.state.writeFrameCounter_scheduled data
  have followed := follow_scheduled scheduled calm
  exact ⟨apu.state.writeFrameCounter_clocked data, followed.frameCycle,
    fun memory => (followed.step memory).2.1,
    fun event calm other => (followed.access calm other).2.1, follow_frameIrq scheduled calm⟩

/-- With accesses in between, the cycle behind 7456 others comes to the first quarter frame. -/
theorem clocked_by_schedule_quarter :
    let cycles := List.replicate 7456 (Event.step fun _ => 0)
    let events := .write 0x4000 0x3F :: .readStatus 0 :: cycles
    let now := follow ((powerOn {}).write 0x4017 0x00) events
    (∀ event ∈ events, event.Calm) ∧ now.state.frameCycle.toNat = 7456 ∧
      State.Clocked true false now.state (now.step fun _ => 0).2.state := by
  intro cycles events now
  have same : ∀ event ∈ cycles, event = .step fun _ => 0 := fun _ => List.eq_of_mem_replicate
  have counted : steps cycles = 7456 := by
    rw [steps, List.countP_replicate]
    exact if_pos rfl
  clear_value cycles
  have calm : ∀ event ∈ events, event.Calm := by
    intro event member
    obtain rfl | member := List.mem_cons.mp member
    · exact (by decide : (0x4000 : UInt16) ≠ 0x4017)
    obtain rfl | member := List.mem_cons.mp member
    · trivial
    · rw [same event member]
      trivial
  have counted : steps events = 7456 := by
    rw [steps, List.countP_cons_of_neg (by decide), List.countP_cons_of_neg (by decide)]
    exact counted
  obtain ⟨-, frameCycle, clocked, -⟩ := clocked_by_schedule (powerOn {}) 0x00 events calm
  rw [counted] at frameCycle clocked
  exact ⟨calm, frameCycle, clocked _⟩

end Apu
end Nes
