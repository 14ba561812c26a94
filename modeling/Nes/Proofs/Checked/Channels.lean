import Nes.Proofs.Audio.Samples
import Nes.Proofs.Checked.Basic

/-!
The sound channels with every operation asked for. A channel within the bounds of a snapshot never
stops the machine: counters are counted down only when they are above zero, steps lie on their waves
and the sweep's shift is shorter than its word. Counters and dividers that a snapshot does not bound
need no bound.
-/

namespace Nes

open Checked

/-! ### Units -/

namespace LengthCounter

def clockChecked (counter : LengthCounter) : Checked LengthCounter :=
  if !counter.halt && 0 < counter.value then do
    return { counter with value := ← sub counter.value 1 }
  else return counter

theorem clockChecked_eq (counter : LengthCounter) :
    counter.clockChecked = .ok counter.clock := by
  unfold clockChecked clock
  split
  · rename_i counts
    have running : 0 < counter.value := by simp_all
    rw [count8 running]
    rfl
  · rfl

def loadChecked (counter : LengthCounter) (data : UInt8) : Checked LengthCounter :=
  if counter.enabled then
    return { counter with value := ← entry table (data.toNat / 8) }
  else return counter

theorem loadChecked_eq (counter : LengthCounter) (data : UInt8) :
    counter.loadChecked data = .ok (counter.load data) := by
  have byte := data.toNat_lt
  have place : data.toNat / 8 < 32 := by omega
  rw [loadChecked, entry_ok place, load]
  split <;> rfl

end LengthCounter

namespace Envelope

def clockChecked (envelope : Envelope) : Checked Envelope :=
  if envelope.start then
    return { envelope with start := false, decay := 15, divider := envelope.volume }
  else if 0 < envelope.divider then do
    return { envelope with divider := ← sub envelope.divider 1 }
  else if 0 < envelope.decay then do
    return { envelope with divider := envelope.volume, decay := ← sub envelope.decay 1 }
  else if envelope.looping then
    return { envelope with divider := envelope.volume, decay := 15 }
  else return { envelope with divider := envelope.volume }

theorem clockChecked_eq (envelope : Envelope) : envelope.clockChecked = .ok envelope.clock := by
  unfold clockChecked clock nextDecay
  split
  · rfl
  · split
    · rename_i running
      rw [count8 running]
      rfl
    · split
      · rename_i falling
        rw [count8 falling]
        rfl
      · split <;> rfl

end Envelope

/-! ### Pulse -/

namespace Pulse

variable {pulse : Pulse}

def writeChecked (pulse : Pulse) (register : UInt16) (data : UInt8) : Checked Pulse :=
  match (register &&& 3).toNat with
  | 0 | 1 | 2 => return pulse.write register data
  | _ =>
    return { pulse with
      timerPeriod := ((data &&& 7).toUInt16 <<< 8) ||| (pulse.timerPeriod &&& 0x00FF)
      length := ← pulse.length.loadChecked data
      envelope := { pulse.envelope with start := true }
      sequencerStep := 0 }

theorem writeChecked_eq (pulse : Pulse) (register : UInt16) (data : UInt8) :
    pulse.writeChecked register data = .ok (pulse.write register data) := by
  unfold writeChecked
  split
  · rfl
  · rfl
  · rfl
  · rw [pulse.length.loadChecked_eq, Pulse.write]
    split <;> first
      | contradiction
      | rfl

/-- The sweep's target in signed words of 32 bits. -/
def targetChecked (pulse : Pulse) : Checked Int := do
  let period := pulse.timerPeriod.toNat
  shift pulse.sweepShift.toNat 32
  let change := period >>> pulse.sweepShift.toNat
  if !pulse.sweepNegate then signed ((period : Int) + change)
  else if pulse.onesComplement then signed ((← signed ((period : Int) - change)) - 1)
  else signed ((period : Int) - change)

def mutedChecked (pulse : Pulse) : Checked Bool :=
  if pulse.timerPeriod < 8 then return true
  else return 0x7FF < (← pulse.targetChecked)

def clockTimerChecked (pulse : Pulse) : Checked Pulse :=
  if 0 < pulse.timer then return { pulse with timer := ← sub pulse.timer 1 }
  else return { pulse with
    timer := pulse.timerPeriod
    sequencerStep := (pulse.sequencerStep - 1) &&& 7 }

/-- The sweep asks for its target only when it is due. -/
def sweptChecked (pulse : Pulse) : Checked UInt16 :=
  if pulse.sweepDivider == 0 && pulse.sweepEnabled && 0 < pulse.sweepShift then do
    if ← pulse.mutedChecked then return pulse.timerPeriod
    else return UInt16.ofNat (← pulse.targetChecked).toNat
  else return pulse.timerPeriod

def clockSweepChecked (pulse : Pulse) : Checked Pulse := do
  let timerPeriod ← pulse.sweptChecked
  if pulse.sweepDivider == 0 || pulse.sweepReload then
    return { pulse with timerPeriod, sweepDivider := pulse.sweepPeriod, sweepReload := false }
  else return { pulse with timerPeriod, sweepDivider := ← sub pulse.sweepDivider 1 }

def clockEnvelopeChecked (pulse : Pulse) : Checked Pulse :=
  return { pulse with envelope := ← pulse.envelope.clockChecked }

def clockLengthChecked (pulse : Pulse) : Checked Pulse :=
  return { pulse with length := ← pulse.length.clockChecked }

def outputChecked (pulse : Pulse) : Checked UInt8 :=
  if !pulse.length.active then return 0
  else do
    if ← pulse.mutedChecked then return 0
    else
      let wave ← entry dutyTable pulse.duty.toNat
      if (← entry wave pulse.sequencerStep.toNat) == 0 then return 0
      else return pulse.envelope.output

theorem Bounded.targetChecked_eq (bounded : pulse.Bounded) :
    pulse.targetChecked = .ok pulse.targetPeriod := by
  have distance : pulse.sweepShift.toNat ≤ 7 := UInt8.le_iff_toNat_le.mp bounded.sweepShift
  have short : pulse.sweepShift.toNat < 32 := by omega
  have period : pulse.timerPeriod.toNat ≤ 0x7FF := UInt16.le_iff_toNat_le.mp bounded.timerPeriod
  have falls : pulse.timerPeriod.toNat >>> pulse.sweepShift.toNat ≤ pulse.timerPeriod.toNat := by
    rw [Nat.shiftRight_eq_div_pow]
    exact Nat.div_le_self _ _
  simp only [targetChecked, targetPeriod, shift_ok short, Nat.mod_eq_of_lt short, ok_bind]
  generalize pulse.timerPeriod.toNat >>> pulse.sweepShift.toNat = change at falls ⊢
  split
  · exact signed_ok (by omega) (by omega)
  · split
    · rw [signed_ok (by omega) (by omega)]
      exact signed_ok (by omega) (by omega)
    · exact signed_ok (by omega) (by omega)

theorem Bounded.mutedChecked_eq (bounded : pulse.Bounded) :
    pulse.mutedChecked = .ok pulse.muted := by
  unfold mutedChecked muted
  rw [bounded.targetChecked_eq]
  split
  · rename_i short
    simp [short]
  · rename_i long
    simp [long]

theorem clockTimerChecked_eq (pulse : Pulse) : pulse.clockTimerChecked = .ok pulse.clockTimer := by
  unfold clockTimerChecked clockTimer
  split
  · rename_i running
    rw [count16 running]
    rfl
  · rfl

theorem Bounded.sweptChecked_eq (bounded : pulse.Bounded) :
    pulse.sweptChecked = .ok pulse.sweptPeriod := by
  unfold sweptChecked sweptPeriod sweeps
  rw [bounded.mutedChecked_eq, bounded.targetChecked_eq]
  cases pulse.sweepDivider == 0 && pulse.sweepEnabled && 0 < pulse.sweepShift with
  | true =>
    cases pulse.muted <;> rfl
  | false => rfl

theorem Bounded.clockSweepChecked_eq (bounded : pulse.Bounded) :
    pulse.clockSweepChecked = .ok pulse.clockSweep := by
  unfold clockSweepChecked Pulse.clockSweep
  rw [bounded.sweptChecked_eq, ok_bind]
  split
  · rfl
  · rename_i later
    have running : 0 < pulse.sweepDivider := by grind
    have still : pulse.sweptPeriod = pulse.timerPeriod := by
      have waits : pulse.sweeps = false := by simp_all [sweeps]
      rw [sweptPeriod, waits]
      rfl
    rw [count8 running, still]
    rfl

theorem clockEnvelopeChecked_eq (pulse : Pulse) :
    pulse.clockEnvelopeChecked = .ok pulse.clockEnvelope := by
  rw [clockEnvelopeChecked, pulse.envelope.clockChecked_eq]
  rfl

theorem clockLengthChecked_eq (pulse : Pulse) :
    pulse.clockLengthChecked = .ok pulse.clockLength := by
  rw [clockLengthChecked, pulse.length.clockChecked_eq]
  rfl

theorem Bounded.outputChecked_eq (bounded : pulse.Bounded) :
    pulse.outputChecked = .ok pulse.output := by
  have duty : pulse.duty.toNat ≤ 3 := UInt8.le_iff_toNat_le.mp bounded.duty
  have step : pulse.sequencerStep.toNat ≤ 7 := UInt8.le_iff_toNat_le.mp bounded.sequencerStep
  have inside : pulse.duty.toNat < 4 := by omega
  have within : pulse.sequencerStep.toNat < 8 := by omega
  have wave : pulse.wave = dutyTable[pulse.duty.toNat][pulse.sequencerStep.toNat] := by
    simp only [Pulse.wave, Nat.mod_eq_of_lt inside, Nat.mod_eq_of_lt within]
  unfold outputChecked output
  rw [bounded.mutedChecked_eq, wave]
  cases pulse.length.active with
  | false => rfl
  | true =>
    cases pulse.muted with
    | true => rfl
    | false =>
      simp only [Bool.not_true, Bool.false_eq_true, if_false, ok_bind, entry_ok inside,
        entry_ok within, Bool.false_or, pure_eq]
      split <;> rfl

end Pulse

/-! ### Triangle -/

namespace Triangle

variable {triangle : Triangle}

def writeChecked (triangle : Triangle) (register : UInt16) (data : UInt8) : Checked Triangle :=
  match (register &&& 3).toNat with
  | 0 | 1 | 2 => return triangle.write register data
  | _ =>
    return { triangle with
      timerPeriod := ((data &&& 7).toUInt16 <<< 8) ||| (triangle.timerPeriod &&& 0x00FF)
      length := ← triangle.length.loadChecked data
      linearReload := true }

theorem writeChecked_eq (triangle : Triangle) (register : UInt16) (data : UInt8) :
    triangle.writeChecked register data = .ok (triangle.write register data) := by
  unfold writeChecked
  split
  · rfl
  · rfl
  · rfl
  · rw [triangle.length.loadChecked_eq, Triangle.write]
    split <;> first
      | contradiction
      | rfl

/-- The wave as its thirty-two steps. -/
def wave : Vector UInt8 32 := .ofFn fun step => waveAt (.ofNat step)

def nextLinearChecked (triangle : Triangle) : Checked UInt8 :=
  if triangle.linearReload then return triangle.linearLoad
  else if 0 < triangle.linearCounter then sub triangle.linearCounter 1
  else return triangle.linearCounter

def clockLinearChecked (triangle : Triangle) : Checked Triangle :=
  return { triangle with
    linearCounter := ← triangle.nextLinearChecked
    linearReload := triangle.linearReload && triangle.control }

def clockLengthChecked (triangle : Triangle) : Checked Triangle :=
  return { triangle with length := ← triangle.length.clockChecked }

def clockTimerChecked (triangle : Triangle) : Checked Triangle :=
  if 0 < triangle.timer then return { triangle with timer := ← sub triangle.timer 1 }
  else if triangle.sounding then return { triangle with
    timer := triangle.timerPeriod
    sequencerStep := (← add triangle.sequencerStep 1) &&& 31 }
  else return { triangle with timer := triangle.timerPeriod }

def outputChecked (triangle : Triangle) : Checked UInt8 :=
  if !triangle.sounding || triangle.timerPeriod < 2 then return 0
  else entry wave triangle.sequencerStep.toNat

theorem nextLinearChecked_eq (triangle : Triangle) :
    triangle.nextLinearChecked = .ok triangle.nextLinear := by
  unfold nextLinearChecked nextLinear
  split
  · rfl
  · split
    · rename_i running
      exact count8 running
    · rfl

theorem clockLinearChecked_eq (triangle : Triangle) :
    triangle.clockLinearChecked = .ok triangle.clockLinear := by
  rw [clockLinearChecked, triangle.nextLinearChecked_eq]
  rfl

theorem clockLengthChecked_eq (triangle : Triangle) :
    triangle.clockLengthChecked = .ok triangle.clockLength := by
  rw [clockLengthChecked, triangle.length.clockChecked_eq]
  rfl

theorem Bounded.clockTimerChecked_eq (bounded : triangle.Bounded) :
    triangle.clockTimerChecked = .ok triangle.clockTimer := by
  have step : triangle.sequencerStep.toNat < 32 := UInt8.lt_iff_toNat_lt.mp bounded.sequencerStep
  have fits : triangle.sequencerStep.toNat + 1 < 256 := by omega
  unfold clockTimerChecked Triangle.clockTimer
  split
  · rename_i running
    rw [count16 running]
    rfl
  · split
    · rw [add_ok triangle.sequencerStep 1 fits]
      rfl
    · rfl

theorem Bounded.outputChecked_eq (bounded : triangle.Bounded) :
    triangle.outputChecked = .ok triangle.output := by
  have within : triangle.sequencerStep.toNat < 32 :=
    UInt8.lt_iff_toNat_lt.mp bounded.sequencerStep
  unfold outputChecked output
  split
  · rfl
  · rw [entry_ok within, wave, Vector.getElem_ofFn, UInt8.ofNat_toNat]

end Triangle

/-! ### Noise -/

namespace Noise

def writeChecked (noise : Noise) (register : UInt16) (data : UInt8) : Checked Noise :=
  match (register &&& 3).toNat with
  | 0 | 1 => return noise.write register data
  | 2 =>
    return { noise with
      shortMode := data &&& 0x80 != 0
      period := ← entry periodTable (data.toNat % 16) }
  | _ =>
    return { noise with
      length := ← noise.length.loadChecked data
      envelope := { noise.envelope with start := true } }

theorem writeChecked_eq (noise : Noise) (register : UInt16) (data : UInt8) :
    noise.writeChecked register data = .ok (noise.write register data) := by
  unfold writeChecked
  split
  · rfl
  · rfl
  · rename_i third
    rw [entry_ok (Nat.mod_lt _ (by decide))]
    simp only [Noise.write, third]
    rfl
  · rw [noise.length.loadChecked_eq, Noise.write]
    split <;> first
      | contradiction
      | rfl

/-- The tap is a shift of the register. -/
def feedbackChecked (noise : Noise) : Checked UInt16 := do
  let tap : UInt16 := if noise.shortMode then 6 else 1
  Checked.shift tap.toNat 16
  return (noise.shift &&& 1) ^^^ ((noise.shift >>> tap) &&& 1)

def clockTimerChecked (noise : Noise) : Checked Noise :=
  if 0 < noise.timer then return { noise with timer := ← sub noise.timer 1 }
  else return { noise with
    timer := noise.period
    shift := (noise.shift >>> 1) ||| ((← noise.feedbackChecked) <<< 14) }

def clockEnvelopeChecked (noise : Noise) : Checked Noise :=
  return { noise with envelope := ← noise.envelope.clockChecked }

def clockLengthChecked (noise : Noise) : Checked Noise :=
  return { noise with length := ← noise.length.clockChecked }

theorem feedbackChecked_eq (noise : Noise) : noise.feedbackChecked = .ok noise.feedback := by
  unfold feedbackChecked feedback
  cases noise.shortMode <;> rfl

theorem clockTimerChecked_eq (noise : Noise) : noise.clockTimerChecked = .ok noise.clockTimer := by
  unfold clockTimerChecked clockTimer
  split
  · rename_i running
    rw [count16 running]
    rfl
  · rw [noise.feedbackChecked_eq]
    rfl

theorem clockEnvelopeChecked_eq (noise : Noise) :
    noise.clockEnvelopeChecked = .ok noise.clockEnvelope := by
  rw [clockEnvelopeChecked, noise.envelope.clockChecked_eq]
  rfl

theorem clockLengthChecked_eq (noise : Noise) :
    noise.clockLengthChecked = .ok noise.clockLength := by
  rw [clockLengthChecked, noise.length.clockChecked_eq]
  rfl

end Noise

/-! ### Samples -/

namespace Dmc

variable {dmc : Dmc}

def writeChecked (dmc : Dmc) (register : UInt16) (data : UInt8) : Checked Dmc :=
  match (register &&& 3).toNat with
  | 0 => do
    let rate ← entry rateTable (data.toNat % 16)
    let irqEnabled := data &&& 0x80 != 0
    return { dmc with
      irqEnabled
      irqPending := dmc.irqPending && irqEnabled
      looping := data &&& 0x40 != 0
      rate }
  | _ => return dmc.write register data

theorem writeChecked_eq (dmc : Dmc) (register : UInt16) (data : UInt8) :
    dmc.writeChecked register data = .ok (dmc.write register data) := by
  unfold writeChecked
  split
  · rename_i first
    rw [entry_ok (Nat.mod_lt _ (by decide)), ok_bind]
    simp only [Dmc.write, first]
    rfl
  · rfl

def nextAddressChecked (address : UInt16) : Checked UInt16 :=
  if address == 0xFFFF then return 0x8000 else add address 1

def acceptChecked (dmc : Dmc) (byte : UInt8) : Checked Dmc := do
  let dmc :=
    { dmc with
      sampleBuffer := some byte
      currentAddress := ← nextAddressChecked dmc.currentAddress
      bytesRemaining := ← sub dmc.bytesRemaining 1 }
  if dmc.bytesRemaining != 0 then return dmc
  else if dmc.looping then return dmc.restart
  else if dmc.irqEnabled then return { dmc with irqPending := true }
  else return dmc

def nextLevelChecked (dmc : Dmc) : Checked UInt8 :=
  if dmc.silence then return dmc.outputLevel
  else if dmc.shiftRegister &&& 1 != 0 then
    if dmc.outputLevel ≤ 125 then add dmc.outputLevel 2 else return dmc.outputLevel
  else if 2 ≤ dmc.outputLevel then sub dmc.outputLevel 2
  else return dmc.outputLevel

def shiftOutChecked (dmc : Dmc) : Checked Dmc := do
  let dmc :=
    { dmc with
      outputLevel := ← dmc.nextLevelChecked
      shiftRegister := dmc.shiftRegister >>> 1
      bitsRemaining := ← sub dmc.bitsRemaining 1 }
  if dmc.bitsRemaining == 0 then return dmc.refill else return dmc

def clockOutputChecked (dmc : Dmc) : Checked Dmc :=
  if 0 < dmc.timer then return { dmc with timer := ← sub dmc.timer 1 }
  else do shiftOutChecked { dmc with timer := ← sub dmc.rate 1 }

/-- The reader's memory may stop the machine as well. -/
def stepChecked (memory : UInt16 → Checked UInt8) (dmc : Dmc) :
    Checked (Option UInt16 × Dmc) :=
  if dmc.wantsByte then do
    let filled ← dmc.acceptChecked (← memory dmc.currentAddress)
    return (some dmc.currentAddress, ← filled.clockOutputChecked)
  else return (none, ← dmc.clockOutputChecked)

theorem nextAddressChecked_eq (address : UInt16) :
    nextAddressChecked address = .ok (nextAddress address) := by
  unfold nextAddressChecked nextAddress
  split
  · rfl
  · rename_i below
    have bound := address.toNat_lt
    have last : address.toNat ≠ 0xFFFF := fun last =>
      below (beq_iff_eq.mpr (UInt16.toNat_inj.mp last))
    have fits : address.toNat + 1 < 65536 := by omega
    exact add_ok _ _ fits

/-- A byte is taken only while bytes remain. -/
theorem acceptChecked_eq (active : dmc.active = true) (byte : UInt8) :
    dmc.acceptChecked byte = .ok (dmc.accept byte) := by
  have running : 0 < dmc.bytesRemaining := decide_eq_true_iff.mp active
  unfold acceptChecked accept
  rw [nextAddressChecked_eq, count16 running]
  simp only [ok_bind]
  split
  · rfl
  · split
    · rfl
    · split <;> rfl

theorem nextLevelChecked_eq (dmc : Dmc) : dmc.nextLevelChecked = .ok dmc.nextLevel := by
  unfold nextLevelChecked nextLevel
  split
  · rfl
  · split
    · split
      · rename_i low
        have level : dmc.outputLevel.toNat ≤ 125 := UInt8.le_iff_toNat_le.mp low
        have fits : dmc.outputLevel.toNat + 2 < 256 := by omega
        exact add_ok _ _ fits
      · rfl
    · split
      · rename_i high
        exact sub_ok _ _ (UInt8.le_iff_toNat_le.mp high)
      · rfl

theorem Bounded.shiftOutChecked_eq (bounded : dmc.Bounded) :
    dmc.shiftOutChecked = .ok dmc.shiftOut := by
  unfold shiftOutChecked Dmc.shiftOut
  rw [dmc.nextLevelChecked_eq, sub_ok _ _ (UInt8.le_iff_toNat_le.mp bounded.bitsRemaining)]
  simp only [ok_bind]
  split <;> rfl

theorem Bounded.clockOutputChecked_eq (bounded : dmc.Bounded) :
    dmc.clockOutputChecked = .ok dmc.clockOutput := by
  have positive : 0 < dmc.rate :=
    UInt16.lt_iff_toNat_lt.mpr (Nat.lt_of_lt_of_le (by decide) bounded.rate_le.1)
  obtain ⟨rate, bits, byte, level⟩ := bounded
  unfold clockOutputChecked Dmc.clockOutput
  split
  · rename_i running
    rw [count16 running]
    rfl
  · rw [count16 positive, ok_bind]
    exact Bounded.shiftOutChecked_eq ⟨rate, bits, byte, level⟩

theorem Bounded.stepChecked_eq (bounded : dmc.Bounded) {memory : UInt16 → Checked UInt8}
    {answers : UInt16 → UInt8} (reads : ∀ address, memory address = .ok (answers address)) :
    dmc.stepChecked memory = .ok (dmc.step answers) := by
  unfold stepChecked Dmc.step
  split
  · rename_i wants
    have active : dmc.active = true := (Bool.and_eq_true_iff.mp wants).2
    rw [reads, ok_bind, acceptChecked_eq active, ok_bind,
      (bounded.accept _).clockOutputChecked_eq]
    rfl
  · rw [bounded.clockOutputChecked_eq]
    rfl

end Dmc

end Nes
