import Nes.Audio.Dmc
import Nes.Audio.Mixer
import Nes.Audio.Noise
import Nes.Audio.Phase
import Nes.Audio.Pulse
import Nes.Audio.SampleQueue
import Nes.Audio.Triangle
import Nes.Settings

/-!
The sound unit: five channels, a frame counter that clocks their envelopes and counters, and a
sampler that offers the mixed output to the host. `Apu.State` is everything a snapshot records and
runs without the host's settings; `Apu` adds the sampler's rate, the volume and the queue.
-/

namespace Nes

/-- The channels, the frame counter and the sampler's phase. -/
structure Apu.State where
  pulse1 : Pulse := Pulse.first
  pulse2 : Pulse := Pulse.second
  triangle : Triangle := {}
  noise : Noise := {}
  dmc : Dmc := {}
  /-- Processor cycles since the frame counter was restarted. -/
  frameCycle : UInt32 := 0
  fiveStep : Bool := false
  irqInhibit : Bool := false
  frameIrq : Bool := false
  /-- The pulse timers run in this cycle. -/
  oddCycle : Bool := false
  samplePhase : Phase := {}
  deriving DecidableEq

namespace Apu.State

/-- A quarter frame: envelopes and the linear counter. -/
def clockQuarterFrame (apu : State) : State :=
  { apu with
    pulse1 := apu.pulse1.clockEnvelope
    pulse2 := apu.pulse2.clockEnvelope
    noise := apu.noise.clockEnvelope
    triangle := apu.triangle.clockLinear }

/-- A half frame: length counters, then sweeps. -/
def clockHalfFrame (apu : State) : State :=
  { apu with
    pulse1 := apu.pulse1.clockLength.clockSweep
    pulse2 := apu.pulse2.clockLength.clockSweep
    triangle := apu.triangle.clockLength
    noise := apu.noise.clockLength }

/-- Switches the channels on and off by the low five bits. -/
def enableChannels (apu : State) (data : UInt8) : State :=
  { apu with
    pulse1 := apu.pulse1.setEnabled (data &&& 0x01 != 0)
    pulse2 := apu.pulse2.setEnabled (data &&& 0x02 != 0)
    triangle := apu.triangle.setEnabled (data &&& 0x04 != 0)
    noise := apu.noise.setEnabled (data &&& 0x08 != 0)
    dmc := apu.dmc.setEnabled (data &&& 0x10 != 0) }

/-- Selects the sequence and restarts it; the five-step sequence begins with both clocks. -/
def writeFrameCounter (apu : State) (data : UInt8) : State :=
  let fiveStep := data &&& 0x80 != 0
  let irqInhibit := data &&& 0x40 != 0
  let apu :=
    { apu with
      fiveStep
      irqInhibit
      frameCycle := 0
      frameIrq := apu.frameIrq && !irqInhibit }
  if fiveStep then apu.clockQuarterFrame.clockHalfFrame else apu

/-- Writes a register; addresses without one change nothing. -/
def write (apu : State) (address : UInt16) (data : UInt8) : State :=
  if address < 0x4000 then apu
  else if address < 0x4004 then { apu with pulse1 := apu.pulse1.write address data }
  else if address < 0x4008 then { apu with pulse2 := apu.pulse2.write address data }
  else if address < 0x400C then { apu with triangle := apu.triangle.write address data }
  else if address < 0x4010 then { apu with noise := apu.noise.write address data }
  else if address < 0x4014 then { apu with dmc := apu.dmc.write address data }
  else if address == 0x4015 then apu.enableChannels data
  else if address == 0x4017 then apu.writeFrameCounter data
  else apu

/-- Whether some register takes writes at this address. -/
def mapped (address : UInt16) : Bool :=
  (0x4000 ≤ address && address < 0x4014) || address == 0x4015 || address == 0x4017

/-- The status bits; bit 5 is not driven and keeps the value on the bus. -/
def status (apu : State) (openBus : UInt8) : UInt8 :=
  let bit (on : Bool) (mask : UInt8) : UInt8 := if on then mask else 0
  (openBus &&& 0x20) |||
    bit apu.pulse1.length.active 0x01 ||| bit apu.pulse2.length.active 0x02 |||
    bit apu.triangle.length.active 0x04 ||| bit apu.noise.length.active 0x08 |||
    bit apu.dmc.active 0x10 ||| bit apu.frameIrq 0x40 ||| bit apu.dmc.irqPending 0x80

def readStatus (apu : State) (openBus : UInt8) : UInt8 × State :=
  (apu.status openBus, { apu with frameIrq := false })

def irq (apu : State) : Bool := apu.frameIrq || apu.dmc.irqPending

/-- The four points of the sequences, in cycles since the restart. -/
def step1 : UInt32 := 7457
def step2 : UInt32 := 14913
def step3 : UInt32 := 22371
def step4 : UInt32 := 29829

/-- The last point of the five-step sequence. -/
def step5 : UInt32 := 37281

def lastStep (apu : State) : UInt32 := if apu.fiveStep then step5 else step4

/-- Clocks what is due at the frame counter's present value. -/
def clockSequence (apu : State) : State :=
  if apu.frameCycle == step1 || apu.frameCycle == step3 then apu.clockQuarterFrame
  else if apu.frameCycle == step2 then apu.clockQuarterFrame.clockHalfFrame
  else if apu.frameCycle == apu.lastStep then
    let clocked := apu.clockQuarterFrame.clockHalfFrame
    if !clocked.fiveStep && !clocked.irqInhibit then { clocked with frameIrq := true } else clocked
  else apu

/-- One cycle of the frame counter. -/
def clockFrameCounter (apu : State) : State :=
  let apu := clockSequence { apu with frameCycle := apu.frameCycle + 1 }
  if apu.lastStep < apu.frameCycle then { apu with frameCycle := 0 } else apu

/-- One cycle of the tone channels' timers. -/
def clockTimers (apu : State) : State :=
  let apu :=
    if apu.oddCycle then
      { apu with pulse1 := apu.pulse1.clockTimer, pulse2 := apu.pulse2.clockTimer }
    else apu
  { apu with
    oddCycle := !apu.oddCycle
    triangle := apu.triangle.clockTimer
    noise := apu.noise.clockTimer }

def clockDmc (memory : UInt16 → UInt8) (apu : State) : Option UInt16 × State :=
  let (fetched, dmc) := apu.dmc.step memory
  (fetched, { apu with dmc })

/-- One processor cycle of the chip, apart from the sampler. Answers the address from which the
sample channel read a byte, if any. -/
def clock (memory : UInt16 → UInt8) (apu : State) : Option UInt16 × State :=
  apu.clockFrameCounter.clockTimers.clockDmc memory

/-- The mixed output at full volume. -/
def mixed (apu : State) : Float32 :=
  Mixer.mix apu.pulse1.output apu.pulse2.output apu.triangle.output apu.noise.output
    apu.dmc.output

def reset (apu : State) : State :=
  let apu := apu.enableChannels 0
  { apu with
    dmc := { apu.dmc with irqPending := false }
    frameIrq := false
    frameCycle := 0 }

/-- Checks every channel, the frame counter and the phase, in this order. -/
def validate (apu : State) : Except Snapshot.Fault Unit := do
  apu.pulse1.validate
  apu.pulse2.validate
  apu.triangle.validate
  apu.noise.validate
  apu.dmc.validate
  Snapshot.require (apu.frameCycle ≤ step5) (.outOfRange .frameCounter)
  Snapshot.require apu.samplePhase.valid (.outOfRange .samplePhase)

def codec : Codec State :=
  (Pulse.codec.pair <| Pulse.codec.pair <| Triangle.codec.pair <| Noise.codec.pair <|
    Dmc.codec.pair <| Codec.u32.pair <| Codec.bool.pair <| Codec.bool.pair <| Codec.bool.pair <|
    Codec.bool.pair Phase.codec).iso
    (fun (pulse1, pulse2, triangle, noise, dmc, frameCycle, fiveStep, irqInhibit, frameIrq,
        oddCycle, samplePhase) =>
      { pulse1, pulse2, triangle, noise, dmc, frameCycle, fiveStep, irqInhibit, frameIrq,
        oddCycle, samplePhase })
    (fun a => (a.pulse1, a.pulse2, a.triangle, a.noise, a.dmc, a.frameCycle, a.fiveStep,
      a.irqInhibit, a.frameIrq, a.oddCycle, a.samplePhase))

end Apu.State

/-- The sound unit with its output to the host. -/
structure Apu where
  state : Apu.State := {}
  cyclesPerSample : Float
  volume : Float32
  queue : SampleQueue Float32

namespace Apu

def powerOn (settings : Settings) : Apu where
  cyclesPerSample := settings.cyclesPerSample
  volume := settings.gain
  queue := SampleQueue.empty settings.audioBufferLen.toNat

/-- The sample that the sampler would take now. -/
def output (apu : Apu) : Float32 := apu.state.mixed * apu.volume

/-- One cycle of the sampler; a full queue drops the sample. -/
def sample (apu : Apu) : Apu :=
  let (due, phase) := apu.state.samplePhase.advance apu.cyclesPerSample
  let apu := { apu with state := { apu.state with samplePhase := phase } }
  if due then
    let (_, queue) := apu.queue.push apu.output
    { apu with queue }
  else apu

/-- One processor cycle. Answers the address from which a sample byte was read, if any. -/
def step (memory : UInt16 → UInt8) (apu : Apu) : Option UInt16 × Apu :=
  let (fetched, state) := apu.state.clock memory
  (fetched, sample { apu with state })

def write (apu : Apu) (address : UInt16) (data : UInt8) : Apu :=
  { apu with state := apu.state.write address data }

def readStatus (apu : Apu) (openBus : UInt8) : UInt8 × Apu :=
  let (status, state) := apu.state.readStatus openBus
  (status, { apu with state })

def irq (apu : Apu) : Bool := apu.state.irq

def reset (apu : Apu) : Apu :=
  { apu with state := apu.state.reset, queue := apu.queue.clear }

/-- Replaces the chip's state and drops the queued samples. -/
def restore (apu : Apu) (state : State) : Apu := { apu with state, queue := apu.queue.clear }

/-- Restores a state if it is valid. -/
def load (apu : Apu) (state : State) : Except Snapshot.Fault Apu := do
  state.validate
  return apu.restore state

end Apu

end Nes
