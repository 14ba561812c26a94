import Mathlib.Data.List.Induction
import Nes.Proofs.Audio.Bounds

/-!
What can happen to a sound unit: writes to any address, cycles with any memory behind the sample
channel, reads of the status and the reset line, in any order.
-/

namespace Nes.Apu

/-- What a write can make of the chip: it reaches one of the channels, the switches, the frame
counter, or nothing. -/
inductive State.Written (apu : State) (address : UInt16) (data : UInt8) : State → Prop where
  | nothing : Written apu address data apu
  | pulse1 : Written apu address data { apu with pulse1 := apu.pulse1.write address data }
  | pulse2 : Written apu address data { apu with pulse2 := apu.pulse2.write address data }
  | triangle : Written apu address data { apu with triangle := apu.triangle.write address data }
  | noise : Written apu address data { apu with noise := apu.noise.write address data }
  | dmc : Written apu address data { apu with dmc := apu.dmc.write address data }
  | switches (place : address = 0x4015) : Written apu address data (apu.enableChannels data)
  | counter (place : address = 0x4017) :
    Written apu address data (apu.writeFrameCounter data)

theorem State.written (apu : State) (address : UInt16) (data : UInt8) :
    Written apu address data (apu.write address data) := by
  unfold State.write
  repeat' split
  · exact .nothing
  · exact .pulse1
  · exact .pulse2
  · exact .triangle
  · exact .noise
  · exact .dmc
  · rename_i place
    exact .switches (eq_of_beq place)
  · rename_i place
    exact .counter (eq_of_beq place)
  · exact .nothing

inductive Event where
  | write (address : UInt16) (data : UInt8)
  | step (memory : UInt16 → UInt8)
  | readStatus (openBus : UInt8)
  | reset

def perform (apu : Apu) : Event → Apu
  | .write address data => apu.write address data
  | .step memory => (apu.step memory).2
  | .readStatus openBus => (apu.readStatus openBus).2
  | .reset => apu.reset

/-- The unit after a list of events. -/
def follow (start : Apu) (events : List Event) : Apu := events.foldl perform start

/-- The unit after events since power-on. -/
def after (settings : Settings) (events : List Event) : Apu := follow (powerOn settings) events

theorem follow_append (start : Apu) (early late : List Event) :
    follow start (early ++ late) = follow (follow start early) late :=
  List.foldl_append

theorem follow_snoc (start : Apu) (events : List Event) (event : Event) :
    follow start (events ++ [event]) = perform (follow start events) event :=
  follow_append start events [event]

theorem after_snoc (settings : Settings) (events : List Event) (event : Event) :
    after settings (events ++ [event]) = perform (after settings events) event :=
  follow_snoc _ events event

/-- The sampler leaves the chip alone but for its own phase. -/
theorem step_state (apu : Apu) (memory : UInt16 → UInt8) :
    ∃ phase, (apu.step memory).2.state =
      { (apu.state.clock memory).2 with samplePhase := phase } := by
  simp only [step, sample]
  split <;> exact ⟨_, rfl⟩

theorem perform_bounded {apu : Apu} (bounded : apu.state.Bounded) (event : Event) :
    (perform apu event).state.Bounded := by
  cases event with
  | write address data => exact bounded.write address data
  | step memory => exact step_bounded bounded memory
  | readStatus openBus => exact readStatus_bounded bounded openBus
  | reset => exact bounded.reset

/-- Nothing takes the unit out of its bounds. -/
theorem follow_bounded {start : Apu} (bounded : start.state.Bounded) (events : List Event) :
    (follow start events).state.Bounded := by
  induction events using List.reverseRecOn with
  | nil => exact bounded
  | append_singleton events event ih =>
    rw [follow_snoc]
    exact perform_bounded ih event

end Nes.Apu
