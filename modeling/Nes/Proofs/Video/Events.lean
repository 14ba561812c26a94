import Mathlib.Data.List.Induction
import Nes.Proofs.Video.Moment

/-!
What can happen to a picture unit: dots, accesses to its registers and its object memory, polls of
its interrupt edge and the reset line, in any order. Only dots move the unit's place.
-/

namespace Nes.Ppu

inductive Event where
  | dot
  | read (address : UInt16)
  | write (address : UInt16) (data : UInt8)
  | writeOam (data : UInt8)
  | poll
  | reset
  /-- The cartridge becomes another one, as when the processor has written to it. -/
  | exchange (cart : Cartridge)

def Event.isDot : Event → Bool
  | .dot => true
  | _ => false

def perform (state : Ppu × Cartridge) : Event → Ppu × Cartridge
  | .dot => state.1.step state.2
  | .read address => (state.1.readRegister state.2 address).2
  | .write address data => state.1.writeRegister state.2 address data
  | .writeOam data => (state.1.writeOam data, state.2)
  | .poll => (state.1.pollNmi.2, state.2)
  | .reset => (state.1.reset, state.2)
  | .exchange cart => (state.1, cart)

/-- The unit and its cartridge after a list of events. -/
def follow (start : Ppu × Cartridge) (events : List Event) : Ppu × Cartridge :=
  events.foldl perform start

/-- How many of the events are dots. -/
def dots (events : List Event) : Nat := events.countP Event.isDot

variable {start : Ppu × Cartridge} {events : List Event}

@[simp] theorem follow_nil (start : Ppu × Cartridge) : follow start [] = start := rfl

theorem follow_append (start : Ppu × Cartridge) (early late : List Event) :
    follow start (early ++ late) = follow (follow start early) late :=
  List.foldl_append

theorem follow_snoc (start : Ppu × Cartridge) (events : List Event) (event : Event) :
    follow start (events ++ [event]) = perform (follow start events) event :=
  follow_append start events [event]

@[simp] theorem dots_nil : dots [] = 0 := rfl

theorem dots_append (early late : List Event) : dots (early ++ late) = dots early + dots late :=
  List.countP_append

theorem dots_dot_cons (events : List Event) : dots (.dot :: events) = dots events + 1 :=
  List.countP_cons_of_pos rfl

theorem dots_cons {event : Event} (still : event.isDot = false) (events : List Event) :
    dots (event :: events) = dots events :=
  List.countP_cons_of_neg (by simp [still])

theorem dots_snoc_dot (events : List Event) : dots (events ++ [.dot]) = dots events + 1 :=
  dots_append events [.dot]

theorem dots_snoc (events : List Event) {event : Event} (still : event.isDot = false) :
    dots (events ++ [event]) = dots events := by
  rw [dots_append, dots_cons still, dots_nil, Nat.add_zero]

theorem Event.eq_dot {event : Event} (moves : event.isDot = true) : event = .dot := by
  cases event <;> first
    | rfl
    | cases moves

/-- A dot passes the place that it processes. -/
theorem perform_dot_raster (state : Ppu × Cartridge) :
    (perform state .dot).1.raster = state.1.raster.passDot state.1.rendering :=
  state.1.step_raster state.2

/-- Nothing but a dot moves the unit. -/
theorem perform_raster (state : Ppu × Cartridge) {event : Event} (still : event.isDot = false) :
    (perform state event).1.raster = state.1.raster := by
  cases event with
  | dot => cases still
  | read address => exact congrArg Prod.fst (state.1.readRegister_moment state.2 address)
  | write address data =>
    exact congrArg Prod.fst (state.1.writeRegister_moment state.2 address data)
  | poll => exact congrArg Prod.fst state.1.pollNmi_moment
  | writeOam | reset | exchange => rfl

theorem follow_valid (valid : start.1.raster.valid) (events : List Event) :
    (follow start events).1.raster.valid := by
  induction events using List.reverseRecOn with
  | nil => exact valid
  | append_singleton events event ih =>
    rw [follow_snoc]
    cases moves : event.isDot with
    | true =>
      rw [Event.eq_dot moves, perform_dot_raster]
      exact Raster.valid_advance ih _
    | false =>
      rw [perform_raster _ moves]
      exact ih

end Nes.Ppu
