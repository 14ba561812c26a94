import Nes.Codec.Basic

/-!
The counter that ends a note. It is loaded from a table, counts down once each half frame, and is
held at zero while its channel is switched off.
-/

namespace Nes

/-- A note's remaining half frames. -/
structure LengthCounter where
  enabled : Bool := false
  halt : Bool := false
  value : UInt8 := 0
  deriving DecidableEq

namespace LengthCounter

/-- Note lengths in half frames, by the five bits that select them. -/
def table : Vector UInt8 32 := #v[
  10, 254, 20, 2, 40, 4, 80, 6, 160, 8, 60, 10, 14, 12, 26, 14,
  12, 16, 24, 18, 48, 20, 96, 22, 192, 24, 72, 26, 16, 28, 32, 30]

/-- The length selected by the upper five bits of a register. -/
def lengthOf (data : UInt8) : UInt8 :=
  have : data.toNat / 8 < 32 := by have := data.toNat_lt; omega
  table[data.toNat / 8]

def load (counter : LengthCounter) (data : UInt8) : LengthCounter :=
  if counter.enabled then { counter with value := lengthOf data } else counter

/-- Switching a channel off ends its note at once. -/
def setEnabled (counter : LengthCounter) (enabled : Bool) : LengthCounter :=
  if enabled then { counter with enabled := true }
  else { counter with enabled := false, value := 0 }

def clock (counter : LengthCounter) : LengthCounter :=
  if !counter.halt && 0 < counter.value then { counter with value := counter.value - 1 }
  else counter

def active (counter : LengthCounter) : Bool := 0 < counter.value

def codec : Codec LengthCounter :=
  (Codec.bool.pair <| Codec.bool.pair Codec.u8).iso
    (fun (enabled, halt, value) => { enabled, halt, value })
    (fun counter => (counter.enabled, counter.halt, counter.value))

end LengthCounter

end Nes
