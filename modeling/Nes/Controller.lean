import Nes.Codec.Basic

/-!
The standard controller: a latch of eight buttons that is read one bit at a time. While the strobe
is high every read reports button A; once it has fallen the reads report A, B, Select, Start, Up,
Down, Left, Right and then ones.
-/

namespace Nes

/-- The buttons in the order in which they are reported. -/
inductive Button where
  | a
  | b
  | select
  | start
  | up
  | down
  | left
  | right
  deriving DecidableEq

namespace Button

def all : List Button := [a, b, select, start, up, down, left, right]

def mask (button : Button) : UInt8 := 1 <<< button.ctorIdx.toUInt8

end Button

/-- A controller and the place its reader has reached. -/
structure Controller where
  /-- One bit for each held button. -/
  buttons : UInt8 := 0
  /-- The next button to report; from eight on the answer is one. -/
  index : UInt8 := 0
  strobe : Bool := false
  deriving DecidableEq

namespace Controller

def bit (controller : Controller) : UInt8 :=
  if controller.index < 8 then (controller.buttons >>> controller.index) &&& 1 else 1

/-- Reads one button; bit 6 is always set by the port. -/
def read (controller : Controller) : UInt8 × Controller :=
  let moved :=
    if !controller.strobe && controller.index < 8 then
      { controller with index := controller.index + 1 }
    else controller
  (controller.bit ||| 0x40, moved)

/-- Bit 0 is the strobe; a write that sets it goes back to button A. -/
def write (controller : Controller) (data : UInt8) : Controller :=
  if data &&& 1 != 0 then { controller with strobe := true, index := 0 }
  else { controller with strobe := false }

def hold (controller : Controller) (buttons : UInt8) : Controller := { controller with buttons }

def codec : Codec Controller :=
  (Codec.u8.pair <| Codec.u8.pair Codec.bool).iso
    (fun (buttons, index, strobe) => { buttons, index, strobe })
    (fun controller => (controller.buttons, controller.index, controller.strobe))

end Controller

end Nes
