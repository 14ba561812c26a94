import Nes.Codec.Basic

/-!
Volume of a tone: either constant, or a level that falls from fifteen to zero and may start again.
-/

namespace Nes

/-- The volume generator of a pulse or noise channel. -/
structure Envelope where
  /-- Start over at the next quarter frame. -/
  start : Bool := false
  looping : Bool := false
  constant : Bool := false
  /-- The constant volume, or the number of extra quarter frames each level lasts. -/
  volume : UInt8 := 0
  divider : UInt8 := 0
  decay : UInt8 := 0
  deriving DecidableEq

namespace Envelope

/-- Writes the low six bits of the channel's first register. -/
def write (envelope : Envelope) (data : UInt8) : Envelope :=
  { envelope with
    looping := data &&& 0x20 != 0
    constant := data &&& 0x10 != 0
    volume := data &&& 0x0F }

/-- The next level once the divider has run out. -/
def nextDecay (envelope : Envelope) : UInt8 :=
  if 0 < envelope.decay then envelope.decay - 1
  else if envelope.looping then 15
  else envelope.decay

def clock (envelope : Envelope) : Envelope :=
  if envelope.start then
    { envelope with start := false, decay := 15, divider := envelope.volume }
  else if 0 < envelope.divider then
    { envelope with divider := envelope.divider - 1 }
  else
    { envelope with divider := envelope.volume, decay := envelope.nextDecay }

def output (envelope : Envelope) : UInt8 :=
  if envelope.constant then envelope.volume else envelope.decay

def codec : Codec Envelope :=
  (Codec.bool.pair <| Codec.bool.pair <| Codec.bool.pair <|
    Codec.u8.pair <| Codec.u8.pair Codec.u8).iso
    (fun (start, looping, constant, volume, divider, decay) =>
      { start, looping, constant, volume, divider, decay })
    (fun e => (e.start, e.looping, e.constant, e.volume, e.divider, e.decay))

end Envelope

end Nes
