import Nes.Codec.Basic

/-!
The scroll registers of the picture unit. The current address `v` and the temporary address `t`
share the layout `yyy NN YYYYY XXXXX`: fine row, nametable, coarse row, coarse column. A toggle
tells the first from the second write.
-/

namespace Nes

structure Scroll where
  v : UInt16 := 0
  t : UInt16 := 0
  fineX : UInt8 := 0
  /-- The next write is the second of a pair. -/
  w : Bool := false
  deriving DecidableEq

namespace Scroll

def coarseXMask : UInt16 := 0x001F
def coarseYMask : UInt16 := 0x03E0
def nametableXMask : UInt16 := 0x0400
def nametableYMask : UInt16 := 0x0800
def fineYMask : UInt16 := 0x7000

def horizontalMask : UInt16 := 0x041F

def verticalMask : UInt16 := 0x7BE0

/-- Takes the bits under `mask` from `source` and the others from `target`. -/
def merge (mask target source : UInt16) : UInt16 := (target &&& ~~~mask) ||| (source &&& mask)

/-- The control register selects the nametable of `t`. -/
def writeCtrl (scroll : Scroll) (data : UInt8) : Scroll :=
  { scroll with t := merge 0x0C00 scroll.t ((data &&& 0x03).toUInt16 <<< 10) }

/-- The scroll register: the first write places the picture horizontally, the second vertically. -/
def writeScroll (scroll : Scroll) (data : UInt8) : Scroll :=
  if !scroll.w then
    { scroll with
      t := merge coarseXMask scroll.t (data >>> 3).toUInt16
      fineX := data &&& 0x07
      w := true }
  else
    let rows : UInt16 := ((data >>> 3).toUInt16 <<< 5) ||| ((data &&& 0x07).toUInt16 <<< 12)
    { scroll with t := merge (coarseYMask ||| fineYMask) scroll.t rows, w := false }

/-- The address register: high byte, then low byte; the second write moves `t` to `v`. Answers
whether `v` has changed. -/
def writeAddress (scroll : Scroll) (data : UInt8) : Bool × Scroll :=
  if !scroll.w then
    let t := merge 0xFF00 scroll.t ((data &&& 0x3F).toUInt16 <<< 8)
    (false, { scroll with t, w := true })
  else
    let t := merge 0x00FF scroll.t data.toUInt16
    (true, { scroll with v := t, t, w := false })

/-- One tile to the right; after the last column the other nametable follows. -/
def incrementX (scroll : Scroll) : Scroll :=
  if scroll.v &&& coarseXMask == 31 then
    { scroll with v := (scroll.v &&& ~~~coarseXMask) ^^^ nametableXMask }
  else { scroll with v := scroll.v + 1 }

/-- One line down; after row 29 the other nametable follows, after row 31 the same one. -/
def incrementY (scroll : Scroll) : Scroll :=
  if scroll.v &&& fineYMask != fineYMask then { scroll with v := scroll.v + 0x1000 }
  else
    let top := scroll.v &&& ~~~fineYMask
    let row := (top &&& coarseYMask) >>> 5
    if row == 29 then { scroll with v := (top &&& ~~~coarseYMask) ^^^ nametableYMask }
    else if row == 31 then { scroll with v := top &&& ~~~coarseYMask }
    else { scroll with v := ((row + 1) <<< 5) ||| (top &&& ~~~coarseYMask) }

def copyX (scroll : Scroll) : Scroll :=
  { scroll with v := merge horizontalMask scroll.v scroll.t }

def copyY (scroll : Scroll) : Scroll :=
  { scroll with v := merge verticalMask scroll.v scroll.t }

def fineY (scroll : Scroll) : UInt16 := (scroll.v >>> 12) &&& 0x07

/-- Where the tile at `v` has its number. -/
def tileAddress (scroll : Scroll) : UInt16 := (scroll.v &&& 0x0FFF) ||| 0x2000

/-- Where the tile at `v` has its palette. -/
def attributeAddress (scroll : Scroll) : UInt16 :=
  let row : UInt16 := (scroll.v >>> 4) &&& 0x38
  let column : UInt16 := (scroll.v >>> 2) &&& 0x07
  0x23C0 ||| (scroll.v &&& 0x0C00) ||| row ||| column

/-- The place of the tile's two palette bits within that byte. -/
def attributeShift (scroll : Scroll) : UInt16 :=
  let lowerHalf : UInt16 := (scroll.v >>> 4) &&& 0x04
  lowerHalf ||| (scroll.v &&& 0x02)

/-- Moves `v` by `step` within fifteen bits. -/
def advance (scroll : Scroll) (step : UInt16) : Scroll :=
  { scroll with v := (scroll.v + step) &&& 0x7FFF }

def codec : Codec Scroll :=
  (Codec.u16.pair <| Codec.u16.pair <| Codec.u8.pair Codec.bool).iso
    (fun (v, t, fineX, w) => { v, t, fineX, w })
    (fun s => (s.v, s.t, s.fineX, s.w))

end Scroll

end Nes
