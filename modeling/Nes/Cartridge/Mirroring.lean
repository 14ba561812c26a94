import Nes.Codec.Basic

/-!
How the four nametables of the picture unit's address space share memory.
-/

namespace Nes

/-- The wiring of the nametables. -/
inductive Mirroring where
  | horizontal
  | vertical
  | singleLower
  | singleUpper
  | fourScreen
  deriving DecidableEq

namespace Mirroring

/-- The physical table behind one of the four logical ones. -/
def table (mirroring : Mirroring) (logical : Nat) : Nat :=
  match mirroring with
  | horizontal => logical % 4 / 2
  | vertical => logical % 2
  | singleLower => 0
  | singleUpper => 1
  | fourScreen => logical % 4

theorem table_lt (mirroring : Mirroring) (logical : Nat) : mirroring.table logical < 4 := by
  cases mirroring <;> simp only [table] <;> omega

/-- The place in 4 KiB of nametable memory for an address from 0x2000; the addresses repeat every
4 KiB and only four-screen wiring uses the upper half of the memory. -/
def nametableOffset (mirroring : Mirroring) (address : UInt16) : Nat :=
  mirroring.table (address.toNat / 0x400) * 0x400 + address.toNat % 0x400

theorem nametableOffset_lt (mirroring : Mirroring) (address : UInt16) :
    mirroring.nametableOffset address < 0x1000 := by
  have table := mirroring.table_lt (address.toNat / 0x400)
  simp only [nametableOffset]
  omega

def name : Mirroring → String
  | horizontal => "Horizontal"
  | vertical => "Vertical"
  | singleLower => "SingleLower"
  | singleUpper => "SingleUpper"
  | fourScreen => "FourScreen"

def toIndex : Mirroring → UInt32
  | horizontal => 0
  | vertical => 1
  | singleLower => 2
  | singleUpper => 3
  | fourScreen => 4

def ofIndex? (index : UInt32) : Option Mirroring :=
  match index.toNat with
  | 0 => some horizontal
  | 1 => some vertical
  | 2 => some singleLower
  | 3 => some singleUpper
  | 4 => some fourScreen
  | _ => none

def codec : Codec Mirroring := Codec.variant 5 toIndex ofIndex?

end Mirroring

end Nes
