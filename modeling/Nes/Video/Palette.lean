/-!
Palette memory: thirty-two entries of six bits, and the colours that the entries stand for.
-/

namespace Nes

structure Palette where
  entries : Vector UInt8 32 := Vector.replicate 32 0
  deriving DecidableEq

namespace Palette

/-- The 64 colours as 0xRRGGBB. -/
def colours : Vector UInt32 64 := #v[
  0x545454, 0x001E74, 0x081090, 0x300088, 0x440064, 0x5C0030, 0x540400, 0x3C1800,
  0x202A00, 0x083A00, 0x004000, 0x003C00, 0x00302C, 0x000000, 0x000000, 0x000000,
  0x989698, 0x084CC4, 0x3032EC, 0x5C1EE4, 0x8814B0, 0xA01464, 0x982220, 0x783C00,
  0x545A00, 0x287200, 0x087C00, 0x007628, 0x006678, 0x000000, 0x000000, 0x000000,
  0xECEEEC, 0x3C7EEC, 0x5C5CEC, 0x8844EC, 0xB02CEC, 0xE028B0, 0xD83C50, 0xC45400,
  0xAC7000, 0x808800, 0x409C30, 0x20A458, 0x209A88, 0x404040, 0x000000, 0x000000,
  0xECEEEC, 0xA8BCEC, 0xBCACEC, 0xD4A0EC, 0xEC94EC, 0xEC90D4, 0xEC9CB4, 0xE4B090,
  0xDCC878, 0xD4DC78, 0xB8EC98, 0xA8ECBC, 0xA0E4E4, 0xA0A0A0, 0x000000, 0x000000]

/-- The colour of an entry; the upper two bits do not matter. -/
def rgb (entry : UInt8) : UInt32 :=
  have : entry.toNat % 64 < 64 := Nat.mod_lt _ (by decide)
  colours[entry.toNat % 64]

/-- The entry behind an address: they repeat every 32 bytes, and the first entry of each sprite
palette is that of the background. -/
def index (address : UInt16) : Nat :=
  let i := address.toNat % 32
  if 16 ≤ i ∧ i % 4 = 0 then i - 16 else i

theorem index_lt (address : UInt16) : index address < 32 := by
  simp only [index]
  split <;> omega

def read (palette : Palette) (address : UInt16) : UInt8 :=
  have := index_lt address
  palette.entries[index address]

def write (palette : Palette) (address : UInt16) (data : UInt8) : Palette :=
  { entries := palette.entries.set (index address) (data &&& 0x3F) (index_lt address) }

end Palette

end Nes
