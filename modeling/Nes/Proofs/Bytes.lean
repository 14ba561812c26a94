/-!
Facts about all bytes, by trying them.
-/

namespace Nes

/-- A statement about bytes holds if it holds of each of the 256. -/
theorem byte_all (holds : UInt8 → Prop) (all : ∀ n < 256, holds (UInt8.ofNat n)) (byte : UInt8) :
    holds byte := by
  have found := all byte.toNat byte.toNat_lt
  rwa [UInt8.ofNat_toNat] at found

end Nes
