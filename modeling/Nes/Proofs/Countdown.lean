/-!
A counter that runs from a length to zero and starts again: what it holds after a number of clocks
since it was full, and where it comes to zero.
-/

namespace Nes.Countdown

variable (length clocks : Nat)

/-- A count down is over when its length divides the clocks. -/
theorem sub_mod_eq_zero_iff : length - clocks % (length + 1) = 0 ↔ length + 1 ∣ clocks + 1 := by
  have turn : clocks % (length + 1) < length + 1 := Nat.mod_lt _ (Nat.succ_pos _)
  rw [Nat.dvd_iff_mod_eq_zero, ← Nat.mod_add_mod]
  by_cases last : clocks % (length + 1) = length
  · rw [last, Nat.mod_self, Nat.sub_self]
  · have within : clocks % (length + 1) + 1 < length + 1 := by omega
    rw [Nat.mod_eq_of_lt within]
    omega

/-- A clock at zero starts again, and any other takes one away. -/
theorem sub_mod_succ :
    length - (clocks + 1) % (length + 1) =
      if length - clocks % (length + 1) = 0 then length
      else length - clocks % (length + 1) - 1 := by
  have turn : clocks % (length + 1) < length + 1 := Nat.mod_lt _ (Nat.succ_pos _)
  rw [← Nat.mod_add_mod]
  by_cases last : clocks % (length + 1) = length
  · rw [last, Nat.mod_self, Nat.sub_self, if_pos rfl, Nat.sub_zero]
  · have within : clocks % (length + 1) + 1 < length + 1 := by omega
    rw [Nat.mod_eq_of_lt within, if_neg (by omega)]
    omega

end Nes.Countdown
