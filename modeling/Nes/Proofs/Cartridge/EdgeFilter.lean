import Nes.Cartridge.Basic
import Nes.Proofs.Bits

/-!
How the scanline counter of the bank switcher follows the picture unit's bus. It hears only address
line 12, and only of pattern addresses; an edge clocks it if the line has been quiet long enough,
and what the chip remembers of the line is kept apart from the counter.
-/

namespace Nes

namespace Mmc3.Registers

variable (registers : Registers)

/-- The same registers with another memory of the address line. -/
def withLine (a12 : Bool) (filter : UInt8) : Registers :=
  { registers with lastA12 := a12, a12Filter := filter }

/-- An address on the bus clocks the counter. -/
def clockedBy (variant : Variant) (address : UInt16) : Bool :=
  address < 0x2000 && registers.isEdge variant (address &&& 0x1000 != 0) &&
    registers.a12Filter == 0

/-- What the counter holds after a clock. -/
def nextCounter : UInt8 :=
  if registers.irqCounter == 0 || registers.irqReload then registers.irqLatch
  else registers.irqCounter - 1

/-- A clock changes the counter, answers a request to reload, and may raise the interrupt. -/
theorem clockCounter_eq :
    registers.clockCounter =
      { registers with
        irqCounter := registers.nextCounter
        irqReload := false
        irqPending := registers.irqPending ||
          (registers.nextCounter == 0 && registers.irqEnabled) } := by
  unfold clockCounter nextCounter
  split
  · dsimp only
    split <;> simp_all
  · rename_i counts
    have idle : registers.irqReload = false := by simp_all
    dsimp only
    split <;> simp_all

theorem clockCounter_withLine (a12 : Bool) (filter : UInt8) :
    (registers.withLine a12 filter).clockCounter = registers.clockCounter.withLine a12 filter := by
  rw [clockCounter_eq, clockCounter_eq]
  rfl

/-- An address clocks the counter or leaves it alone; any pattern address is remembered. -/
theorem observe_eq (variant : Variant) (address : UInt16) :
    registers.observe variant address =
      if address < 0x2000 then
        (if registers.clockedBy variant address then registers.clockCounter
          else registers).withLine (address &&& 0x1000 != 0)
            (if registers.isEdge variant (address &&& 0x1000 != 0) then filterCycles
              else registers.a12Filter)
      else registers := by
  have counted := registers.clockCounter_withLine (address &&& 0x1000 != 0) registers.a12Filter
  unfold withLine at counted
  by_cases pattern : address < 0x2000
  · have inside : ¬ 0x2000 ≤ address := UInt16.not_le.mpr pattern
    cases edge : registers.isEdge variant (address &&& 0x1000 != 0) with
    | true =>
      cases quiet : registers.a12Filter == 0 with
      | true =>
        simp only [observe, clockedBy, inside, pattern, edge, quiet, counted, decide_true,
          Bool.and_self, Bool.not_true, Bool.false_eq_true, if_true, if_false]
        rfl
      | false =>
        simp only [observe, clockedBy, inside, pattern, edge, quiet, decide_true,
          Bool.and_false, Bool.not_true, Bool.false_eq_true, if_true, if_false]
        rfl
    | false =>
      simp only [observe, clockedBy, inside, pattern, edge, decide_true, Bool.and_false,
        Bool.false_and, Bool.not_false, Bool.false_eq_true, if_true, if_false]
      rfl
  · have above : 0x2000 ≤ address := UInt16.not_lt.mp pattern
    simp only [observe, above, pattern, if_true, if_false]

/-- Beside the clock an address changes nothing but what the chip remembers of the line. -/
theorem observe_counts (variant : Variant) (address : UInt16) :
    ∃ a12 filter, registers.observe variant address =
      (if registers.clockedBy variant address then registers.clockCounter
        else registers).withLine a12 filter := by
  rw [observe_eq]
  by_cases pattern : address < 0x2000
  · rw [if_pos pattern]
    exact ⟨_, _, rfl⟩
  · have idle : registers.clockedBy variant address = false := by
      simp only [clockedBy, pattern, decide_false, Bool.false_and]
    rw [if_neg pattern, idle]
    exact ⟨registers.lastA12, registers.a12Filter, rfl⟩

/-! ### Rising edges -/

variable {address : UInt16} (a12 : Bool) (filter : UInt8)

theorem a12_eq (address : UInt16) :
    (address &&& 0x1000 != 0) = decide (address.toNat / 0x1000 % 2 = 1) := by
  have masked : (address &&& 0x1000).toNat = address.toNat / 0x1000 % 2 * 0x1000 :=
    Bits.toNat_and_mask 12 1 address rfl
  rw [Bool.eq_iff_iff, bne_iff_ne, decide_eq_true_iff, ne_eq, ← UInt16.toNat_inj, masked]
  change ¬ _ = 0 ↔ _
  omega

/-- An address of the lower pattern table lowers the line and clocks nothing. -/
theorem observe_lower (lower : address.toNat < 0x1000) :
    (registers.withLine a12 filter).clockedBy .sharp address = false ∧
      (registers.withLine a12 filter).observe .sharp address = registers.withLine false filter := by
  have pattern : address < 0x2000 := UInt16.lt_iff_toNat_lt.mpr (by change _ < 0x2000; omega)
  have low : (address &&& 0x1000 != 0) = false := by
    rw [a12_eq, decide_eq_false_iff_not]
    omega
  have quiet : (registers.withLine a12 filter).clockedBy .sharp address = false := by
    simp only [clockedBy, isEdge, low, Bool.false_and, Bool.and_false]
  refine ⟨quiet, ?_⟩
  rw [observe_eq, if_pos pattern, quiet, low]
  rfl

/-- An address of the upper pattern table raises the line; it clocks the counter if the line was low
and has been quiet. -/
theorem observe_upper (above : 0x1000 ≤ address.toNat) (upper : address.toNat < 0x2000) :
    (registers.withLine a12 filter).clockedBy .sharp address = (!a12 && filter == 0) ∧
      (registers.withLine a12 filter).observe .sharp address =
        (if !a12 && filter == 0 then registers.clockCounter else registers).withLine true
          (if a12 then filter else filterCycles) := by
  have pattern : address < 0x2000 := UInt16.lt_iff_toNat_lt.mpr upper
  have high : (address &&& 0x1000 != 0) = true := by
    rw [a12_eq, decide_eq_true_iff]
    omega
  have clocked : (registers.withLine a12 filter).clockedBy .sharp address =
      (!a12 && filter == 0) := by
    simp only [clockedBy, isEdge, high, pattern, decide_true, Bool.true_and]
    rfl
  refine ⟨clocked, ?_⟩
  rw [observe_eq, if_pos pattern, clocked, high, clockCounter_withLine]
  cases a12 <;> cases filter == 0 <;> rfl

/-- Other addresses are not heard. -/
theorem observe_above (above : 0x2000 ≤ address.toNat) (variant : Variant) :
    registers.clockedBy variant address = false ∧
      registers.observe variant address = registers := by
  have outside : ¬ address < 0x2000 := by
    rw [UInt16.lt_iff_toNat_lt]
    exact Nat.not_lt.mpr above
  refine ⟨by simp only [clockedBy, outside, decide_false, Bool.false_and], ?_⟩
  rw [observe_eq, if_neg outside]

theorem step_withLine :
    ∃ rest, (registers.withLine a12 filter).step = registers.withLine a12 rest ∧
      rest.toNat = filter.toNat - 1 := by
  by_cases waits : 0 < filter
  · refine ⟨filter - 1, if_pos waits, ?_⟩
    have one : (1 : UInt8) ≤ filter := by
      rw [UInt8.lt_iff_toNat_lt] at waits
      rw [UInt8.le_iff_toNat_le]
      exact waits
    rw [UInt8.toNat_sub_of_le _ _ one]
    rfl
  · refine ⟨filter, if_neg waits, ?_⟩
    rw [UInt8.lt_iff_toNat_lt] at waits
    change ¬ 0 < filter.toNat at waits
    omega

end Mmc3.Registers

end Nes
