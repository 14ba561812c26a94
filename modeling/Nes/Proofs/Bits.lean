import Mathlib.Algebra.Group.Nat.Defs

/-!
Fields of a number: some of its bits, read as a number. The bitwise operations act on each field by
itself, so a mask either keeps a field or clears it.
-/

namespace Nes.Bits

/-- `width` bits of a word, from bit `first` on. -/
def field (first width word : Nat) : Nat := word / 2 ^ first % 2 ^ width

theorem field_lt (first width word : Nat) : field first width word < 2 ^ width :=
  Nat.mod_lt _ (Nat.two_pow_pos width)

theorem testBit_field (first width word place : Nat) :
    (field first width word).testBit place =
      (decide (place < width) && word.testBit (first + place)) := by
  rw [field, Nat.testBit_mod_two_pow, Nat.testBit_div_two_pow, Nat.add_comm]

theorem field_and (first width left right : Nat) :
    field first width (left &&& right) = field first width left &&& field first width right := by
  refine Nat.eq_of_testBit_eq fun place => ?_
  simp only [testBit_field, Nat.testBit_and]
  cases decide (place < width) <;> simp

theorem field_or (first width left right : Nat) :
    field first width (left ||| right) = field first width left ||| field first width right := by
  refine Nat.eq_of_testBit_eq fun place => ?_
  simp only [testBit_field, Nat.testBit_or]
  cases decide (place < width) <;> simp

theorem field_xor (first width left right : Nat) :
    field first width (left ^^^ right) = field first width left ^^^ field first width right := by
  refine Nat.eq_of_testBit_eq fun place => ?_
  simp only [testBit_field, Nat.testBit_xor]
  cases decide (place < width) <;> simp

/-- A mask of ones keeps a field. -/
theorem field_and_ones (first width word : Nat) :
    field first width word &&& (2 ^ width - 1) = field first width word := by
  rw [Nat.and_two_pow_sub_one_eq_mod, Nat.mod_eq_of_lt (field_lt first width word)]

/-- A mask of ones in the middle leaves a field in its place. -/
theorem and_mask (first width word : Nat) :
    word &&& (2 ^ width - 1) * 2 ^ first = field first width word * 2 ^ first := by
  refine Nat.eq_of_testBit_eq fun place => ?_
  rw [Nat.testBit_and, Nat.mul_comm, Nat.testBit_two_pow_mul, Nat.testBit_two_pow_sub_one,
    Nat.mul_comm, Nat.testBit_two_pow_mul, testBit_field]
  by_cases above : first ≤ place
  · have same : first + (place - first) = place := by omega
    simp only [above, decide_true, Bool.true_and, same]
    exact Bool.and_comm _ _
  · simp [above]

/-- The bits under a mask of ones in the middle. -/
theorem toNat_and_mask (first width : Nat) {mask : UInt16} (address : UInt16)
    (ones : mask.toNat = (2 ^ width - 1) * 2 ^ first) :
    (address &&& mask).toNat = field first width address.toNat * 2 ^ first := by
  rw [UInt16.toNat_and, ones, and_mask]

/-- A mask of ones at the bottom keeps a word that fits under it. -/
theorem and_low_of_lt {mask word : UInt16} (width : Nat) (ones : mask.toNat = 2 ^ width - 1)
    (small : word.toNat < 2 ^ width) : word &&& mask = word := by
  rw [← UInt16.toNat_inj, UInt16.toNat_and, ones, Nat.and_two_pow_sub_one_eq_mod,
    Nat.mod_eq_of_lt small]

/-- A move to higher places takes fields along. -/
theorem field_shift {first width : Nat} (word size moved : Nat)
    (inside : first + moved + width ≤ size) :
    field (first + moved) width (word * 2 ^ moved % 2 ^ size) = field first width word := by
  refine Nat.eq_of_testBit_eq fun place => ?_
  rw [testBit_field, testBit_field, Nat.testBit_mod_two_pow, Nat.mul_comm, Nat.testBit_two_pow_mul]
  by_cases within : place < width
  · have high : first + moved + place < size ∧ moved ≤ first + moved + place := by omega
    have same : first + moved + place - moved = first + place := by omega
    simp [within, high, same]
  · simp [within]

/-- The places left behind are empty. -/
theorem field_shift_empty {first width : Nat} (word size moved : Nat)
    (behind : first + width ≤ moved) :
    field first width (word * 2 ^ moved % 2 ^ size) = 0 := by
  refine Nat.eq_of_testBit_eq fun place => ?_
  rw [testBit_field, Nat.testBit_mod_two_pow, Nat.mul_comm, Nat.testBit_two_pow_mul,
    Nat.zero_testBit]
  by_cases within : place < width
  · have low : ¬ moved ≤ first + place := by omega
    simp [low]
  · simp [within]

/-- A field within a field. -/
theorem field_field {first width : Nat} (low size word : Nat) (inside : first + width ≤ size) :
    field first width (field low size word) = field (low + first) width word := by
  refine Nat.eq_of_testBit_eq fun place => ?_
  simp only [testBit_field]
  by_cases within : place < width
  · have inner : first + place < size := by omega
    simp [within, inner, Nat.add_assoc]
  · simp [within]

/-- A word is made of its fields: where two agree in one and above it, they agree from there on. -/
theorem div_congr (first width : Nat) {left right : Nat}
    (same : field first width left = field first width right)
    (above : left / 2 ^ (first + width) = right / 2 ^ (first + width)) :
    left / 2 ^ first = right / 2 ^ first := by
  have split (word : Nat) :
      word / 2 ^ first = field first width word + 2 ^ width * (word / 2 ^ (first + width)) := by
    rw [field, Nat.pow_add, ← Nat.div_div_eq_div_mul, Nat.mod_add_div]
  rw [split left, split right, same, above]

theorem or_and (left right mask : UInt8) :
    (left ||| right) &&& mask = left &&& mask ||| right &&& mask := by
  rw [← UInt8.toNat_inj]
  simp only [UInt8.toNat_and, UInt8.toNat_or]
  exact Nat.and_or_distrib_right ..

/-- A mask leaves a byte as it is that has nothing in the rest. -/
theorem and_eq_self_iff {mask rest byte : UInt8} (whole : mask ||| rest = 0xFF)
    (apart : mask &&& rest = 0) : byte &&& mask = byte ↔ byte &&& rest = 0 := by
  constructor
  · intro kept
    rw [← kept, UInt8.and_assoc, apart, UInt8.and_zero]
  · intro none
    calc byte &&& mask = mask &&& byte ||| rest &&& byte := by
          rw [UInt8.and_comm rest, none, UInt8.or_zero, UInt8.and_comm]
      _ = byte := by
          rw [← or_and, whole, UInt8.and_comm]
          exact UInt8.and_neg_one

/-- A mask of one bit tells whether the bit is set. -/
theorem and_single {mask : UInt8} (place : Nat) (byte : UInt8) (single : mask.toNat = 2 ^ place) :
    (byte &&& mask != 0) = byte.toNat.testBit place := by
  have under : (byte &&& mask).toNat = (byte.toNat.testBit place).toNat * 2 ^ place := by
    calc (byte &&& mask).toNat = byte.toNat &&& 1 * 2 ^ place := by
          rw [UInt8.toNat_and, single, Nat.one_mul]
      _ = field place 1 byte.toNat * 2 ^ place := and_mask place 1 byte.toNat
      _ = (byte.toNat.testBit place).toNat * 2 ^ place := by
          rw [Nat.toNat_testBit]
          rfl
  rw [Bool.eq_iff_iff, bne_iff_ne, ne_eq, ← UInt8.toNat_inj, under]
  change ¬ _ = 0 ↔ _
  have positive : 0 < 2 ^ place := Nat.two_pow_pos place
  cases byte.toNat.testBit place with
  | true => simp
  | false => simp

/-- Setting one bit leaves the others. -/
theorem testBit_or_single {flag : UInt8} (set : Nat) (byte : UInt8) (place : Nat)
    (single : flag.toNat = 2 ^ set) :
    (byte ||| flag).toNat.testBit place = (byte.toNat.testBit place || decide (set = place)) := by
  rw [UInt8.toNat_or, Nat.testBit_or, single, Nat.testBit_two_pow]

/-! ### A field that counts up -/

section Counting

variable {first width word : Nat}

private theorem succ_div_mod (room : field first width word + 1 < 2 ^ width) :
    (word + 2 ^ first) / 2 ^ first / 2 ^ width = word / 2 ^ first / 2 ^ width ∧
      (word + 2 ^ first) / 2 ^ first % 2 ^ width = field first width word + 1 := by
  have whole : field first width word + 2 ^ width * (word / 2 ^ first / 2 ^ width) =
      word / 2 ^ first := Nat.mod_add_div _ _
  rw [Nat.add_div_right _ (Nat.two_pow_pos first)]
  apply (Nat.div_mod_unique (Nat.two_pow_pos width)).mpr
  refine ⟨?_, room⟩
  rw [Nat.add_right_comm, whole]

/-- A field that is not full takes one more. -/
theorem field_count (room : field first width word + 1 < 2 ^ width) :
    field first width (word + 2 ^ first) = field first width word + 1 :=
  (succ_div_mod room).2

theorem field_count_above {high size : Nat} (room : field first width word + 1 < 2 ^ width)
    (above : first + width ≤ high) :
    field high size (word + 2 ^ first) = field high size word := by
  obtain ⟨more, rfl⟩ := Nat.exists_eq_add_of_le above
  have carry := (succ_div_mod room).1
  rw [field, field, Nat.pow_add, Nat.pow_add, ← Nat.div_div_eq_div_mul, ← Nat.div_div_eq_div_mul,
    ← Nat.div_div_eq_div_mul, ← Nat.div_div_eq_div_mul, carry]

theorem field_count_below {low size : Nat} (below : low + size ≤ first) :
    field low size (word + 2 ^ first) = field low size word := by
  obtain ⟨more, rfl⟩ := Nat.exists_eq_add_of_le below
  have moved : 2 ^ (low + size + more) = 2 ^ low * (2 ^ size * 2 ^ more) := by
    rw [Nat.pow_add, Nat.pow_add, Nat.mul_assoc]
  rw [field, field, moved, Nat.add_mul_div_left _ _ (Nat.two_pow_pos low),
    Nat.add_mul_mod_self_left]

end Counting

end Nes.Bits
