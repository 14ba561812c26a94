import Nes.Proofs.Snapshot.Checks

/-!
The two laws of a byte format. A value is recovered when reading its written form gives it back with
the bytes behind it; a format is canonical when nothing but written forms is read. Each combinator
hands both laws on.
-/

namespace Nes.Codec

variable {α β : Type}

/-- Reading the written form of `value` gives it back, whatever stands behind it. -/
def Recovers (codec : Codec α) (value : α) : Prop :=
  ∀ rest, codec.decode (codec.encode value ++ rest) = .ok (value, rest)

/-- Bytes from which a value is read are its written form and what is left. -/
def Canonical (codec : Codec α) : Prop :=
  ∀ bytes value rest, codec.decode bytes = .ok (value, rest) → bytes = codec.encode value ++ rest

/-! ### Words -/

/-- How many numbers can be told apart by `count` digits. -/
def capacity : Nat → Nat
  | 0 => 1
  | count + 1 => 256 * capacity count

theorem length_digits (count n : Nat) : (digits count n).length = count := by
  induction count generalizing n with
  | zero => rfl
  | succ count ih => simp only [digits, List.length_cons, ih]

theorem ofDigits_digits (count n : Nat) (bounded : n < capacity count) :
    ofDigits (digits count n) = n := by
  induction count generalizing n with
  | zero =>
    have zero : n = 0 := Nat.lt_one_iff.mp bounded
    simp [digits, ofDigits, zero]
  | succ count ih =>
    have quotient : n / 256 < capacity count := by
      rw [capacity] at bounded
      omega
    have lowest : (UInt8.ofNat n).toNat = n % 256 := UInt8.toNat_ofNat'
    simp only [digits, ofDigits, ih _ quotient, lowest]
    omega

theorem ofDigits_lt (block : List UInt8) : ofDigits block < capacity block.length := by
  induction block with
  | nil => simp [ofDigits, capacity]
  | cons digit rest ih =>
    have bound := digit.toNat_lt
    simp only [ofDigits, List.length_cons, capacity]
    omega

theorem digits_ofDigits (block : List UInt8) : digits block.length (ofDigits block) = block := by
  induction block with
  | nil => rfl
  | cons digit rest ih =>
    have bound := digit.toNat_lt
    have lowest : UInt8.ofNat (digit.toNat + 256 * ofDigits rest) = digit := by
      apply UInt8.toNat_inj.mp
      rw [UInt8.toNat_ofNat']
      omega
    have higher : (digit.toNat + 256 * ofDigits rest) / 256 = ofDigits rest := by omega
    simp only [ofDigits, List.length_cons, digits, lowest, higher, ih]

theorem takeBytes_append (block rest : List UInt8) :
    takeBytes block.length (block ++ rest) = .ok (block, rest) := by
  simp [takeBytes]

theorem append_of_takeBytes {count : Nat} {bytes block rest : List UInt8}
    (success : takeBytes count bytes = .ok (block, rest)) :
    block.length = count ∧ bytes = block ++ rest := by
  simp only [takeBytes] at success
  split at success
  · rename_i enough
    obtain ⟨rfl, rfl⟩ := Prod.mk.inj (Except.ok.inj success)
    exact ⟨enough, (List.take_append_drop count bytes).symm⟩
  · cases success

theorem word_recovers (count n : Nat) (bounded : n < capacity count) : (word count).Recovers n := by
  intro rest
  have block := takeBytes_append (digits count n) rest
  rw [length_digits] at block
  simp only [word, bind, Except.bind, block, pure, Except.pure, ofDigits_digits count n bounded]

theorem word_canonical (count : Nat) : (word count).Canonical := by
  intro bytes n rest success
  obtain ⟨⟨block, left⟩, taken, result⟩ := Snapshot.bind_eq_ok success
  obtain ⟨length, same⟩ := append_of_takeBytes taken
  obtain ⟨rfl, rfl⟩ := Prod.mk.inj (Except.ok.inj result)
  simp only [word, same, ← length, digits_ofDigits]

theorem word_lt {count : Nat} {bytes rest : List UInt8} {n : Nat}
    (success : (word count).decode bytes = .ok (n, rest)) : n < capacity count := by
  obtain ⟨⟨block, left⟩, taken, result⟩ := Snapshot.bind_eq_ok success
  obtain ⟨length, same⟩ := append_of_takeBytes taken
  obtain ⟨rfl, rfl⟩ := Prod.mk.inj (Except.ok.inj result)
  rw [← length]
  exact ofDigits_lt block

/-! ### Combinators -/

theorem Recovers.iso {codec : Codec α} {make : α → β} {parts : β → α} {value : β}
    (recovers : codec.Recovers (parts value)) (inverse : make (parts value) = value) :
    (codec.iso make parts).Recovers value := by
  intro rest
  simp only [Codec.iso, recovers rest, bind, Except.bind, inverse, pure, Except.pure]

/-- Only values that can be read have to survive the change of type. -/
theorem Canonical.iso_of_read {codec : Codec α} (canonical : codec.Canonical) {make : α → β}
    {parts : β → α}
    (inverse : ∀ bytes value rest, codec.decode bytes = .ok (value, rest) →
      parts (make value) = value) :
    (codec.iso make parts).Canonical := by
  intro bytes value rest success
  obtain ⟨⟨inner, left⟩, read, result⟩ := Snapshot.bind_eq_ok success
  obtain ⟨rfl, rfl⟩ := Prod.mk.inj (Except.ok.inj result)
  simpa only [Codec.iso, inverse _ _ _ read] using canonical _ _ _ read

theorem Canonical.iso {codec : Codec α} (canonical : codec.Canonical) {make : α → β}
    {parts : β → α} (inverse : ∀ value, parts (make value) = value) :
    (codec.iso make parts).Canonical :=
  canonical.iso_of_read fun _ value _ _ => inverse value

theorem Recovers.pair {first : Codec α} {second : Codec β} {left : α} {right : β}
    (before : first.Recovers left) (behind : second.Recovers right) :
    (first.pair second).Recovers (left, right) := by
  intro rest
  simp only [Codec.pair, List.append_assoc, before _, behind _, bind, Except.bind, pure,
    Except.pure]

theorem Canonical.pair {first : Codec α} {second : Codec β} (before : first.Canonical)
    (behind : second.Canonical) : (first.pair second).Canonical := by
  intro bytes value rest success
  obtain ⟨⟨left, middle⟩, readLeft, success⟩ := Snapshot.bind_eq_ok success
  obtain ⟨⟨right, left'⟩, readRight, result⟩ := Snapshot.bind_eq_ok success
  obtain ⟨rfl, rfl⟩ := Prod.mk.inj (Except.ok.inj result)
  simp only [Codec.pair, List.append_assoc, ← behind _ _ _ readRight, ← before _ _ _ readLeft]

theorem u8_recovers (byte : UInt8) : u8.Recovers byte := fun _ => rfl

theorem u8_canonical : u8.Canonical := by
  intro bytes byte rest success
  cases bytes with
  | nil => cases success
  | cons head tail =>
    obtain ⟨rfl, rfl⟩ := Prod.mk.inj (Except.ok.inj success)
    rfl

theorem u16_recovers (n : UInt16) : u16.Recovers n :=
  (word_recovers 2 n.toNat n.toNat_lt).iso UInt16.ofNat_toNat

theorem u32_recovers (n : UInt32) : u32.Recovers n :=
  (word_recovers 4 n.toNat n.toNat_lt).iso UInt32.ofNat_toNat

theorem u64_recovers (n : UInt64) : u64.Recovers n :=
  (word_recovers 8 n.toNat n.toNat_lt).iso UInt64.ofNat_toNat

theorem u16_canonical : u16.Canonical :=
  (word_canonical 2).iso_of_read fun _ _ _ read => UInt16.toNat_ofNat_of_lt' (word_lt read)

theorem u32_canonical : u32.Canonical :=
  (word_canonical 4).iso_of_read fun _ _ _ read => UInt32.toNat_ofNat_of_lt' (word_lt read)

theorem u64_canonical : u64.Canonical :=
  (word_canonical 8).iso_of_read fun _ _ _ read => UInt64.toNat_ofNat_of_lt' (word_lt read)

theorem bool_recovers (value : Bool) : bool.Recovers value := by
  intro rest
  cases value <;> rfl

theorem bool_canonical : bool.Canonical := by
  intro bytes value rest success
  cases bytes with
  | nil => cases success
  | cons byte tail =>
    simp only [bool] at success
    split at success
    · rename_i zero
      obtain ⟨rfl, rfl⟩ := Prod.mk.inj (Except.ok.inj success)
      simp [bool, zero]
    · split at success
      · rename_i one
        obtain ⟨rfl, rfl⟩ := Prod.mk.inj (Except.ok.inj success)
        simp [bool, one]
      · cases success

theorem Recovers.option {codec : Codec α} {value : Option α}
    (recovers : ∀ inner ∈ value, codec.Recovers inner) : codec.option.Recovers value := by
  intro rest
  cases value with
  | none => rfl
  | some inner =>
    have read := recovers inner rfl rest
    simp [Codec.option, read, bind, Except.bind, pure, Except.pure]

theorem Canonical.option {codec : Codec α} (canonical : codec.Canonical) :
    codec.option.Canonical := by
  intro bytes value rest success
  cases bytes with
  | nil => cases success
  | cons byte tail =>
    simp only [Codec.option] at success
    split at success
    · rename_i zero
      obtain ⟨rfl, rfl⟩ := Prod.mk.inj (Except.ok.inj success)
      simp [Codec.option, zero]
    · split at success
      · rename_i one
        obtain ⟨⟨inner, left⟩, read, result⟩ := Snapshot.bind_eq_ok success
        obtain ⟨rfl, rfl⟩ := Prod.mk.inj (Except.ok.inj result)
        simp [Codec.option, one, ← canonical _ _ _ read]
      · cases success

/-! ### Sequences -/

theorem decodeMany_recovers {codec : Codec α} {values : List α}
    (recovers : ∀ value ∈ values, codec.Recovers value) (rest : List UInt8) :
    decodeMany codec values.length (values.flatMap codec.encode ++ rest) = .ok (values, rest) := by
  induction values with
  | nil => rfl
  | cons value values ih =>
    have first := recovers value List.mem_cons_self (values.flatMap codec.encode ++ rest)
    have others := ih fun other member => recovers other (List.mem_cons_of_mem value member)
    simp only [List.flatMap_cons, List.append_assoc, List.length_cons, decodeMany, first, others,
      bind, Except.bind, pure, Except.pure]

theorem decodeMany_canonical {codec : Codec α} (canonical : codec.Canonical) {count : Nat}
    {bytes : List UInt8} {values : List α} {rest : List UInt8}
    (success : decodeMany codec count bytes = .ok (values, rest)) :
    values.length = count ∧ bytes = values.flatMap codec.encode ++ rest := by
  induction count generalizing bytes values rest with
  | zero =>
    obtain ⟨rfl, rfl⟩ := Prod.mk.inj (Except.ok.inj success)
    exact ⟨rfl, rfl⟩
  | succ count ih =>
    obtain ⟨⟨value, middle⟩, read, success⟩ := Snapshot.bind_eq_ok success
    obtain ⟨⟨others, left⟩, readOthers, result⟩ := Snapshot.bind_eq_ok success
    obtain ⟨rfl, rfl⟩ := Prod.mk.inj (Except.ok.inj result)
    obtain ⟨length, same⟩ := ih readOthers
    refine ⟨by rw [List.length_cons, length], ?_⟩
    rw [List.flatMap_cons, List.append_assoc, ← same]
    exact canonical _ _ _ read

/-- The length in front of a sequence counts it if it fits in 64 bits. -/
theorem length_recovers {values : List α} (bounded : values.length < UInt64.size) :
    (UInt64.ofNat values.length).toNat = values.length :=
  UInt64.toNat_ofNat_of_lt' bounded

theorem Recovers.list {codec : Codec α} {values : List α} (bounded : values.length < UInt64.size)
    (recovers : ∀ value ∈ values, codec.Recovers value) : codec.list.Recovers values := by
  intro rest
  simp only [Codec.list, List.append_assoc, u64_recovers _ _, bind, Except.bind,
    length_recovers bounded, decodeMany_recovers recovers rest]

theorem Canonical.list {codec : Codec α} (canonical : codec.Canonical) :
    codec.list.Canonical := by
  intro bytes values rest success
  obtain ⟨⟨length, middle⟩, readLength, success⟩ := Snapshot.bind_eq_ok success
  obtain ⟨count, same⟩ := decodeMany_canonical canonical success
  have prefixed := u64_canonical _ _ _ readLength
  simp only [Codec.list, List.append_assoc, count, UInt64.ofNat_toNat, ← same, prefixed]

theorem bytes_recovers {block : List UInt8} (bounded : block.length < UInt64.size) :
    bytes.Recovers block := by
  intro rest
  simp only [bytes, List.append_assoc, u64_recovers _ _, bind, Except.bind,
    length_recovers bounded, takeBytes_append]

theorem bytes_canonical : bytes.Canonical := by
  intro source block rest success
  obtain ⟨⟨length, middle⟩, readLength, success⟩ := Snapshot.bind_eq_ok success
  obtain ⟨count, same⟩ := append_of_takeBytes success
  have prefixed := u64_canonical _ _ _ readLength
  simp only [bytes, List.append_assoc, count, UInt64.ofNat_toNat, ← same, prefixed]

theorem decodeVector_recovers {codec : Codec α} {count : Nat} (values : Vector α count)
    (recovers : ∀ value ∈ values, codec.Recovers value) (rest : List UInt8) :
    decodeVector codec count (values.toList.flatMap codec.encode ++ rest) = .ok (values, rest) := by
  induction count generalizing rest with
  | zero =>
    obtain rfl : values = #v[] := Vector.eq_empty
    rfl
  | succ count ih =>
    obtain ⟨front, last, rfl⟩ : ∃ front last, values = front.push last :=
      ⟨values.pop, values.back, (Vector.push_pop_back values).symm⟩
    have earlier := ih front
      (fun value member => recovers value (Vector.mem_push_of_mem last member))
      (codec.encode last ++ rest)
    have final := recovers last Vector.mem_push_self rest
    simp only [Vector.toList_push, List.flatMap_append, List.flatMap_cons, List.flatMap_nil,
      List.append_nil, List.append_assoc, decodeVector, earlier, final, bind, Except.bind, pure,
      Except.pure]

theorem Recovers.vector {codec : Codec α} {count : Nat} {values : Vector α count}
    (recovers : ∀ value ∈ values, codec.Recovers value) : (codec.vector count).Recovers values :=
  decodeVector_recovers values recovers

theorem Canonical.vector {codec : Codec α} (canonical : codec.Canonical) (count : Nat) :
    (codec.vector count).Canonical := by
  induction count with
  | zero =>
    intro bytes values rest success
    obtain ⟨rfl, rfl⟩ := Prod.mk.inj (Except.ok.inj success)
    rfl
  | succ count ih =>
    intro bytes values rest success
    obtain ⟨⟨front, middle⟩, readFront, success⟩ := Snapshot.bind_eq_ok success
    obtain ⟨⟨last, left⟩, readLast, result⟩ := Snapshot.bind_eq_ok success
    obtain ⟨rfl, rfl⟩ := Prod.mk.inj (Except.ok.inj result)
    have earlier := ih _ _ _ readFront
    simp only [Codec.vector, Vector.toList_push, List.flatMap_append, List.flatMap_cons,
      List.flatMap_nil, List.append_nil, List.append_assoc, ← canonical _ _ _ readLast] at earlier ⊢
    exact earlier

/-! ### Alternatives -/

theorem variant_recovers {count : Nat} {index : α → UInt32} {ofIndex? : UInt32 → Option α}
    {value : α} (inverse : ofIndex? (index value) = some value) :
    (variant count index ofIndex?).Recovers value := by
  intro rest
  simp only [variant, u32_recovers _ _, bind, Except.bind, inverse, pure, Except.pure]

theorem variant_canonical {count : Nat} {index : α → UInt32} {ofIndex? : UInt32 → Option α}
    (inverse : ∀ tag value, ofIndex? tag = some value → index value = tag) :
    (variant count index ofIndex?).Canonical := by
  intro bytes value rest success
  obtain ⟨⟨tag, left⟩, readTag, success⟩ := Snapshot.bind_eq_ok success
  have prefixed := u32_canonical _ _ _ readTag
  cases found : ofIndex? tag with
  | none => simp [found] at success
  | some named =>
    simp only [found, pure, Except.pure] at success
    obtain ⟨rfl, rfl⟩ := Prod.mk.inj (Except.ok.inj success)
    simpa only [variant, inverse _ _ found] using prefixed

/-! ### Formats without lengths -/

/-- A format that reads back every value and reads nothing but written forms. -/
structure Faithful (codec : Codec α) : Prop where
  recovers : ∀ value, codec.Recovers value
  canonical : codec.Canonical

theorem u8_faithful : u8.Faithful := ⟨u8_recovers, u8_canonical⟩

theorem u16_faithful : u16.Faithful := ⟨u16_recovers, u16_canonical⟩

theorem u32_faithful : u32.Faithful := ⟨u32_recovers, u32_canonical⟩

theorem u64_faithful : u64.Faithful := ⟨u64_recovers, u64_canonical⟩

theorem bool_faithful : bool.Faithful := ⟨bool_recovers, bool_canonical⟩

theorem Faithful.pair {first : Codec α} {second : Codec β} (before : first.Faithful)
    (behind : second.Faithful) : (first.pair second).Faithful :=
  ⟨fun value => (before.recovers value.1).pair (behind.recovers value.2),
    before.canonical.pair behind.canonical⟩

theorem Faithful.iso {codec : Codec α} (faithful : codec.Faithful) {make : α → β} {parts : β → α}
    (made : ∀ value, make (parts value) = value) (taken : ∀ value, parts (make value) = value) :
    (codec.iso make parts).Faithful :=
  ⟨fun value => (faithful.recovers _).iso (made value), faithful.canonical.iso taken⟩

theorem Faithful.option {codec : Codec α} (faithful : codec.Faithful) : codec.option.Faithful :=
  ⟨fun _ => .option fun inner _ => faithful.recovers inner, faithful.canonical.option⟩

theorem Faithful.vector {codec : Codec α} (faithful : codec.Faithful) (count : Nat) :
    (codec.vector count).Faithful :=
  ⟨fun _ => .vector fun value _ => faithful.recovers value, faithful.canonical.vector count⟩

theorem variant_faithful {count : Nat} {index : α → UInt32} {ofIndex? : UInt32 → Option α}
    (found : ∀ value, ofIndex? (index value) = some value)
    (named : ∀ tag value, ofIndex? tag = some value → index value = tag) :
    (variant count index ofIndex?).Faithful :=
  ⟨fun value => variant_recovers (found value), variant_canonical named⟩

end Nes.Codec
