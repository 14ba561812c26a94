/-!
Operations that ask first. A machine stops when a place is outside its table, when a difference
falls below zero, when a sum or product does not fit its word, or when a shift is as long as the
word; where none of this happens the operation is the plain one.
-/

namespace Nes

/-- Why an operation stops the machine. -/
inductive Trap where
  /-- A place outside a table. -/
  | index
  | underflow
  | overflow
  /-- A shift by the width of the word or more. -/
  | shift
  /-- A count of 64 bits that runs over. -/
  | counter
  deriving DecidableEq

/-- A result, or the first operation that could not be carried out. -/
abbrev Checked := Except Trap

/-- Numbers below a fixed size. -/
class Word (α : Type) where
  size : Nat
  toNat : α → Nat

instance : Word UInt8 := ⟨UInt8.size, UInt8.toNat⟩

instance : Word UInt16 := ⟨UInt16.size, UInt16.toNat⟩

instance : Word UInt32 := ⟨UInt32.size, UInt32.toNat⟩

instance : Word UInt64 := ⟨UInt64.size, UInt64.toNat⟩

namespace Checked

variable {α β : Type} [Word α]

def add [Add α] (left right : α) : Checked α :=
  if Word.toNat left + Word.toNat right < Word.size α then .ok (left + right)
  else .error .overflow

def mul [Mul α] (left right : α) : Checked α :=
  if Word.toNat left * Word.toNat right < Word.size α then .ok (left * right)
  else .error .overflow

def sub [Sub α] (left right : α) : Checked α :=
  if Word.toNat right ≤ Word.toNat left then .ok (left - right) else .error .underflow

/-- A count of 64 bits that goes on. -/
def count (total more : UInt64) : Checked UInt64 :=
  if total.toNat + more.toNat < UInt64.size then .ok (total + more) else .error .counter

/-- A difference of places. -/
def subPlace (left right : Nat) : Checked Nat :=
  if right ≤ left then .ok (left - right) else .error .underflow

/-- A signed word of 32 bits. -/
def signed (value : Int) : Checked Int :=
  if -0x80000000 ≤ value ∧ value < 0x80000000 then .ok value else .error .overflow

/-- A shift of a word of `width` bits. -/
def shift (distance width : Nat) : Checked Unit :=
  if distance < width then .ok () else .error .shift

/-- A place within a table of `size` entries. -/
def inside (place size : Nat) : Checked Unit :=
  if place < size then .ok () else .error .index

/-- A slice of the first `count` entries of a table. -/
def upTo (count size : Nat) : Checked Unit :=
  if count ≤ size then .ok () else .error .index

/-- The entry of a table. -/
def entry {size : Nat} (table : Vector β size) (place : Nat) : Checked β :=
  if within : place < size then .ok table[place] else .error .index

/-- The table with another entry. -/
def replace {size : Nat} (table : Vector β size) (place : Nat) (value : β) :
    Checked (Vector β size) :=
  if within : place < size then .ok (table.set place value) else .error .index

/-- The item of an array. -/
def item (items : Array β) (place : Nat) : Checked β :=
  if within : place < items.size then .ok items[place] else .error .index

/-- The array with another item. -/
def replaceItem (items : Array β) (place : Nat) (value : β) : Checked (Array β) :=
  if within : place < items.size then .ok (items.set place value) else .error .index

/-! ### Operations that can be carried out -/

theorem add_ok [Add α] (left right : α)
    (fits : Word.toNat left + Word.toNat right < Word.size α) :
    add left right = .ok (left + right) := if_pos fits

theorem mul_ok [Mul α] (left right : α)
    (fits : Word.toNat left * Word.toNat right < Word.size α) :
    mul left right = .ok (left * right) := if_pos fits

theorem sub_ok [Sub α] (left right : α) (enough : Word.toNat right ≤ Word.toNat left) :
    sub left right = .ok (left - right) := if_pos enough

theorem subPlace_ok {left right : Nat} (enough : right ≤ left) :
    subPlace left right = .ok (left - right) := if_pos enough

theorem signed_ok {value : Int} (low : -0x80000000 ≤ value) (high : value < 0x80000000) :
    signed value = .ok value := if_pos ⟨low, high⟩

theorem shift_ok {distance width : Nat} (short : distance < width) :
    shift distance width = .ok () := if_pos short

theorem inside_ok {place size : Nat} (within : place < size) : inside place size = .ok () :=
  if_pos within

theorem upTo_ok {count size : Nat} (enough : count ≤ size) : upTo count size = .ok () :=
  if_pos enough

theorem entry_ok {size : Nat} {table : Vector β size} {place : Nat} (within : place < size) :
    entry table place = .ok table[place] := dif_pos within

theorem replace_ok {size : Nat} {table : Vector β size} {place : Nat} (within : place < size)
    (value : β) : replace table place value = .ok (table.set place value) := dif_pos within

theorem item_ok {items : Array β} {place : Nat} (within : place < items.size) :
    item items place = .ok items[place] := dif_pos within

theorem replaceItem_ok {items : Array β} {place : Nat} (within : place < items.size) (value : β) :
    replaceItem items place value = .ok (items.set place value) := dif_pos within

/-- A counter above zero can be counted down. -/
theorem count8 {counter : UInt8} (running : 0 < counter) :
    sub counter 1 = .ok (counter - 1) :=
  sub_ok counter 1 (UInt8.lt_iff_toNat_lt.mp running)

theorem count16 {counter : UInt16} (running : 0 < counter) :
    sub counter 1 = .ok (counter - 1) :=
  sub_ok counter 1 (UInt16.lt_iff_toNat_lt.mp running)

/-! ### Chains -/

@[simp] theorem ok_bind {γ : Type} (value : β) (next : β → Checked γ) :
    ((Except.ok value : Checked β) >>= next) = next value := rfl

@[simp] theorem pure_eq (value : β) : (pure value : Checked β) = .ok value := rfl

end Checked

end Nes
