import Mathlib.Data.List.Basic
import Nes.Text.Layout

/-!
Text read back. A reader takes a value off the front of a text and leaves the rest: digits give the
number that was written, and a column gives what was put into it.
-/

namespace Nes.Text

/-! ### Hexadecimal numbers -/

def hexDigits : List Char :=
  ['0', '1', '2', '3', '4', '5', '6', '7', '8', '9', 'A', 'B', 'C', 'D', 'E', 'F']

/-- What a digit stands for; letters are upper case. -/
def digit? (digit : Char) : Option Nat := hexDigits.idxOf? digit

/-- A number, its most significant digit first. -/
def number? (digits : List Char) : Option Nat :=
  digits.foldlM (fun number digit => (digit? digit).map (16 * number + ·)) 0

theorem digit?_digitChar {n : Nat} (small : n < 16) : digit? n.digitChar.toUpper = some n := by
  have all : ∀ n < 16, digit? n.digitChar.toUpper = some n := by decide
  exact all n small

theorem number?_concat (digits : List Char) (digit : Char) :
    number? (digits ++ [digit]) =
      (number? digits).bind fun number => (digit? digit).map (16 * number + ·) := by
  simp [number?, List.foldlM_append]

/-- By induction on the number without its last digit. -/
theorem number?_toDigits (n : Nat) : number? ((Nat.toDigits 16 n).map Char.toUpper) = some n := by
  induction n using Nat.strongRecOn with
  | ind n ih =>
    by_cases small : n < 16
    · rw [Nat.toDigits_of_lt_base small]
      simp [number?, digit?_digitChar small]
    · have large : 16 ≤ n := Nat.le_of_not_lt small
      have earlier := ih (n / 16) (Nat.div_lt_self (by omega) (by decide))
      have last := digit?_digitChar (Nat.mod_lt n (by decide : 0 < 16))
      rw [Nat.toDigits_of_base_le (by decide) large, List.map_append, List.map_singleton,
        number?_concat, earlier, last]
      exact congrArg some (Nat.div_add_mod n 16)

/-- Leading zeros do not count. -/
theorem number?_zeros (count : Nat) (digits : List Char) :
    number? (List.replicate count '0' ++ digits) = number? digits := by
  induction count with
  | zero => rfl
  | succ count ih => exact ih

theorem number?_hex (width n : Nat) : number? (hex width n).toList = some n := by
  rw [hex, String.toList_ofList, number?_zeros, number?_toDigits]

theorem length_hex {width n : Nat} (fits : (Nat.toDigits 16 n).length ≤ width) :
    (hex width n).toList.length = width := by
  simp only [hex, String.toList_ofList, List.length_append, List.length_replicate, List.length_map]
  omega

theorem length_hexByte (byte : UInt8) : (hexByte byte).toList.length = 2 :=
  length_hex ((Nat.length_toDigits_le_iff (by decide) (by decide)).mpr byte.toNat_lt)

theorem length_hexWord (word : UInt16) : (hexWord word).toList.length = 4 :=
  length_hex ((Nat.length_toDigits_le_iff (by decide) (by decide)).mpr word.toNat_lt)

/-! ### Readers -/

/-- Takes a value off the front of a text and leaves the rest. -/
abbrev Reader := StateT (List Char) Option

variable {α : Type}

/-- A column of so many characters, read as a whole. -/
def column (width : Nat) (read : List Char → Option α) : Reader α := fun text =>
  if text.length < width then none else (read (text.take width)).map (·, text.drop width)

/-- Nothing but the given words. -/
def literal (words : String) : Reader Unit :=
  column words.toList.length fun text => if text = words.toList then some () else none

def byte : Reader UInt8 := column 2 fun digits => (number? digits).map UInt8.ofNat

def word : Reader UInt16 := column 4 fun digits => (number? digits).map UInt16.ofNat

/-- A number in decimal digits, as many as there are. -/
def decimal : Reader Nat := fun text =>
  let digits := text.takeWhile Char.isDigit
  if digits.isEmpty then none
  else some (Nat.ofDigitChars 10 digits 0, text.dropWhile Char.isDigit)

/-- Any number of blanks. -/
def blanks : Reader Unit := fun text => some ((), text.dropWhile (· == ' '))

/-- The words at the right of a column. -/
def rightWords (text : List Char) : Option String :=
  (blanks.run text).map fun (_, rest) => String.ofList rest

/-- What is read has nothing but blanks behind it. -/
def filled (reader : Reader α) (text : List Char) : Option α :=
  (reader.run text).bind fun (value, rest) => if rest.all (· == ' ') then some value else none

/-- Bytes in two digits each, with blanks between them. -/
def bytes? : List Char → Option (List UInt8)
  | [] => some []
  | ' ' :: rest => bytes? rest
  | high :: low :: rest => do
    let byte ← number? [high, low]
    return UInt8.ofNat byte :: (← bytes? rest)
  | [_] => none

theorem column_run {width : Nat} {read : List Char → Option α} {text : List Char} {value : α}
    (wide : text.length = width) (found : read text = some value) (rest : List Char) :
    (column width read).run (text ++ rest) = some (value, rest) := by
  subst width
  have long : ¬ (text ++ rest).length < text.length := by simp
  simp only [StateT.run, column, if_neg long, List.take_left, List.drop_left, found,
    Option.map_some]

theorem literal_run (words : String) (rest : List Char) :
    (literal words).run (words.toList ++ rest) = some ((), rest) :=
  column_run rfl (if_pos rfl) rest

theorem byte_run (value : UInt8) (rest : List Char) :
    byte.run ((hexByte value).toList ++ rest) = some (value, rest) :=
  column_run (length_hexByte value) (by rw [hexByte, number?_hex]; simp) rest

theorem word_run (value : UInt16) (rest : List Char) :
    word.run ((hexWord value).toList ++ rest) = some (value, rest) :=
  column_run (length_hexWord value) (by rw [hexWord, number?_hex]; simp) rest

/-- Where a number ends there is no other digit. -/
theorem decimal_run (n : Nat) {rest : List Char} (ends : ∀ next ∈ rest.head?, next.isDigit = false) :
    decimal.run ((toString n).toList ++ rest) = some (n, rest) := by
  have digits : ∀ digit ∈ Nat.toDigits 10 n, digit.isDigit = true :=
    fun digit member => Nat.isDigit_of_mem_toDigits (by decide) (by decide) member
  have behind : rest.takeWhile Char.isDigit = [] ∧ rest.dropWhile Char.isDigit = rest := by
    cases rest with
    | nil => exact ⟨rfl, rfl⟩
    | cons next rest =>
      have last : next.isDigit = false := ends next rfl
      simp [last]
  have written : Nat.toDigits 10 n ≠ [] := Nat.toDigits_ne_nil
  simp only [StateT.run, decimal, Nat.toString_eq_repr, Nat.toList_repr,
    List.takeWhile_append_of_pos digits, List.dropWhile_append_of_pos digits, behind,
    List.append_nil, List.isEmpty_iff, written, if_false]
  simp

/-! ### Columns -/

theorem toList_padding (width : Nat) (text : String) :
    (padding width text).toList = List.replicate (width - text.length) ' ' :=
  String.toList_ofList

theorem padding_blank (width : Nat) (text : String) :
    ∀ blank ∈ (padding width text).toList, (blank == ' ') = true := by
  intro blank member
  rw [toList_padding] at member
  exact beq_iff_eq.mpr (List.eq_of_mem_replicate member)

theorem length_alignLeft {width : Nat} {text : String} (fits : text.length ≤ width) :
    (alignLeft width text).toList.length = width := by
  rw [alignLeft, String.toList_append, toList_padding, List.length_append, List.length_replicate,
    String.length_toList]
  omega

theorem length_alignRight {width : Nat} {text : String} (fits : text.length ≤ width) :
    (alignRight width text).toList.length = width := by
  rw [alignRight, String.toList_append, toList_padding, List.length_append, List.length_replicate,
    String.length_toList]
  omega

theorem filled_alignLeft {reader : Reader α} {text : String} {value : α}
    (reads : ∀ rest, reader.run (text.toList ++ rest) = some (value, rest)) (width : Nat) :
    filled reader (alignLeft width text).toList = some value := by
  rw [alignLeft, String.toList_append, filled, reads, Option.bind_some]
  exact if_pos (List.all_eq_true.mpr (padding_blank width text))

/-- What does not begin with a blank is found at the right of its column. -/
theorem blanks_run {text : String} {first : Char} {others : List Char}
    (begins : text.toList = first :: others) (inked : (first == ' ') = false) (width : Nat)
    (rest : List Char) :
    blanks.run ((alignRight width text).toList ++ rest) = some ((), text.toList ++ rest) := by
  simp only [StateT.run, blanks, alignRight, String.toList_append, List.append_assoc,
    List.dropWhile_append_of_pos (padding_blank width text), begins, List.cons_append,
    List.dropWhile_cons, inked, Bool.false_eq_true, if_false]

theorem rightWords_alignRight {text : String} {first : Char} {others : List Char}
    (begins : text.toList = first :: others) (inked : (first == ' ') = false) (width : Nat) :
    rightWords (alignRight width text).toList = some text := by
  have found := blanks_run begins inked width []
  rw [List.append_nil, List.append_nil] at found
  rw [rightWords, found]
  exact congrArg some String.ofList_toList

/-- A number begins with a digit. -/
theorem exists_toList_toString (n : Nat) :
    ∃ first others, (toString n).toList = first :: others ∧ (first == ' ') = false := by
  rw [Nat.toString_eq_repr, Nat.toList_repr]
  obtain ⟨first, others, same⟩ := List.exists_cons_of_ne_nil (@Nat.toDigits_ne_nil n 10)
  have digit : first.isDigit = true :=
    Nat.isDigit_of_mem_toDigits (by decide) (by decide) (same ▸ List.mem_cons_self)
  refine ⟨first, others, same, beq_false_of_ne ?_⟩
  rintro rfl
  cases digit

/-! ### Rows of bytes -/

theorem bytes?_blanks (count : Nat) : bytes? (List.replicate count ' ') = some [] := by
  induction count with
  | zero => rfl
  | succ count ih => exact ih

theorem bytes?_hexByte (byte : UInt8) (rest : List Char) :
    bytes? ((hexByte byte).toList ++ rest) = (bytes? rest).map (byte :: ·) := by
  have found : number? (hexByte byte).toList = some byte.toNat := number?_hex 2 byte.toNat
  obtain ⟨high, low, digits⟩ := List.length_eq_two.mp (length_hexByte byte)
  have inked : high ≠ ' ' := by
    rintro rfl
    rw [digits] at found
    cases found
  rw [digits] at found ⊢
  rw [List.cons_append, List.cons_append, List.nil_append, bytes?]
  · rw [found]
    cases bytes? rest with
    | none => rfl
    | some bytes => simp
  · exact inked

/-- Bytes with blanks between them, at the left of a column. -/
theorem bytes?_alignLeft (bytes : List UInt8) (width : Nat) :
    bytes? (alignLeft width (" ".intercalate (bytes.map hexByte))).toList = some bytes := by
  rw [alignLeft, String.toList_append, toList_padding, String.toList_intercalate]
  generalize width - _ = count
  induction bytes with
  | nil => exact bytes?_blanks count
  | cons byte rest ih =>
    cases rest with
    | nil =>
      simp only [List.map_cons, List.map_nil, List.intercalate_singleton]
      rw [bytes?_hexByte, bytes?_blanks]
      rfl
    | cons next rest =>
      have skipped (text : List Char) : bytes? (" ".toList ++ text) = bytes? text := rfl
      simp only [List.map_cons, List.intercalate_cons_cons] at ih ⊢
      rw [List.append_assoc, List.append_assoc, bytes?_hexByte, skipped, ih]
      rfl

theorem length_intercalate_hexByte (bytes : List UInt8) :
    (" ".intercalate (bytes.map hexByte)).length ≤ 3 * bytes.length - 1 := by
  rw [← String.length_toList, String.toList_intercalate]
  induction bytes with
  | nil => exact Nat.le_refl 0
  | cons byte rest ih =>
    cases rest with
    | nil =>
      simp only [List.map_cons, List.map_nil, List.intercalate_singleton, length_hexByte,
        List.length_singleton]
      exact Nat.le_refl 2
    | cons next rest =>
      have blank : " ".toList.length = 1 := by simp
      simp only [List.map_cons, List.intercalate_cons_cons, List.length_append, List.length_cons,
        length_hexByte, blank] at ih ⊢
      omega

end Nes.Text
