/-!
Fixed-width text: hexadecimal digits and columns.
-/

namespace Nes.Text

/-- At least `width` upper-case hexadecimal digits. -/
def hex (width n : Nat) : String :=
  let digits := (Nat.toDigits 16 n).map Char.toUpper
  String.ofList (List.replicate (width - digits.length) '0' ++ digits)

def hexByte (byte : UInt8) : String := hex 2 byte.toNat

def hexWord (word : UInt16) : String := hex 4 word.toNat

/-- Blanks that fill a text up to `width` characters. -/
def padding (width : Nat) (text : String) : String :=
  String.ofList (List.replicate (width - text.length) ' ')

/-- The text at the left of a column. -/
def alignLeft (width : Nat) (text : String) : String := text ++ padding width text

def alignRight (width : Nat) (text : String) : String := padding width text ++ text

end Nes.Text
