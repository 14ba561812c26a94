/-!
Byte formats of snapshots. A codec writes a value as bytes and reads one value from the front of a
byte string. Words are little-endian, lists carry a 64-bit length, an alternative a 32-bit index,
an optional value a tag byte; pairs are written one after the other and the first field that cannot
be read decides the error.
-/

namespace Nes

/-- Why a byte string holds no value of the expected shape. -/
inductive DecodeError where
  | unexpectedEnd
  | invalidBool (byte : UInt8)
  | invalidTag (byte : UInt8)
  | invalidVariant (index : UInt32) (count : Nat)
  deriving DecidableEq

def DecodeError.message : DecodeError → String
  | .unexpectedEnd => "io error: unexpected end of file"
  | .invalidBool byte =>
    "invalid u8 while decoding bool, expected 0 or 1, found " ++ toString byte.toNat
  | .invalidTag byte => "tag for enum is not valid, found " ++ toString byte.toNat
  | .invalidVariant index count =>
    "invalid value: integer \x60" ++ toString index.toNat ++
      "\x60, expected variant index 0 <= i < " ++ toString count

/-- A way to write a value, and to read one value and keep the bytes behind it. -/
structure Codec (α : Type) where
  encode : α → List UInt8
  decode : List UInt8 → Except DecodeError (α × List UInt8)

namespace Codec

variable {α β : Type}

/-- The `count` low base-256 digits of `n`, least significant first. -/
def digits : Nat → Nat → List UInt8
  | 0, _ => []
  | count + 1, n => UInt8.ofNat n :: digits count (n / 256)

/-- The number whose base-256 digits are given, least significant first. -/
def ofDigits : List UInt8 → Nat
  | [] => 0
  | digit :: rest => digit.toNat + 256 * ofDigits rest

/-- The next `count` bytes and the bytes behind them. -/
def takeBytes (count : Nat) (bytes : List UInt8) : Except DecodeError (List UInt8 × List UInt8) :=
  let block := bytes.take count
  if block.length = count then .ok (block, bytes.drop count) else .error .unexpectedEnd

def word (count : Nat) : Codec Nat where
  encode n := digits count n
  decode bytes := do
    let (block, rest) ← takeBytes count bytes
    return (ofDigits block, rest)

/-- The same bytes under another type. -/
def iso (codec : Codec α) (make : α → β) (parts : β → α) : Codec β where
  encode value := codec.encode (parts value)
  decode bytes := do
    let (value, rest) ← codec.decode bytes
    return (make value, rest)

def pair (first : Codec α) (second : Codec β) : Codec (α × β) where
  encode value := first.encode value.1 ++ second.encode value.2
  decode bytes := do
    let (left, rest) ← first.decode bytes
    let (right, rest) ← second.decode rest
    return ((left, right), rest)

def unit : Codec Unit where
  encode _ := []
  decode bytes := .ok ((), bytes)

def u8 : Codec UInt8 where
  encode byte := [byte]
  decode
    | [] => .error .unexpectedEnd
    | byte :: rest => .ok (byte, rest)

def u16 : Codec UInt16 := (word 2).iso UInt16.ofNat UInt16.toNat

def u32 : Codec UInt32 := (word 4).iso UInt32.ofNat UInt32.toNat

def u64 : Codec UInt64 := (word 8).iso UInt64.ofNat UInt64.toNat

/-- A truth value is the byte 0 or 1. -/
def bool : Codec Bool where
  encode value := [if value then 1 else 0]
  decode
    | [] => .error .unexpectedEnd
    | byte :: rest =>
      if byte = 0 then .ok (false, rest)
      else if byte = 1 then .ok (true, rest)
      else .error (.invalidBool byte)

/-- The byte 0, or the byte 1 and the value. -/
def option (codec : Codec α) : Codec (Option α) where
  encode
    | none => [0]
    | some value => 1 :: codec.encode value
  decode
    | [] => .error .unexpectedEnd
    | byte :: rest =>
      if byte = 0 then .ok (none, rest)
      else if byte = 1 then do
        let (value, rest) ← codec.decode rest
        return (some value, rest)
      else .error (.invalidTag byte)

/-- `count` values one after the other. -/
def decodeMany (codec : Codec α) : Nat → List UInt8 → Except DecodeError (List α × List UInt8)
  | 0, bytes => .ok ([], bytes)
  | count + 1, bytes => do
    let (value, rest) ← codec.decode bytes
    let (values, rest) ← decodeMany codec count rest
    return (value :: values, rest)

/-- A length and then that many values. -/
def list (codec : Codec α) : Codec (List α) where
  encode values := u64.encode (UInt64.ofNat values.length) ++ values.flatMap codec.encode
  decode bytes := do
    let (length, rest) ← u64.decode bytes
    decodeMany codec length.toNat rest

/-- A length and then that many bytes; the same format as a list of single bytes. -/
def bytes : Codec (List UInt8) where
  encode block := u64.encode (UInt64.ofNat block.length) ++ block
  decode bytes := do
    let (length, rest) ← u64.decode bytes
    takeBytes length.toNat rest

/-- The values of a vector of fixed size, read in order. -/
def decodeVector (codec : Codec α) :
    (count : Nat) → List UInt8 → Except DecodeError (Vector α count × List UInt8)
  | 0, bytes => .ok (#v[], bytes)
  | count + 1, bytes => do
    let (values, rest) ← decodeVector codec count bytes
    let (value, rest) ← codec.decode rest
    return (values.push value, rest)

/-- A fixed number of values, without a length. -/
def vector (codec : Codec α) (count : Nat) : Codec (Vector α count) where
  encode values := values.toList.flatMap codec.encode
  decode bytes := decodeVector codec count bytes

/-- One of a fixed list of names, written as its 32-bit index. -/
def variant (count : Nat) (index : α → UInt32) (ofIndex? : UInt32 → Option α) : Codec α where
  encode value := u32.encode (index value)
  decode bytes := do
    let (tag, rest) ← u32.decode bytes
    match ofIndex? tag with
    | some value => return (value, rest)
    | none => .error (.invalidVariant tag count)

end Codec

end Nes
