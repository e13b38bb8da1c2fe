import GameScript.Codec.Bytes
import GameScript.Double.Single
import GameScript.Text.Utf8

/-! The binary format, described as data. A `Format` says what comes in which order, `Value` is the
type of what it holds, and `encode` and `decode` follow it:

* numbers are little-endian with a fixed width, floats by their bits, a truth value is one byte;
* a list or text has an eight-byte length before its items or UTF-8 bytes, at most `maxLength`;
* an option is a byte 0 or a byte 1 and the value, a variant is the tag byte of the case that was
  chosen and its value;
* the two parts of a pair stand back to back, so records and fixed arrays are nested pairs. -/

namespace GameScript.Codec

/-- The tag bytes of the cases of a variant, no two of them alike. -/
structure Tags (count : Nat) where
  byte : Fin count → UInt8
  distinct : ∀ i j, byte i = byte j → i = j

namespace Tags

/-- Every case has its position as its tag. -/
def positions (count : Nat) (few : count ≤ UInt8.size) : Tags count where
  byte choice := UInt8.ofNat choice
  distinct i j same := by
    have bytes := congrArg UInt8.toNat same
    rw [UInt8.toNat_ofNat_of_lt' (Nat.lt_of_lt_of_le i.isLt few),
      UInt8.toNat_ofNat_of_lt' (Nat.lt_of_lt_of_le j.isLt few)] at bytes
    exact Fin.ext bytes

def find? (tags : Tags count) (byte : Nat) : Option (Fin count) :=
  (List.finRange count).find? fun choice => (tags.byte choice).toNat == byte

end Tags

inductive Format where
  | word8 | word16 | word32 | word64
  | int8 | int16 | int32 | int64
  | single | double
  | bool
  | text
  | unit
  | pair (first second : Format)
  | list (item : Format)
  | option (item : Format)
  | variant (count : Nat) (tags : Tags count) (case : Fin count → Format)

/-- Lists and texts longer than this are refused when read. -/
def maxLength : Nat := 1000000

namespace Format

/-- `count` items back to back, without a length. -/
def array : Nat → Format → Format
  | 0, _ => .unit
  | count + 1, item => .pair item (array count item)

def Value : Format → Type
  | .word8 => UInt8
  | .word16 => UInt16
  | .word32 => UInt32
  | .word64 => UInt64
  | .int8 => Int8
  | .int16 => Int16
  | .int32 => Int32
  | .int64 => Int64
  | .single => Single
  | .double => Double
  | .bool => Bool
  | .text => String
  | .unit => Unit
  | .pair first second => first.Value × second.Value
  | .list item => List item.Value
  | .option item => Option item.Value
  | .variant count _ case => (choice : Fin count) × (case choice).Value

def encode : (format : Format) → format.Value → Bytes
  | .word8, (v : UInt8) => littleEndian 1 v.toNat
  | .word16, (v : UInt16) => littleEndian 2 v.toNat
  | .word32, (v : UInt32) => littleEndian 4 v.toNat
  | .word64, (v : UInt64) => littleEndian 8 v.toNat
  | .int8, (v : Int8) => littleEndian 1 v.toUInt8.toNat
  | .int16, (v : Int16) => littleEndian 2 v.toUInt16.toNat
  | .int32, (v : Int32) => littleEndian 4 v.toUInt32.toNat
  | .int64, (v : Int64) => littleEndian 8 v.toUInt64.toNat
  | .single, (v : Single) => littleEndian 4 v.bits.toNat
  | .double, (v : Double) => littleEndian 8 v.bits.toNat
  | .bool, (v : Bool) => littleEndian 1 (if v then 1 else 0)
  | .text, (v : String) => littleEndian 8 (Text.utf8 v).length ++ Text.utf8 v
  | .unit, _ => []
  | .pair first second, (v : first.Value × second.Value) => first.encode v.1 ++ second.encode v.2
  | .list item, (v : List item.Value) => littleEndian 8 v.length ++ v.flatMap item.encode
  | .option item, (v : Option item.Value) =>
    match v with
    | none => littleEndian 1 0
    | some value => littleEndian 1 1 ++ item.encode value
  | .variant _ tags case, (v : (choice : Fin _) × (case choice).Value) =>
    littleEndian 1 (tags.byte v.1).toNat ++ (case v.1).encode v.2

def number (width : Nat) : Decoder Nat := do
  let bytes ← Decoder.take width
  pure (ofLittleEndian bytes)

def length (limit : Nat) : Decoder Nat := do
  let count ← number 8
  if limit < count then Decoder.fail .lengthOverflow else pure count

def decodeText (limit : Nat) : Decoder String := do
  let count ← length limit
  let bytes ← Decoder.replicate count (number 1)
  match Text.ofUtf8? (bytes.map UInt8.ofNat) with
  | some read => pure read
  | none => Decoder.fail .invalidValue

def decodeBool : Decoder Bool := do
  let n ← number 1
  if n = 0 then return false
  else if n = 1 then return true
  else Decoder.fail .invalidValue

def decodeOption (item : Decoder α) : Decoder (Option α) := do
  let n ← number 1
  if n = 0 then return none
  else if n = 1 then do
    let value ← item
    return some value
  else Decoder.fail .invalidValue

/-- A tag, and a value of the case that has it. -/
def decodeVariant {kind : Fin count → Type} (tags : Tags count)
    (case : (choice : Fin count) → Decoder (kind choice)) :
    Decoder ((choice : Fin count) × kind choice) := do
  let n ← number 1
  match tags.find? n with
  | some choice => do
    let value ← case choice
    return ⟨choice, value⟩
  | none => Decoder.fail .invalidValue

/-- Reads a value whose lists and texts are no longer than `limit`. -/
def decodeWithin (limit : Nat) : (format : Format) → Decoder format.Value
  | .word8 => do let n ← number 1; return (UInt8.ofNat n : UInt8)
  | .word16 => do let n ← number 2; return (UInt16.ofNat n : UInt16)
  | .word32 => do let n ← number 4; return (UInt32.ofNat n : UInt32)
  | .word64 => do let n ← number 8; return (UInt64.ofNat n : UInt64)
  | .int8 => do let n ← number 1; return ((UInt8.ofNat n).toInt8 : Int8)
  | .int16 => do let n ← number 2; return ((UInt16.ofNat n).toInt16 : Int16)
  | .int32 => do let n ← number 4; return ((UInt32.ofNat n).toInt32 : Int32)
  | .int64 => do let n ← number 8; return ((UInt64.ofNat n).toInt64 : Int64)
  | .single => do let n ← number 4; return (⟨UInt32.ofNat n⟩ : Single)
  | .double => do let n ← number 8; return (⟨UInt64.ofNat n⟩ : Double)
  | .bool => decodeBool
  | .text => decodeText limit
  | .unit => pure ()
  | .pair first second => do
    let a ← first.decodeWithin limit
    let b ← second.decodeWithin limit
    return ((a, b) : first.Value × second.Value)
  | .list item => do
    let count ← length limit
    Decoder.replicate count (item.decodeWithin limit)
  | .option item => decodeOption (item.decodeWithin limit)
  | .variant _ tags case => decodeVariant tags fun choice => (case choice).decodeWithin limit

def decode (format : Format) : Decoder format.Value := format.decodeWithin maxLength

end Format

/-- A type with a binary form: a format, and the way to its values and back. -/
class Wire (α : Type) where
  format : Format
  toValue : α → format.Value
  ofValue : format.Value → α

def encode [Wire α] (value : α) : Bytes := (Wire.format α).encode (Wire.toValue value)

def decode [Wire α] : Decoder α := do
  let value ← (Wire.format α).decode
  return Wire.ofValue value

end GameScript.Codec
