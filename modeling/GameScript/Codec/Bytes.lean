/-! Bytes and how they are read. A decoder answers a value or a fault and always says which bytes
it left unread: a read of a fixed width that finds too few bytes takes none of them. -/

namespace GameScript.Codec

abbrev Bytes := List UInt8

inductive DecodeFault where
  | unexpectedEnd
  | invalidValue
  | lengthOverflow
deriving DecidableEq, Repr

def DecodeFault.message : DecodeFault → String
  | .unexpectedEnd => "unexpected end of input"
  | .invalidValue => "invalid value"
  | .lengthOverflow => "length prefix too large"

/-- The result together with the unread bytes. -/
def Decoder (α : Type) := Bytes → Except DecodeFault α × Bytes

namespace Decoder

protected def pure (value : α) : Decoder α := fun input => (.ok value, input)

protected def bind (first : Decoder α) (next : α → Decoder β) : Decoder β := fun input =>
  match first input with
  | (.ok value, rest) => next value rest
  | (.error fault, rest) => (.error fault, rest)

instance : Monad Decoder where
  pure := Decoder.pure
  bind := Decoder.bind

def fail (fault : DecodeFault) : Decoder α := fun input => (.error fault, input)

/-- The next `width` bytes, or a fault that leaves the input as it is. -/
def take (width : Nat) : Decoder Bytes := fun input =>
  if input.length < width then (.error .unexpectedEnd, input)
  else (.ok (input.take width), input.drop width)

def replicate : Nat → Decoder α → Decoder (List α)
  | 0, _ => pure []
  | count + 1, item => do
    let head ← item
    let tail ← replicate count item
    pure (head :: tail)

/-- A value that must take up all of the input. -/
def whole (decoder : Decoder α) (input : Bytes) : Except DecodeFault α :=
  match decoder input with
  | (.ok value, []) => .ok value
  | (.ok _, _ :: _) => .error .invalidValue
  | (.error fault, _) => .error fault

end Decoder

/-- The `width` low bytes of a number, least significant first. -/
def littleEndian : Nat → Nat → Bytes
  | 0, _ => []
  | width + 1, n => UInt8.ofNat n :: littleEndian width (n / 256)

/-- The number with these bytes, least significant first. -/
def ofLittleEndian : Bytes → Nat
  | [] => 0
  | b :: rest => b.toNat + 256 * ofLittleEndian rest

end GameScript.Codec
