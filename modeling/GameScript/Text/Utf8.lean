/-! Text as UTF-8 bytes. Reading is either exact, refusing bytes that are no text, or lenient,
where each longest beginning of a character that is never completed becomes one U+FFFD. -/

namespace GameScript.Text

def utf8 (text : String) : List UInt8 := text.toUTF8.data.toList

/-- The text with exactly these bytes, if there is one. -/
def ofUtf8? (bytes : List UInt8) : Option String := String.fromUTF8? ⟨bytes.toArray⟩

def byteLength (text : String) : Nat := text.utf8ByteSize

/-- What may follow a first byte: the number of bytes after it, the value bits it holds itself and
the range of the second byte. -/
structure Lead where
  tail : Nat
  high : Nat
  low : UInt8
  top : UInt8

def lead? (b : UInt8) : Option Lead :=
  if b < 0x80 then some ⟨0, b.toNat, 0x80, 0xbf⟩
  else if b < 0xc2 then none
  else if b < 0xe0 then some ⟨1, b.toNat - 0xc0, 0x80, 0xbf⟩
  else if b < 0xf0 then
    some ⟨2, b.toNat - 0xe0, if b == 0xe0 then 0xa0 else 0x80, if b == 0xed then 0x9f else 0xbf⟩
  else if b < 0xf5 then
    some ⟨3, b.toNat - 0xf0, if b == 0xf0 then 0x90 else 0x80, if b == 0xf4 then 0x8f else 0xbf⟩
  else none

def replacement : Char := Char.ofNat 0xfffd

/-- Reads bytes leniently. `owed` bytes of the current character are still to come, the next of
them between `low` and `top`, and `value` holds the bits read so far. -/
def lossyFrom (owed value : Nat) (low top : UInt8) : List UInt8 → List Char
  | [] => if owed = 0 then [] else [replacement]
  | b :: rest =>
    if owed = 0 then
      match lead? b with
      | none => replacement :: lossyFrom 0 0 0x80 0xbf rest
      | some lead =>
        if lead.tail = 0 then Char.ofNat lead.high :: lossyFrom 0 0 0x80 0xbf rest
        else lossyFrom lead.tail lead.high lead.low lead.top rest
    else if low ≤ b && b ≤ top then
      let value := value * 64 + (b.toNat - 0x80)
      if owed = 1 then Char.ofNat value :: lossyFrom 0 0 0x80 0xbf rest
      else lossyFrom (owed - 1) value 0x80 0xbf rest
    else
      match lead? b with
      | none => replacement :: replacement :: lossyFrom 0 0 0x80 0xbf rest
      | some lead =>
        if lead.tail = 0 then replacement :: Char.ofNat lead.high :: lossyFrom 0 0 0x80 0xbf rest
        else replacement :: lossyFrom lead.tail lead.high lead.low lead.top rest

/-- Reads any bytes as text, with U+FFFD for what is no character. -/
def ofUtf8Lossy (bytes : List UInt8) : String := String.ofList (lossyFrom 0 0 0x80 0xbf bytes)

end GameScript.Text
