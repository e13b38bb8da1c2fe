import GameScript.Text.Ascii
import GameScript.Text.Blank

/-! Integers as text. A reader takes a whole token and answers only when every character belongs to
the number and the number lies in the wanted range; `leading` reads the number a text starts with. -/

namespace GameScript.Text

def digitValue? (base : Nat) (c : Char) : Option Nat :=
  let n := c.toNat
  let value? :=
    if isDigit c then some (n - 48)
    else if 'a' ≤ c && c ≤ 'z' then some (n - 87)
    else if 'A' ≤ c && c ≤ 'Z' then some (n - 55)
    else none
  value?.filter (· < base)

/-- The number with these digits after `value`, most significant first. -/
def readDigits? (base value : Nat) : List Char → Option Nat
  | [] => some value
  | c :: rest => (digitValue? base c).bind fun digit => readDigits? base (value * base + digit) rest

def readNat? (base : Nat) (chars : List Char) : Option Nat :=
  if chars.isEmpty then none else readDigits? base 0 chars

/-- An optional sign and digits, with the value between `low` and `high`. -/
def readInt? (base : Nat) (low high : Int) (chars : List Char) : Option Int :=
  let value? : Option Int := match chars with
    | '-' :: digits => (readNat? base digits).map fun (n : Nat) => -(n : Int)
    | '+' :: digits => (readNat? base digits).map fun (n : Nat) => (n : Int)
    | digits => (readNat? base digits).map fun (n : Nat) => (n : Int)
  value?.filter fun value => low ≤ value && value ≤ high

/-- An optional `+` and decimal digits, with the value at most `high`. -/
def readCount? (high : Nat) (chars : List Char) : Option Nat :=
  let value? := match chars with
    | '+' :: digits => readNat? 10 digits
    | digits => readNat? 10 digits
  value?.filter (· ≤ high)

def hex (n : Nat) : String := String.ofList (Nat.toDigits 16 n)

/-- Two or more lower-case hexadecimal digits. -/
def hexByte (b : UInt8) : String :=
  if b < 16 then "0" ++ hex b.toNat else hex b.toNat

/-- The largest magnitude `leading` counts up to. -/
def leadingLimit : Nat := Int64.maxValue.toInt.toNat

/-- Decimal digits added to `value`, which stops growing at `leadingLimit`. -/
def leadingDigits (value : Nat) : List Char → Nat
  | [] => value
  | c :: rest =>
    if isDigit c then leadingDigits (min (value * 10 + (c.toNat - 48)) leadingLimit) rest else value

/-- The integer a text starts with, after white space and an optional sign, cut to 32 bits.
Zero when no digit follows. -/
def leading (text : String) : Int32 :=
  match trimStart text.toList with
  | '-' :: rest => Int32.ofInt (-(leadingDigits 0 rest : Int))
  | '+' :: rest => Int32.ofInt (leadingDigits 0 rest)
  | rest => Int32.ofInt (leadingDigits 0 rest)

end GameScript.Text
