import GameScript.Double.Basic
import GameScript.Text.Integer

/-! Decimal text as a number: an optional sign, digits with at most one point and at least one
digit, an optional exponent; or `inf`, `infinity` and `nan` in any case. The value is the nearest
number, the even one of two. -/

namespace GameScript.Double

open Text

/-- `mantissa · 10 ^ exponent` to the nearest number. Exponents far outside the range are settled
without computing the power. -/
def ofDecimal (mantissa : Nat) (exponent : Int) : Double :=
  if mantissa = 0 then zero
  else
    let size := ((Nat.toDigits 10 mantissa).length : Int) + exponent
    if 400 < size then infinity
    else if size < -400 then zero
    else ofFloat (Float.ofScientific mantissa (exponent < 0) exponent.natAbs)

def natOfDigits (chars : List Char) : Nat := chars.foldl (fun n c => n * 10 + (c.toNat - 48)) 0

/-- The exponent after the digits, zero when nothing follows; none when what follows is none. -/
def exponent? : List Char → Option Int
  | [] => some 0
  | c :: rest =>
    if c == 'e' || c == 'E' then
      match rest with
      | '-' :: digits => if digits.isEmpty || !digits.all isDigit then none else some (-(natOfDigits digits : Int))
      | '+' :: digits => if digits.isEmpty || !digits.all isDigit then none else some (natOfDigits digits)
      | digits => if digits.isEmpty || !digits.all isDigit then none else some (natOfDigits digits)
    else none

def magnitude? (chars : List Char) : Option Double :=
  let word := chars.map Char.toLower
  if word == "inf".toList || word == "infinity".toList then some infinity
  else if word == "nan".toList then some nan
  else
    let whole := chars.takeWhile isDigit
    let rest := chars.dropWhile isDigit
    let (part, rest) := match rest with
      | '.' :: after => (after.takeWhile isDigit, after.dropWhile isDigit)
      | _ => ([], rest)
    if whole.isEmpty && part.isEmpty then none
    else (exponent? rest).map fun exponent =>
      ofDecimal (natOfDigits (whole ++ part)) (exponent - part.length)

def ofText? : List Char → Option Double
  | '-' :: rest => (magnitude? rest).map neg
  | '+' :: rest => magnitude? rest
  | chars => magnitude? chars

def splitSign : List Char → List Char × List Char
  | c :: rest => if c == '+' || c == '-' then ([c], rest) else ([], c :: rest)
  | [] => ([], [])

def splitFraction : List Char → List Char × List Char
  | '.' :: rest => ('.' :: rest.takeWhile isDigit, rest.dropWhile isDigit)
  | chars => ([], chars)

/-- The exponent that comes next, empty unless its digits are there. -/
def leadingExponent : List Char → List Char
  | c :: rest =>
    if c == 'e' || c == 'E' then
      let (sign, rest) := splitSign rest
      let digits := rest.takeWhile isDigit
      if digits.isEmpty then [] else c :: sign ++ digits
    else []
  | [] => []

/-- The longest number a text starts with: an optional sign, digits with an optional point, an
optional exponent. None when there is no digit. -/
def leadingNumber? (chars : List Char) : Option (List Char) :=
  let (sign, rest) := splitSign chars
  let whole := rest.takeWhile isDigit
  let (fraction, rest) := splitFraction (rest.dropWhile isDigit)
  if whole.isEmpty && (fraction.drop 1).isEmpty then none
  else some (sign ++ whole ++ fraction ++ leadingExponent rest)

/-- The number a text starts with after white space, zero when there is none. -/
def leading (text : String) : Double :=
  match leadingNumber? (trimStart text.toList) with
  | some number => (ofText? number).getD zero
  | none => zero

end GameScript.Double
