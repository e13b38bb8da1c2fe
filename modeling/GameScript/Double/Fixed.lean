import GameScript.Double.Basic

/-! Numbers written with a fixed count of decimal places. The text is that of the exact value,
rounded once, and a tie goes to the even neighbour; there is never an exponent. -/

namespace GameScript.Double

/-- The quotient to the nearest integer, the even one of two. -/
def roundDiv (num den : Nat) : Nat :=
  let quotient := num / den
  let twice := 2 * (num % den)
  if twice < den then quotient
  else if den < twice then quotient + 1
  else if quotient % 2 = 0 then quotient else quotient + 1

/-- `significand · 2 ^ exponent` in units of `10 ^ -places`, rounded to the nearest. -/
def units (places significand : Nat) (exponent : Int) : Nat :=
  if 0 ≤ exponent then significand * Nat.pow 2 exponent.toNat * Nat.pow 10 places
  else roundDiv (significand * Nat.pow 10 places) (Nat.pow 2 (-exponent).toNat)

/-- Exactly `width` decimal digits of a number below `10 ^ width`. -/
def padded (width n : Nat) : String :=
  let digits := toString n
  String.ofList (List.replicate (width - digits.length) '0') ++ digits

def fixed (places : Nat) (x : Double) : String :=
  match x.parts with
  | .nan => "NaN"
  | .infinite negative => if negative then "-inf" else "inf"
  | .finite negative significand exponent =>
    let count := units places significand exponent
    let scale := Nat.pow 10 places
    (if negative then "-" else "") ++ toString (count / scale) ++ "." ++
      padded places (count % scale)

/-- Numbers in script text have five decimal places. -/
def text (x : Double) : String := x.fixed 5

/-- Components in parentheses, separated by a comma and a space. -/
def vectorText (components : List Double) : String :=
  "(" ++ ", ".intercalate (components.map text) ++ ")"

end GameScript.Double
