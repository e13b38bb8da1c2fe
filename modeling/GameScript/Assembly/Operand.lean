import GameScript.Abort
import GameScript.Assembly.Cause
import GameScript.Double.Reader
import GameScript.Instruction.Selector
import GameScript.Program.Basic

/-! The spelling of single operands: integers, floats, strings, registers, symbols, compare flags
and selectors. -/

namespace GameScript.Assembly

open Text

def leastInt : Int := Int64.minValue.toInt
def greatestInt : Int := Int64.maxValue.toInt

/-- An integer without the first minus sign: `0x` and hexadecimal digits, or decimal digits, in
both cases with a further sign before the digits. -/
def magnitude? : List Char → Option Int
  | '0' :: 'x' :: digits => readInt? 16 leastInt greatestInt digits
  | '0' :: 'X' :: digits => readInt? 16 leastInt greatestInt digits
  | digits => readInt? 10 leastInt greatestInt digits

/-- The opposite number, which the least integer has not. -/
def negate (value : Int) : Except (Halt Cause) Int :=
  if value = leastInt then .error .overflow else .ok (-value)

def integer? (token : String) : Except (Halt Cause) (Option Int) :=
  match token.toList with
  | '-' :: rest => (magnitude? rest).mapM negate
  | chars => .ok (magnitude? chars)

def integer (token : String) : Except (Halt Cause) Int := do
  match ← integer? token with
  | some value => return value
  | none => .error (.failed (.invalidOperand .integer token))

def int32 (value : Int) : Except Cause Int32 :=
  if Int32.minValue.toInt ≤ value ∧ value ≤ Int32.maxValue.toInt then .ok (Int32.ofInt value)
  else .error (.field (.outOfRange value 32))

/-- A float, which may also be spelled as an integer. -/
def float? (token : String) : Except (Halt Cause) (Option Double) := do
  match ← integer? token with
  | some value => return some (.ofInt value)
  | none => return Double.ofText? token.toList

def float (token : String) : Except (Halt Cause) Double := do
  match ← float? token with
  | some value => return value
  | none => .error (.failed (.invalidOperand .float token))

def escape? : Char → Option Char
  | 'n' => some '\n'
  | 't' => some '\t'
  | 'r' => some '\r'
  | '0' => some '\x00'
  | '\\' => some '\\'
  | '"' => some '"'
  | _ => none

def unescape : List Char → Option (List Char)
  | [] => some []
  | ['\\'] => none
  | '\\' :: c :: rest => (escape? c).bind fun meant => (unescape rest).map (meant :: ·)
  | c :: rest => (unescape rest).map (c :: ·)

def unquote? : List Char → Option (List Char)
  | '"' :: rest =>
    match rest.reverse with
    | '"' :: body => some body.reverse
    | _ => none
  | _ => none

def string? (token : String) : Option String :=
  ((unquote? token.toList).bind unescape).map String.ofList

def string (token : String) : Except Cause String :=
  match string? token with
  | some value => .ok value
  | none => .error (.invalidOperand .string token)

def anyRegister (token : String) : Except Cause (Bank × Int) :=
  match token.toList with
  | letter :: digits =>
    match Bank.ofLetter? letter with
    | some bank =>
      if digits.isEmpty || !digits.all isDigit then .error (.expectedRegister none token)
      else
        match readInt? 10 leastInt greatestInt digits with
        | some index => .ok (bank, index)
        | none => .error (.invalidOperand .register token)
    | none => .error (.expectedRegister none token)
  | [] => .error (.expectedRegister none token)

def register (bank : Bank) (token : String) : Except Cause Int :=
  match anyRegister token with
  | .ok (found, index) =>
    if found = bank then .ok index else .error (.expectedRegister (some bank) token)
  | .error _ => .error (.expectedRegister (some bank) token)

/-- `null`, `@` and the name of a function, or `%` and the name of a class. -/
def symbol? (token : String) : Option Symbol :=
  if sameFold token "null" then some .null
  else
    match token.toList with
    | '@' :: name => if name.isEmpty then none else some (.function (String.ofList name))
    | '%' :: name => if name.isEmpty then none else some (.class_ (String.ofList name))
    | _ => none

def symbol (token : String) : Except Cause Symbol :=
  match symbol? token with
  | some value => .ok value
  | none => .error (.invalidOperand .pointer token)

def compareMode? (name : List Char) : Option CompareMode :=
  let name := name.map Char.toLower
  if name == ['e', 'q'] then some .eq
  else if name == ['l', 't'] then some .lt
  else if name == ['l', 'e'] then some .le
  else none

def truth? (name : List Char) : Option Bool :=
  let name := name.map Char.toLower
  if name == "true".toList || name == "t".toList then some true
  else if name == "false".toList || name == "f".toList then some false
  else none

/-- An optional relation and colon, `true` or `false`, an optional tilde. -/
def namedFlags? (chars : List Char) : Option CompareField :=
  let before := chars.takeWhile (· != ':')
  let (mode?, rest) := match chars.dropWhile (· != ':') with
    | _ :: after => (compareMode? before, after)
    | [] => (some .eq, chars)
  mode?.bind fun mode =>
    let (approx, rest) := match rest.reverse with
      | '~' :: body => (true, body.reverse)
      | _ => (false, rest)
    (truth? rest).map fun check => CompareField.of check approx mode

def compareFlags (token : String) : Except (Halt Cause) Int := do
  match ← integer? token with
  | some value => return value
  | none =>
    match namedFlags? token.toList with
    | some flags => return flags.bits.toNat
    | none => .error (.failed (.invalidOperand .compareFlags token))

/-- A selector: the number its name has, or else a number. -/
def selector (literal : Literal) (named? : Option Nat) (token : String) :
    Except (Halt Cause) Int := do
  match named? with
  | some value => return value
  | none =>
    match ← integer? token with
    | some value => return value
    | none => .error (.failed (.invalidOperand literal token))

/-- A return slot: a number, with an exclamation mark when the return ends the frame. -/
def returnSlot (token : String) : Except (Halt Cause) Int := do
  let (digits, final) := match token.toList.reverse with
    | '!' :: body => (String.ofList body.reverse, true)
    | _ => (token, false)
  let slot ← integer digits
  if 0 ≤ slot ∧ slot < 128 then
    .ok (ReturnField.of (UInt8.ofNat slot.toNat) final).bits.toNat
  else .error (.failed (.field (.outOfRange slot 7)))

end GameScript.Assembly
