import GameScript.Fault
import GameScript.Value

/-! Values by bank. The registers of a frame and the constants of a routine have the same shape: for
every bank a row of values. -/

namespace GameScript

abbrev Bank.Content : Bank → Type
  | .int => Int32
  | .float => Double
  | .string => String
  | .pointer => Pointer

def Bank.blank : (bank : Bank) → bank.Content
  | .int => (0 : Int32)
  | .float => Double.zero
  | .string => ""
  | .pointer => Pointer.null

def Value.of : (bank : Bank) → bank.Content → Value
  | .int, content => .int content
  | .float, content => .float content
  | .string, content => .string content
  | .pointer, content => .pointer content

def Value.content : (value : Value) → value.bank.Content
  | .int value => value
  | .float value => value
  | .string value => value
  | .pointer value => value

structure Banks where
  ints : Array Int32
  floats : Array Double
  strings : Array String
  pointers : Array Pointer
deriving DecidableEq, Repr

namespace Banks

/-- Blank registers, as many of each bank as `count` says. -/
def blank (count : Bank → Nat) : Banks where
  ints := Array.replicate (count .int) 0
  floats := Array.replicate (count .float) .zero
  strings := Array.replicate (count .string) ""
  pointers := Array.replicate (count .pointer) .null

def row (banks : Banks) : (bank : Bank) → Array bank.Content
  | .int => banks.ints
  | .float => banks.floats
  | .string => banks.strings
  | .pointer => banks.pointers

def withRow (banks : Banks) : (bank : Bank) → Array bank.Content → Banks
  | .int, ints => { banks with ints }
  | .float, floats => { banks with floats }
  | .string, strings => { banks with strings }
  | .pointer, pointers => { banks with pointers }

def size (banks : Banks) (bank : Bank) : Nat := (banks.row bank).size

def get? (banks : Banks) (bank : Bank) (index : Nat) : Option bank.Content := (banks.row bank)[index]?

def register (registers : Banks) (bank : Bank) (index : Nat) : Except Fault bank.Content :=
  match registers.get? bank index with
  | some content => .ok content
  | none => .error (.registerOutOfRange bank index (registers.size bank))

def setRegister (registers : Banks) (bank : Bank) (index : Nat) (content : bank.Content) :
    Except Fault Banks :=
  if index < registers.size bank then
    .ok (registers.withRow bank ((registers.row bank).setIfInBounds index content))
  else .error (.registerOutOfRange bank index (registers.size bank))

def put (registers : Banks) (index : Nat) (value : Value) : Except Fault Banks :=
  registers.setRegister value.bank index value.content

def constant (pool : Banks) (bank : Bank) (index : Nat) : Except Fault bank.Content :=
  match pool.get? bank index with
  | some content => .ok content
  | none => .error (.constantOutOfRange bank index (pool.size bank))

/-- The `count` float registers from `start` on; the fault names the last of them. -/
def vector (registers : Banks) (count start : Nat) : Except Fault (Vector Double count) :=
  if inside : start + count ≤ registers.floats.size then
    .ok (Vector.ofFn fun i => registers.floats[start + i])
  else .error (.registerOutOfRange .float (start + count - 1) registers.floats.size)

def setVector (registers : Banks) (start : Nat) (components : Vector Double count) :
    Except Fault Banks :=
  if start + count ≤ registers.floats.size then
    let floats := (List.finRange count).foldl
      (fun floats i => floats.setIfInBounds (start + i) components[i]) registers.floats
    .ok { registers with floats }
  else .error (.registerOutOfRange .float (start + count - 1) registers.floats.size)

/-- The `count` float constants from `start` on; the fault names the first that is not there. -/
def constantVector (pool : Banks) (count start : Nat) : Except Fault (Vector Double count) :=
  if inside : start + count ≤ pool.floats.size then
    .ok (Vector.ofFn fun i => pool.floats[start + i])
  else .error (.constantOutOfRange .float (max start pool.floats.size) pool.floats.size)

end Banks
end GameScript
