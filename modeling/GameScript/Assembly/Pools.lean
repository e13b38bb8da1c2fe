import GameScript.Assembly.Operand

/-! What the operands of a function add up to: the pools of constants, where equal constants share
one place, and how many registers of each bank are used. -/

namespace GameScript.Assembly

structure BankCounts where
  int : Nat
  float : Nat
  string : Nat
  pointer : Nat
deriving DecidableEq, Repr

namespace BankCounts

def zero : BankCounts := ⟨0, 0, 0, 0⟩

def get (counts : BankCounts) : Bank → Nat
  | .int => counts.int
  | .float => counts.float
  | .string => counts.string
  | .pointer => counts.pointer

/-- Raises the number of a bank to at least `count`. -/
def raise (counts : BankCounts) (bank : Bank) (count : Nat) : BankCounts :=
  match bank with
  | .int => { counts with int := max counts.int count }
  | .float => { counts with float := max counts.float count }
  | .string => { counts with string := max counts.string count }
  | .pointer => { counts with pointer := max counts.pointer count }

end BankCounts

structure Pools where
  ints : Array Int32
  floats : Array Double
  strings : Array String
  pointers : Array Symbol
  /-- Registers used: for each bank, one more than the highest number. -/
  used : BankCounts
deriving DecidableEq, Repr

/-- The place of a constant in a pool, which is extended unless the constant is there. -/
def internIn [DecidableEq α] (pool : Array α) (value : α) : Nat × Array α :=
  match pool.findIdx? (· = value) with
  | some place => (place, pool)
  | none => (pool.size, pool.push value)

/-- The first place from `place` on where all of `values` stand in a row. -/
def runFrom? [DecidableEq α] (values : List α) (place : Nat) : List α → Option Nat
  | [] => none
  | head :: tail =>
    if values.isPrefixOf (head :: tail) then some place else runFrom? values (place + 1) tail

def internRun [DecidableEq α] (pool : Array α) (values : List α) : Nat × Array α :=
  match runFrom? values 0 pool.toList with
  | some place => (place, pool)
  | none => (pool.size, pool ++ values)

namespace Pools

def empty : Pools := ⟨#[], #[], #[], #[], .zero⟩

/-- Registers from `index` on are used, `width` of them. -/
def useRegister (pools : Pools) (bank : Bank) (index : Int) (width : Nat) : Pools :=
  { pools with used := pools.used.raise bank (index.toNat + width) }

def internInt (pools : Pools) (value : Int32) : Nat × Pools :=
  let (place, ints) := internIn pools.ints value
  (place, { pools with ints })

def internFloats (pools : Pools) (values : List Double) : Nat × Pools :=
  let (place, floats) := internRun pools.floats values
  (place, { pools with floats })

def internString (pools : Pools) (value : String) : Nat × Pools :=
  let (place, strings) := internIn pools.strings value
  (place, { pools with strings })

def internSymbol (pools : Pools) (value : Symbol) : Nat × Pools :=
  let (place, pointers) := internIn pools.pointers value
  (place, { pools with pointers })

end Pools

def splitCommas (held : List Char) : List Char → List (List Char)
  | [] => [held.reverse]
  | c :: rest => if c == ',' then held.reverse :: splitCommas [] rest else splitCommas (c :: held) rest

def parenthesized? : List Char → Option (List Char)
  | '(' :: rest =>
    match rest.reverse with
    | ')' :: body => some body.reverse
    | _ => none
  | _ => none

/-- The floats of a literal: one float, or one to three in parentheses. -/
def floatTuple (token : String) : Except (Halt Cause) (List Double) :=
  match parenthesized? token.toList with
  | none => do
    let value ← float token
    return [value]
  | some inner => do
    let values ← (splitCommas [] inner).mapM fun part => float (Text.trim (String.ofList part))
    if 3 < values.length then .error (.failed (.invalidOperand .vector token)) else .ok values

namespace Pools

def internConstant (pools : Pools) (bank : Bank) (token : String) :
    Except (Halt Cause) (Nat × Pools) :=
  match bank with
  | .int => do
    let value ← integer token
    let value ← int32 value
    return pools.internInt value
  | .float => do
    let values ← floatTuple token
    return pools.internFloats values
  | .string => do
    let value ← string token
    return pools.internString value
  | .pointer => do
    let value ← symbol token
    return pools.internSymbol value

/-- The bank and place of a constant whose spelling decides the bank. -/
def internLiteral (pools : Pools) (token : String) :
    Except (Halt Cause) (Bank × Nat × Pools) :=
  if token.toList.head? = some '"' then do
    let value ← string token
    return (.string, pools.internString value)
  else
    match symbol? token with
    | some value => .ok (.pointer, pools.internSymbol value)
    | none => do
      match ← integer? token with
      | some value => do
        let value ← int32 value
        return (.int, pools.internInt value)
      | none => do
        let value ← float token
        return (.float, pools.internFloats [value])

/-- A tagged operand: `nil`, a register, `&` and a register, `v2:` or `v3:` and the first of two or
three float registers, or a constant. -/
def tagged (pools : Pools) (token : String) :
    Except (Halt Cause) (OperandTag × Int × Pools) :=
  if Text.sameFold token "nil" then .ok (.nil, 0, pools)
  else
    match token.toList with
    | '&' :: name => do
      let (bank, index) ← anyRegister (String.ofList name)
      return (.ofBank bank OperandTag.referenceFlag, index, pools.useRegister bank index 1)
    | 'v' :: '2' :: ':' :: name => do
      let index ← register .float (String.ofList name)
      return (.ofBank .float OperandTag.pairFlag, index, pools.useRegister .float index 2)
    | 'v' :: '3' :: ':' :: name => do
      let index ← register .float (String.ofList name)
      return (.ofBank .float OperandTag.tripleFlag, index, pools.useRegister .float index 3)
    | _ =>
      match anyRegister token with
      | .ok (bank, index) => .ok (.ofBank bank 0, index, pools.useRegister bank index 1)
      | .error _ => do
        let (bank, place, pools) ← pools.internLiteral token
        return (.ofBank bank OperandTag.constantFlag, place, pools)

end Pools
end GameScript.Assembly
