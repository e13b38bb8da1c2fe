import GameScript.Machine.Frame
import GameScript.Machine.World
import GameScript.Library.Basic

/-! What a native function does, one dealing with the machine at a time. -/

namespace GameScript

structure Outcome where
  /-- How many results were produced, or the abort. -/
  result : Except Abort Nat
  /-- The caller's slots afterwards. -/
  slots : List ResultSlot

structure View (ν : Type) where
  library : Library ν
  world : World
  /-- The pointers that scripts keep objects alive with. -/
  roots : List Pointer
  /-- How many functions are running. -/
  depth : Nat

inductive Behaviour (ν : Type) where
  /-- Returns to the caller. -/
  | finish (outcome : Outcome)
  /-- Goes on with what it sees. -/
  | look (next : View ν → Behaviour ν)
  /-- Leaves the library and the world in this state. -/
  | change (library : Library ν) (world : World) (next : Behaviour ν)
  /-- Calls a function and goes on with how that ended. -/
  | call (id : FunctionId) (arguments : List Value) (slots : List ResultSlot)
    (resume : Outcome → Behaviour ν)

namespace Behaviour

def abort (abort : Abort) (slots : List ResultSlot) : Behaviour ν := finish ⟨.error abort, slots⟩

def fault (fault : Fault) (slots : List ResultSlot) : Behaviour ν := abort (.ofFault fault) slots

def done (count : Nat) (slots : List ResultSlot) : Behaviour ν := finish ⟨.ok count, slots⟩

def changeWorld (view : View ν) (world : World) (next : Behaviour ν) : Behaviour ν :=
  change view.library world next

def callNamed (name : String) (arguments : List Value) (slots : List ResultSlot)
    (resume : Outcome → Behaviour ν) : Behaviour ν :=
  look fun view =>
    match view.library.find? name with
    | some id => call id arguments slots resume
    | none => resume ⟨.error (.ofFault (.undefinedFunction name)), slots⟩

end Behaviour
end GameScript
