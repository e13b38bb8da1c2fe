import GameScript.Library.Load
import GameScript.Machine.Basic

/-! Using a machine from outside: installing functions, calling them and collecting garbage. -/

namespace GameScript.Machine

/-- Links a program against the functions and classes there are and installs its routines. Also
gives the numbers of the routines and the names of those that replaced a function. -/
def load (machine : Machine ν) (program : Program) :
    Except Fault (List FunctionId × List String × Machine ν) := do
  let loaded ← machine.library.load machine.world.heap.classes program
  return (loaded.ids, loaded.replaced, { machine with library := loaded.library })

def install (machine : Machine ν) (callable : Callable ν) : FunctionId × Machine ν :=
  let (id, library) := machine.library.install callable
  (id, { machine with library })

/-- Collects the objects that neither the machine nor `extra` refers to, and says how many. -/
def collect (machine : Machine ν) (extra : List Pointer) : Nat × Machine ν :=
  let (count, heap) := machine.world.heap.collect (machine.roots ++ extra)
  (count, { machine with world := { machine.world with heap } })

/-- Calls a function of a machine that runs nothing. None when `fuel` steps are not enough. -/
def call (machine : Machine ν) (natives : Natives ν) (fuel : Nat) (id : FunctionId)
    (arguments : List Value) (slots : List ResultSlot) : Option (Outcome × Machine ν) :=
  let ended := run natives fuel (machine.enter natives id arguments slots)
  match ended.stack, ended.completed with
  | [], some outcome => some (outcome, ended.endCall machine.depth outcome)
  | _, _ => none

/-- Calls the function with a name. That there is none is not reported. -/
def callNamed (machine : Machine ν) (natives : Natives ν) (fuel : Nat) (name : String)
    (arguments : List Value) (slots : List ResultSlot) : Option (Outcome × Machine ν) :=
  match machine.library.find? name with
  | some id => machine.call natives fuel id arguments slots
  | none => some (⟨.error (.ofFault (.undefinedFunction name)), slots⟩, machine)

end GameScript.Machine
