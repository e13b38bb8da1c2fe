import GameScript.Library.Routine

/-! What can be called: routines and native functions, each with a number that it keeps. Names are
unique up to case; installing a name again replaces what it stands for. `ν` names the native
functions there are. -/

namespace GameScript

inductive Callable (ν : Type) where
  | script (routine : LinkedRoutine)
  | native (name : String) (function : ν)
deriving DecidableEq, Repr

namespace Callable

def name : Callable ν → String
  | .script routine => routine.name
  | .native name _ => name

def isNative : Callable ν → Bool
  | .script _ => false
  | .native .. => true

end Callable

structure Library (ν : Type) where
  entries : Array (Callable ν)
deriving DecidableEq, Repr

namespace Library

def empty : Library ν := ⟨#[]⟩

instance : Inhabited (Library ν) := ⟨empty⟩

def size (library : Library ν) : Nat := library.entries.size

def find? (library : Library ν) (name : String) : Option FunctionId :=
  (library.entries.findIdx? fun entry => Text.sameFold entry.name name).map fun index =>
    ⟨UInt32.ofNat index⟩

def get (library : Library ν) (id : FunctionId) : Except Fault (Callable ν) :=
  match library.entries[id.index.toNat]? with
  | some callable => .ok callable
  | none => .error (.undefinedFunctionId id)

/-- Adds a function, or replaces the one with the same name. -/
def install (library : Library ν) (callable : Callable ν) : FunctionId × Library ν :=
  match library.find? callable.name with
  | some id => (id, ⟨library.entries.setIfInBounds id.index.toNat callable⟩)
  | none => (⟨UInt32.ofNat library.size⟩, ⟨library.entries.push callable⟩)

/-- The objects that the constants of routines refer to. -/
def roots (library : Library ν) : List Pointer :=
  library.entries.toList.flatMap fun
    | .script routine => routine.constants.pointers.toList.filter fun p => p.object?.isSome
    | .native .. => []

end Library
end GameScript
