import GameScript.Heap.Classes
import GameScript.Library.Basic

/-! Loading a program. Every routine first gets its number, that of a function with its name or the
next free one; then the symbols of all routines get their meaning, among the routines of the program
first; only when all of that has worked are the routines installed. -/

namespace GameScript.Library

/-- Numbers for routines. `planned` has those given already and `next` is the first free one. -/
def plan (library : Library ν) (planned : List (String × FunctionId)) (next : UInt32) :
    List Routine → Except Fault (List (String × FunctionId))
  | [] => .ok planned
  | routine :: rest =>
    if planned.any fun entry => Text.sameFold entry.1 routine.name then
      .error (.duplicateFunction routine.name)
    else
      match library.find? routine.name with
      | some id => library.plan (planned ++ [(routine.name, id)]) next rest
      | none => library.plan (planned ++ [(routine.name, ⟨next⟩)]) (next + 1) rest

/-- What a symbol means, where `planned` gives numbers to names ahead of the library. -/
def resolve (library : Library ν) (classes : Classes) (planned : List (String × FunctionId)) :
    Symbol → Except Fault Pointer
  | .null => .ok .null
  | .function name =>
    match planned.find? fun entry => Text.sameFold entry.1 name with
    | some (_, id) => .ok (.function id)
    | none =>
      match library.find? name with
      | some id => .ok (.function id)
      | none => .error (.undefinedFunction name)
  | .class_ name =>
    match classes.find? name with
    | some id => .ok (.class_ id)
    | none => .error (.undefinedClass name)

structure Loaded (ν : Type) where
  library : Library ν
  /-- The numbers of the routines, in their order. -/
  ids : List FunctionId
  /-- The names of the routines that replaced a function. -/
  replaced : List String

def installAll (library : Library ν) : List LinkedRoutine → Library ν × List String
  | [] => (library, [])
  | routine :: rest =>
    let known := (library.find? routine.name).isSome
    let (library, replaced) := (library.install (.script routine)).2.installAll rest
    (library, if known then routine.name :: replaced else replaced)

def load (library : Library ν) (classes : Classes) (program : Program) :
    Except Fault (Loaded ν) := do
  let planned ← library.plan [] (UInt32.ofNat library.size) program.routines
  let linked ← program.routines.mapM fun routine =>
    routine.link (library.resolve classes planned)
  let (library, replaced) := library.installAll linked
  return ⟨library, planned.map Prod.snd, replaced⟩

end GameScript.Library
