import GameScript.Heap.Basic
import GameScript.Names

/-! What running scripts share with their surroundings: memory, interned names, and the record of
what they have been told. -/

namespace GameScript

structure World where
  heap : Heap
  names : Names
  /-- One entry for every object store, the latest first: the object stored, none for null. -/
  barriers : List (Option ObjectRef)
  /-- Texts of the aborts that ended a call from outside. -/
  reports : Array String
  /-- Lines written by native functions. -/
  output : Array String
deriving Repr

namespace World

def empty : World := ⟨.empty, .empty, [], #[], #[]⟩

instance : Inhabited World := ⟨empty⟩

def notify (world : World) (stored : Option ObjectRef) : World :=
  { world with barriers := stored :: world.barriers }

def report (world : World) (text : String) : World :=
  { world with reports := world.reports.push text }

def print (world : World) (line : String) : World :=
  { world with output := world.output.push line }

end World
end GameScript
