import GameScript.Abort
import GameScript.Banks
import GameScript.Program.Basic

/-! A routine ready to run: its symbols have become pointers. -/

namespace GameScript

structure LinkedRoutine where
  name : String
  sourceFile : String
  code : Array Word
  constants : Banks
  layout : Layout
  lines : LineTable
deriving DecidableEq, Repr

def Layout.registers (layout : Layout) : Bank → Nat
  | .int => layout.ints.toNat
  | .float => layout.floats.toNat
  | .string => layout.strings.toNat
  | .pointer => layout.pointers.toNat

/-- Gives every symbol of a routine the pointer that `resolve` finds for it. -/
def Routine.link (routine : Routine) (resolve : Symbol → Except Fault Pointer) :
    Except Fault LinkedRoutine := do
  let pointers ← routine.pointers.toList.mapM resolve
  return {
    name := routine.name
    sourceFile := routine.sourceFile
    code := routine.code
    constants := ⟨routine.ints, routine.floats, routine.strings, pointers.toArray⟩
    layout := routine.layout
    lines := routine.lines }

namespace LinkedRoutine

def site (routine : LinkedRoutine) (offset : Nat) : Site :=
  .script routine.name routine.sourceFile (routine.lines.lineFor offset)

def word (routine : LinkedRoutine) (offset : Nat) : Except Fault Word :=
  if offset = routine.code.size then .error (.fellOffEnd routine.name)
  else
    match routine.code[offset]? with
    | some word => .ok word
    | none => .error (.codeOutOfRange offset routine.code.size)

end LinkedRoutine
end GameScript
