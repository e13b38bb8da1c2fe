import GameScript.Instruction.Word
import GameScript.Program.LineTable
import GameScript.Text.Ascii

/-! Programs as they are assembled, stored and loaded. A routine has code, a pool of constants for
each bank, the layout of its frames and a line table; its pointer constants are symbols, which get
a meaning when the program is loaded. -/

namespace GameScript

/-- A pointer constant before loading: a function or class by name, or nothing. -/
inductive Symbol where
  | null
  | function (name : String)
  | class_ (name : String)
deriving DecidableEq, Repr, Inhabited

/-- What a frame of a routine needs: registers of each bank, parameters staged at once, and bytes of
memory of its own. -/
structure Layout where
  ints : UInt16
  floats : UInt16
  strings : UInt16
  pointers : UInt16
  maxParam : UInt16
  extraSpace : UInt32
deriving DecidableEq, Repr, Inhabited

def Layout.empty : Layout := ⟨0, 0, 0, 0, 0, 0⟩

structure Routine where
  name : String
  sourceFile : String
  code : Array Word
  ints : Array Int32
  floats : Array Double
  strings : Array String
  pointers : Array Symbol
  layout : Layout
  lines : LineTable
deriving DecidableEq, Repr

def Routine.empty (name sourceFile : String) : Routine :=
  ⟨name, sourceFile, #[], #[], #[], #[], #[], .empty, .empty⟩

structure Program where
  routines : List Routine
deriving DecidableEq, Repr

/-- The first routine with a name, in letters of any case. -/
def Program.routine? (program : Program) (name : String) : Option Routine :=
  program.routines.find? fun routine => Text.sameFold routine.name name

instance : Codec.Wire Symbol where
  format := .variant 3 (Codec.Tags.positions 3 (by decide)) fun
    | 0 => .unit
    | _ => .text
  toValue
    | .null => ⟨0, ()⟩
    | .function name => ⟨1, name⟩
    | .class_ name => ⟨2, name⟩
  ofValue
    | ⟨0, _⟩ => .null
    | ⟨1, name⟩ => .function name
    | ⟨2, name⟩ => .class_ name

instance : Codec.Wire Layout where
  format := .pair .word16 (.pair .word16 (.pair .word16 (.pair .word16 (.pair .word16 .word32))))
  toValue layout :=
    (layout.ints, layout.floats, layout.strings, layout.pointers, layout.maxParam,
      layout.extraSpace)
  ofValue
    | (ints, floats, strings, pointers, maxParam, extraSpace) =>
      ⟨ints, floats, strings, pointers, maxParam, extraSpace⟩

instance : Codec.Wire Routine where
  format :=
    .pair .text (.pair .text (.pair (.list .word32) (.pair (.list .int32) (.pair (.list .double)
      (.pair (.list .text) (.pair (.list (Codec.Wire.format Symbol))
        (.pair (Codec.Wire.format Layout) (Codec.Wire.format LineTable))))))))
  toValue routine :=
    (routine.name, routine.sourceFile, routine.code.toList.map Word.bits, routine.ints.toList,
      routine.floats.toList, routine.strings.toList, routine.pointers.toList.map Codec.Wire.toValue,
      Codec.Wire.toValue routine.layout, Codec.Wire.toValue routine.lines)
  ofValue
    | (name, sourceFile, code, ints, floats, strings, pointers, layout, lines) =>
      ⟨name, sourceFile, (List.map Word.mk code).toArray, List.toArray ints, List.toArray floats,
        List.toArray strings, (List.map Codec.Wire.ofValue pointers).toArray,
        Codec.Wire.ofValue layout, Codec.Wire.ofValue lines⟩

instance : Codec.Wire Program where
  format := .list (Codec.Wire.format Routine)
  toValue program := program.routines.map Codec.Wire.toValue
  ofValue routines := ⟨List.map Codec.Wire.ofValue routines⟩

end GameScript
