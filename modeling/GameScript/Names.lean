import GameScript.Text.Ascii

/-! Interned names. Every name has a number, two names that differ only in case have the same one,
and the spelling kept is the first. Number 0 is `None`, which the empty text also stands for. -/

namespace GameScript

structure Names where
  spellings : Array String
deriving DecidableEq, Repr

namespace Names

def empty : Names := ⟨#["None"]⟩

instance : Inhabited Names := ⟨empty⟩

def size (names : Names) : Nat := names.spellings.size

def find? (names : Names) (name : String) : Option Int32 :=
  (names.spellings.findIdx? fun known => Text.sameFold known name).map Int32.ofNat

/-- The number of a name, which is added unless it is there. -/
def intern (names : Names) (name : String) : Int32 × Names :=
  if name.isEmpty then (0, names)
  else
    match names.find? name with
    | some id => (id, names)
    | none => (Int32.ofNat names.size, ⟨names.spellings.push name⟩)

/-- The first spelling of the name with a number. -/
def get? (names : Names) (id : Int32) : Option String :=
  if 0 ≤ id.toInt then names.spellings[id.toInt.toNat]? else none

end Names
end GameScript
