import GameScript.Fault

/-! Classes of script objects: a name, an optional parent, the size of an instance and the table of
virtual functions. Names are unique up to case; defining a name again replaces the class. -/

namespace GameScript

structure ClassInfo where
  name : String
  parent : Option ClassId
  /-- Bytes of an instance. -/
  size : UInt32
  virtuals : Array FunctionId
deriving DecidableEq, Repr

structure Classes where
  entries : Array ClassInfo
deriving DecidableEq, Repr

namespace Classes

def empty : Classes := ⟨#[]⟩

instance : Inhabited Classes := ⟨empty⟩

def size (classes : Classes) : Nat := classes.entries.size

def get? (classes : Classes) (id : ClassId) : Option ClassInfo := classes.entries[id.index.toNat]?

def find? (classes : Classes) (name : String) : Option ClassId :=
  (classes.entries.findIdx? fun info => Text.sameFold info.name name).map fun index =>
    ⟨UInt32.ofNat index⟩

/-- Adds a class, or replaces the one with the same name. -/
def define (classes : Classes) (info : ClassInfo) : ClassId × Classes :=
  match classes.find? info.name with
  | some id => (id, ⟨classes.entries.setIfInBounds id.index.toNat info⟩)
  | none => (⟨UInt32.ofNat classes.size⟩, ⟨classes.entries.push info⟩)

/-- Puts a function into a slot of a virtual table. A table that is too short grows up to the slot,
with the same function in every new slot. -/
def setVirtual (classes : Classes) (id : ClassId) (slot : Nat) (function : FunctionId) :
    Except Fault Classes :=
  match classes.get? id with
  | none => .error (.dangling .class_ id.index)
  | some info =>
    let grown := info.virtuals ++ Array.replicate (slot + 1 - info.virtuals.size) function
    let virtuals := grown.setIfInBounds slot function
    .ok ⟨classes.entries.setIfInBounds id.index.toNat { info with virtuals }⟩

def parent? (classes : Classes) (id : ClassId) : Option ClassId :=
  (classes.get? id).bind ClassInfo.parent

/-- Whether `ancestor` is met in at most `hops` steps from a class to its parent. -/
def ascends (classes : Classes) (ancestor : ClassId) : Nat → ClassId → Bool
  | 0, id => id == ancestor
  | hops + 1, id =>
    id == ancestor ||
      match classes.parent? id with
      | some parent => classes.ascends ancestor hops parent
      | none => false

/-- Whether a class is `ancestor` or inherits from it. No chain of parents needs more steps than
there are classes. -/
def descends (classes : Classes) (id ancestor : ClassId) : Bool :=
  classes.ascends ancestor classes.size id

end Classes
end GameScript
