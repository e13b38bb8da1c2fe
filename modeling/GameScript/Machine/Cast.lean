import GameScript.Double.Reader
import GameScript.Instruction.Selector
import GameScript.Machine.Action

/-! Conversions between banks, truth tests and casts along the class hierarchy. -/

namespace GameScript.Action

/-- The number of a name, which is interned. -/
def intern (name : String) : Action Int32 := do
  let world := (← get).world
  let (id, names) := world.names.intern name
  setWorld { world with names }
  return id

/-- Converts the register in B, or the vector that starts there, into the register in A. -/
def cast (w : Word) : Action Unit := do
  let kind ← ofExcept (Fault.ofSelector (Conversion.ofCode w.c))
  let source := w.b.toNat
  let target := w.a.toNat
  match kind with
  | .intToFloat =>
    let x ← register .int source
    setRegister .float target (.ofInt x.toInt)
  | .uintToFloat =>
    let x ← register .int source
    setRegister .float target (.ofInt x.toUInt32.toNat)
  | .floatToInt =>
    let x ← register .float source
    setRegister .int target x.toInt32
  | .floatToUint =>
    let x ← register .float source
    setRegister .int target x.toUInt32.toInt32
  | .intToString =>
    let x ← register .int source
    setRegister .string target (toString x.toInt)
  | .uintToString =>
    let x ← register .int source
    setRegister .string target (toString x.toUInt32.toNat)
  | .floatToString =>
    let x ← register .float source
    setRegister .string target x.text
  | .pairToString =>
    let x ← vector 2 source
    setRegister .string target (Double.vectorText x.toList)
  | .tripleToString =>
    let x ← vector 3 source
    setRegister .string target (Double.vectorText x.toList)
  | .pointerToString =>
    let x ← register .pointer source
    setRegister .string target x.text
  | .stringToInt =>
    let x ← register .string source
    setRegister .int target (Text.leading x)
  | .stringToFloat =>
    let x ← register .string source
    setRegister .float target (Double.leading x)
  | .stringToName =>
    let x ← register .string source
    setRegister .int target (← intern x)
  | .nameToString =>
    let x ← register .int source
    match (← get).world.names.get? x with
    | some name => setRegister .string target name
    | none => fault (.unknownName x)

/-- Whether the register in B counts as true: not zero, not null, not empty. -/
def castBool (w : Word) : Action Unit := do
  let test ← ofExcept (Fault.ofSelector (TruthTest.ofCode w.c))
  let source := w.b.toNat
  let truth ← match test with
    | .int => do
      let x ← register .int source
      pure (x != 0)
    | .float => do
      let x ← register .float source
      pure (!Double.same x .zero)
    | .pointer => do
      let x ← register .pointer source
      pure (!x.isNull)
    | .string => do
      let x ← register .string source
      pure (!x.isEmpty)
  setRegister .int w.a.toNat (if truth then (1 : Int32) else 0)

def classOf : Pointer → Action ClassId
  | .class_ id => pure id
  | pointer => fault (.notAClass pointer)

/-- Keeps an object of a class or of one that inherits from it; anything else becomes null. -/
def castObject (w : Word) (target : Source) : Action Unit := do
  let id ← classOf (← fetch target .pointer w.c.toNat)
  match ← register .pointer w.b.toNat with
  | .null => setRegister .pointer w.a.toNat .null
  | .object ref =>
    let kept := (← heap).isKindOf ref id
    setRegister .pointer w.a.toNat (if kept then .object ref else .null)
  | pointer => fault (.notAnObject pointer)

/-- Keeps a class that is the given one or inherits from it. -/
def castClass (w : Word) (target : Source) : Action Unit := do
  let ancestor ← classOf (← fetch target .pointer w.c.toNat)
  match ← register .pointer w.b.toNat with
  | .null => setRegister .pointer w.a.toNat .null
  | pointer =>
    let id ← classOf pointer
    let kept := (← heap).classes.descends id ancestor
    setRegister .pointer w.a.toNat (if kept then pointer else .null)

/-- The object a pointer register refers to. -/
def objectAt (index : Nat) : Action ObjectRef := do
  match ← register .pointer index with
  | .null => abort .readNil
  | .object ref => pure ref
  | pointer => fault (.notAnObject pointer)

def objectClass (w : Word) : Action Unit := do
  let ref ← objectAt w.b.toNat
  setRegister .pointer w.a.toNat (.class_ (← ofExcept ((← heap).objectClass ref)))

/-- The function in a slot of the virtual table of an object's class. -/
def virtual (w : Word) : Action Unit := do
  let ref ← objectAt w.b.toNat
  let heap ← heap
  let id ← ofExcept (heap.objectClass ref)
  match heap.classes.get? id with
  | none => fault (.dangling .class_ id.index)
  | some info =>
    match info.virtuals[w.c.toNat]? with
    | some function => setRegister .pointer w.a.toNat (.function function)
    | none => fault (.virtualOutOfRange info.name w.c.toNat)

end GameScript.Action
