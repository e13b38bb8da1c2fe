import GameScript.Fault

/-! The end of an invocation that cannot go on: why, with which detail, and the trail of functions
it passed on its way out, innermost first. -/

namespace GameScript

inductive AbortKind where
  | readNil | writeNil | indexOutOfBounds | negativeIndex | divisionByZero | badSelf
  | formatError | other | contractViolation
deriving DecidableEq, Repr

namespace AbortKind

/-- All kinds, each at the position of its number. -/
def all : List AbortKind :=
  [.readNil, .writeNil, .indexOutOfBounds, .negativeIndex, .divisionByZero, .badSelf,
    .formatError, .other, .contractViolation]

def description : AbortKind → String
  | .readNil => "read from nil"
  | .writeNil => "write to nil"
  | .indexOutOfBounds => "array index too large"
  | .negativeIndex => "negative array index"
  | .divisionByZero => "division by zero"
  | .badSelf => "invalid self pointer"
  | .formatError => "string format error"
  | .other => "script aborted"
  | .contractViolation => "bytecode contract violation"

def name : AbortKind → String
  | .readNil => "read_nil"
  | .writeNil => "write_nil"
  | .indexOutOfBounds => "index_out_of_bounds"
  | .negativeIndex => "negative_index"
  | .divisionByZero => "division_by_zero"
  | .badSelf => "bad_self"
  | .formatError => "format_error"
  | .other => "other"
  | .contractViolation => "contract_violation"

def named? (wanted : String) : Option (AbortKind × Nat) :=
  all.zipIdx.find? fun entry => entry.1.name == wanted

def ofCode (value : UInt8) : Except UnknownSelector AbortKind :=
  match all[value.toNat]? with
  | some kind => .ok kind
  | none => .error ⟨.abort, value⟩

end AbortKind

inductive Site where
  | script (function file : String) (line : Option UInt32)
  | native (function : String)
deriving DecidableEq, Repr

namespace Site

def function : Site → String
  | .script function _ _ => function
  | .native function => function

def text : Site → String
  | .script function file (some line) =>
    function ++ " at " ++ file ++ ", line " ++ toString line.toNat
  | .script function file none => function ++ " at " ++ file
  | .native function => "native " ++ function

end Site

structure Abort where
  kind : AbortKind
  detail : Option String
  /-- The functions the abort left, innermost first. -/
  trail : List Site
deriving DecidableEq, Repr

namespace Abort

def of (kind : AbortKind) : Abort := ⟨kind, none, []⟩

def withDetail (kind : AbortKind) (detail : String) : Abort := ⟨kind, some detail, []⟩

/-- A fault ends the invocation as a violation of the contract. -/
def ofFault (fault : Fault) : Abort := withDetail .contractViolation fault.message

/-- Records that the abort left one more function. -/
def leaving (abort : Abort) (site : Site) : Abort := { abort with trail := abort.trail ++ [site] }

/-- The function the abort arose in. -/
def origin (abort : Abort) : Option Site := abort.trail.head?

def callers (abort : Abort) : List Site := abort.trail.tail

def message (abort : Abort) : String :=
  match abort.detail with
  | some detail => abort.kind.description ++ ": " ++ detail
  | none => abort.kind.description

/-- The message, and a line for each function left. -/
def text (abort : Abort) : String :=
  abort.message ++
    (match abort.origin with
      | some site => "\n  in " ++ site.text
      | none => "") ++
    String.join (abort.callers.map fun site => "\n  called from " ++ site.text)

end Abort

/-- Lets a fault end the invocation. -/
def Fault.raise : Except Fault α → Except Abort α := Except.mapError Abort.ofFault

end GameScript
