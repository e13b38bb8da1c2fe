import GameScript.Text.Blank
import GameScript.Text.Ascii

/-! Log messages and the level below which they are not shown. -/

namespace GameScript

namespace Log

inductive Level where
  | debug | info | warn | error
deriving DecidableEq, Repr

namespace Level

def name : Level → String
  | .debug => "DEBUG"
  | .info => "INFO"
  | .warn => "WARN"
  | .error => "ERROR"

def rank : Level → Nat
  | .debug => 0
  | .info => 1
  | .warn => 2
  | .error => 3

/-- The level a name stands for, in letters of any case and between white space. -/
def ofName? (name : String) : Option Level :=
  let name := Text.fold (Text.trim name)
  if name == "debug" then some .debug
  else if name == "info" then some .info
  else if name == "warn" || name == "warning" then some .warn
  else if name == "error" then some .error
  else none

def below (level least : Level) : Bool := level.rank < least.rank

end Level

structure Record where
  level : Level
  message : String
deriving DecidableEq, Repr

def Record.text (record : Record) : String := "[" ++ record.level.name ++ "] " ++ record.message

/-- The records that are shown when `least` is the lowest level. -/
def shown (least : Level) (records : List Record) : List Record :=
  records.filter fun record => !record.level.below least

def levelVariable : String := "SCRIPTVM_LOG"

/-- The lowest level an environment asks for, which is `info` unless it names one. -/
def leastLevel (lookup : String → Option String) : Level :=
  ((lookup levelVariable).bind Level.ofName?).getD .info

end Log
end GameScript
