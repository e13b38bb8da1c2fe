import GameScript.Double.Reader
import GameScript.Log
import GameScript.Text.Quoted

/-! Limits and policies of a machine, with defaults that an environment may override. A value that
makes no sense is ignored with a warning. -/

namespace GameScript

structure Config where
  /-- The most functions that may be running at once. -/
  maxCallDepth : Nat
  /-- How far apart numbers may be that count as approximately equal. -/
  floatEpsilon : Double
  /-- Whether an abort that ends a call from outside is reported. -/
  reportAborts : Bool
deriving DecidableEq, Repr

namespace Config

/-- 512 calls, an epsilon of `2 ^ -16`, and aborts are reported. -/
def standard : Config := ⟨512, ⟨0x3ef0000000000000⟩, true⟩

def depthVariable : String := "SCRIPTVM_MAX_CALL_DEPTH"
def epsilonVariable : String := "SCRIPTVM_FLOAT_EPSILON"
def reportVariable : String := "SCRIPTVM_REPORT_ABORTS"

def depth? (text : String) : Option Nat :=
  (Text.readCount? (UInt64.size - 1) (Text.trim text).toList).filter (0 < ·)

def epsilon? (text : String) : Option Double :=
  (Double.ofText? (Text.trim text).toList).filter fun value => value.isFinite && Double.zero.le value

def truth? (text : String) : Option Bool :=
  let name := Text.fold (Text.trim text)
  if ["1", "true", "yes", "on"].contains name then some true
  else if ["0", "false", "no", "off"].contains name then some false
  else none

/-- The value of a variable, and a warning when it is set to something unreadable. -/
def setting (lookup : String → Option String) (key : String) (read : String → Option α)
    (complaint : String) : Option α × List Log.Record :=
  match lookup key with
  | none => (none, [])
  | some text =>
    match read text with
    | some value => (some value, [])
    | none => (none, [⟨.warn, s!"ignoring {key}=" ++ Text.quoted text ++ ": " ++ complaint⟩])

/-- The standard configuration with what an environment overrides, and the warnings. -/
def ofEnvironment (lookup : String → Option String) : Config × List Log.Record :=
  let (depth, depthWarnings) := setting lookup depthVariable depth? "invalid value"
  let (epsilon, epsilonWarnings) := setting lookup epsilonVariable epsilon? "invalid value"
  let (report, reportWarnings) := setting lookup reportVariable truth? "expected a boolean"
  (⟨depth.getD standard.maxCallDepth, epsilon.getD standard.floatEpsilon,
      report.getD standard.reportAborts⟩,
    depthWarnings ++ epsilonWarnings ++ reportWarnings)

end Config
end GameScript
