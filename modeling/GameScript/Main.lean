import GameScript.CommandLine.Tool

/-! The assembler as a program. -/

namespace GameScript.CommandLine

def fileFault : IO.Error → FileFault
  | .noFileOrDirectory .. => .notFound
  | .permissionDenied .. => .denied
  | .inappropriateType _ code _ => if code = 20 then .notADirectory else .isADirectory
  | .invalidArgument _ 36 _ => .nameTooLong
  | error => .other (toString error)

def attempt (action : IO α) : IO (Except FileFault α) := do
  match ← action.toBaseIO with
  | .ok value => return .ok value
  | .error error => return .error (fileFault error)

def Command.perform : Command → IO UInt32
  | .exit code => return code.toUInt32
  | .log record next => do
    IO.eprintln record.text
    (next ()).perform
  | .print line next => do
    IO.println line
    (next ()).perform
  | .probe path next => do
    let found ← attempt (IO.FS.realPath path)
    (next found.toBool).perform
  | .read path next => do
    (next ((← attempt (IO.FS.readBinFile path)).map fun bytes => bytes.toList)).perform
  | .write path content next => do
    (next (← attempt (IO.FS.writeBinFile path ⟨content.toArray⟩))).perform

def consulted : List String :=
  [Log.levelVariable, Config.depthVariable, Config.epsilonVariable, Config.reportVariable]

end GameScript.CommandLine

open GameScript.CommandLine in
def main (arguments : List String) : IO UInt32 := do
  let found ← consulted.mapM fun name => do return (name, ← IO.getEnv name)
  let lookup name := (found.lookup name).bind id
  (Invocation.command ⟨"svmasm", arguments, lookup, Nat.pow 2 62⟩).perform
