import GameScript.Log

/-! What a command line tool does, one dealing with its surroundings at a time. -/

namespace GameScript.CommandLine

inductive FileFault where
  | notFound
  | denied
  | notADirectory
  | isADirectory
  | nameTooLong
  | other (reason : String)
deriving DecidableEq, Repr

def FileFault.message : FileFault → String
  | .notFound => "No such file or directory (os error 2)"
  | .denied => "Permission denied (os error 13)"
  | .notADirectory => "Not a directory (os error 20)"
  | .isADirectory => "Is a directory (os error 21)"
  | .nameTooLong => "File name too long (os error 36)"
  | .other reason => reason

/-- What follows a record or line is not computed before that is written. -/
inductive Command where
  | exit (code : UInt8)
  /-- Writes a record to the log. -/
  | log (record : Log.Record) (next : Unit → Command)
  /-- Writes a line to the output. -/
  | print (line : String) (next : Unit → Command)
  /-- Asks whether there is anything at a path. -/
  | probe (path : String) (next : Bool → Command)
  | read (path : String) (next : Except FileFault (List UInt8) → Command)
  | write (path : String) (content : List UInt8) (next : Except FileFault Unit → Command)

namespace Command

def printAll (lines : List String) (next : Unit → Command) : Command :=
  match lines with
  | [] => next ()
  | line :: rest => print line fun _ => printAll rest next

def logRecords (records : List Log.Record) (next : Unit → Command) : Command :=
  match records with
  | [] => next ()
  | record :: rest => log record fun _ => logRecords rest next

def logAll (least : Log.Level) (records : List Log.Record) (next : Unit → Command) : Command :=
  logRecords (Log.shown least records) next

end Command
end GameScript.CommandLine
