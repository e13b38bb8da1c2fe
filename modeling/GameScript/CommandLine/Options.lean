import GameScript.Banks
import GameScript.Double.Reader

/-! The options of the assembler on the command line. -/

namespace GameScript.CommandLine

structure Options where
  input : String
  output : Option String
  /-- The function to call and its arguments. -/
  run : Option (String × List Value)
  /-- The banks of the results to show. -/
  results : List Bank
deriving DecidableEq, Repr

/-- An argument of the function to call: an integer or a number if it reads as one, else a text. -/
def argument (text : String) : Value :=
  match Text.readInt? 10 Int32.minValue.toInt Int32.maxValue.toInt text.toList with
  | some value => .int (Int32.ofInt value)
  | none =>
    match Double.ofText? text.toList with
    | some value => .float value
    | none => .string text

def resultBank (text : String) : Except String Bank :=
  let bank? := match text.toList with
    | [letter] => Bank.ofLetter? letter
    | _ => none
  match bank? with
  | some bank => .ok bank
  | none => .error ("Invalid result bank: '" ++ text ++ "' (expected d, f, s or a)")

def resultBanks (text : String) : Except String (List Bank) :=
  let names := (text.splitOn ",").map Text.trim
  (names.filter fun name => !name.isEmpty).mapM resultBank

namespace Options

/-- Options from the arguments after the input. Everything after the function to call belongs to
it. -/
def add (options : Options) : List String → Except String Options
  | [] => .ok options
  | "--run" :: [] => .error "--run requires a function name"
  | "--run" :: name :: arguments => .ok { options with run := some (name, arguments.map argument) }
  | key :: rest =>
    if key == "--output" || key == "-o" then
      match rest with
      | [] => .error (key ++ " requires an argument")
      | path :: rest => { options with output := some path }.add rest
    else if key == "--results" || key == "-r" then
      match rest with
      | [] => .error (key ++ " requires an argument")
      | banks :: rest => do
        let results ← resultBanks banks
        { options with results }.add rest
    else .error ("Unexpected argument: " ++ key)

def ofArguments (input : String) (rest : List String) : Except String Options :=
  Options.add ⟨input, none, none, []⟩ rest

end Options
end GameScript.CommandLine
