import GameScript.Assembly.Diagnostic
import GameScript.CommandLine.Command
import GameScript.CommandLine.Options
import GameScript.CommandLine.Path
import GameScript.Program.Image
import GameScript.Services

/-! The assembler: reads a source or an image, writes the image of a source, and calls a function if
asked to. -/

namespace GameScript.CommandLine

/-- The exit code of a program that stops at an overflow. -/
def brokenOff : UInt8 := 101

def imageExtension : String := "svmb"

structure Invocation where
  /-- The name the tool was called by. -/
  program : String
  arguments : List String
  /-- Environment variables. -/
  lookup : String → Option String
  /-- How many steps a call may take. -/
  fuel : Nat

namespace Invocation

def usage (invocation : Invocation) : String :=
  let program := invocation.program
  "\n".intercalate
    ["Script Assembler",
      "",
      "USAGE:",
      s!"    {program} <input> [OPTIONS]",
      "",
      "ARGS:",
      "    <input>    Assembly source, or a .svmb image to run directly",
      "",
      "OPTIONS:",
      "    -o, --output <file>        Bytecode image path (defaults to <input>.svmb)",
      "    -r, --results <banks>      Result slots to request, e.g. d,f",
      "    --run <function> [args]    Call a function after loading; must come last",
      "    -h, --help                 Print this help message",
      "",
      "ENVIRONMENT:",
      "    SCRIPTVM_LOG               Minimum log level (debug, info, warn, error)",
      "    SCRIPTVM_MAX_CALL_DEPTH    Nested call limit",
      "    SCRIPTVM_FLOAT_EPSILON     Tolerance of approximate comparisons",
      "",
      "EXAMPLES:",
      s!"    {program} player.sasm",
      s!"    {program} player.sasm -o build/player.svmb",
      s!"    {program} player.sasm -r d --run Add 3 4",
      ""]

def logAll (invocation : Invocation) : List Log.Record → (Unit → Command) → Command :=
  Command.logAll (Log.leastLevel invocation.lookup)

def inform (invocation : Invocation) (message : String) (next : Unit → Command) : Command :=
  invocation.logAll [⟨.info, message⟩] next

def fail (invocation : Invocation) (code : UInt8) (message : String) : Command :=
  invocation.logAll [⟨.error, message⟩] fun _ => .exit code

def resultLine (slot : ResultSlot) (position : Nat) : String :=
  s!"[{position}] " ++ match slot.value with
    | some value => value.text
    | none => "<unset>"

def showOutcome (invocation : Invocation) (name : String) (outcome : Outcome) : Command :=
  match outcome.result with
  | .error abort => invocation.fail 2 abort.text
  | .ok returned =>
    invocation.inform (name ++ s!" returned {returned} value(s)") fun _ =>
      .printAll (outcome.slots.zipIdx.map fun (slot, position) => resultLine slot position)
        fun _ => .exit 0

/-- Calls a function of a machine, and shows what it wrote, the abort that was reported and the
outcome. -/
def callOn (invocation : Invocation) (machine : Machine Service) (name : String)
    (arguments : List Value) (results : List Bank) : Command :=
  let slots := results.map ResultSlot.empty
  match machine.callNamed Service.behaviour invocation.fuel name arguments slots with
  | none => invocation.fail 2 (name ++ " takes too many steps")
  | some (outcome, machine) =>
    let reports := machine.world.reports.toList.map fun text =>
      Log.Record.mk .error ("script abort: " ++ text)
    .printAll machine.world.output.toList fun _ =>
      invocation.logAll reports fun _ => invocation.showOutcome name outcome

/-- Loads a program into a new machine and calls a function. -/
def call (invocation : Invocation) (program : Program) (name : String) (arguments : List Value)
    (results : List Bank) : Command :=
  let (config, warnings) := Config.ofEnvironment invocation.lookup
  invocation.logAll warnings fun _ =>
    let machine := ((Machine.new config).install (.native "print" Service.print)).2
    match machine.load program with
    | .error fault => invocation.fail 2 (Abort.ofFault fault).text
    | .ok (_, replaced, machine) =>
      let notes := replaced.map fun name => Log.Record.mk .info ("reloading function " ++ name)
      invocation.logAll notes fun _ => invocation.callOn machine name arguments results

/-- Calls the function that the options name, if they name one. -/
def finish (invocation : Invocation) (options : Options) (program : Program) : Command :=
  match options.run with
  | some (name, arguments) => invocation.call program name arguments options.results
  | none => .exit 0

def checkDirectory (invocation : Invocation) (output : String) (next : Unit → Command) : Command :=
  match parent? output with
  | none | some "" => next ()
  | some directory => .probe directory fun there =>
    if there then next ()
    else invocation.fail 1 ("Output directory does not exist: " ++ directory)

def writeImage (invocation : Invocation) (options : Options) (program : Program)
    (next : Unit → Command) : Command :=
  let output := options.output.getD (withExtension options.input imageExtension)
  invocation.checkDirectory output fun _ =>
    let image := program.toImage
    .write output image fun
      | .error fault => invocation.fail 1 ("Failed to write output file: " ++ fault.message)
      | .ok () =>
        let functions := program.routines.length
        invocation.inform ("Assembled " ++ options.input ++ " -> " ++ output ++
          s!" ({functions} functions, " ++ toString image.length ++ " bytes)") next

def assemble (invocation : Invocation) (options : Options) : Command :=
  let input := options.input
  let unreadable (reason : String) :=
    invocation.fail 1 ("Assembly failed: io error on " ++ input ++ ": " ++ reason)
  .read input fun
    | .error fault => unreadable fault.message
    | .ok bytes =>
      match Text.ofUtf8? bytes with
      | none => unreadable "stream did not contain valid UTF-8"
      | some source =>
        match Assembly.assemble input source with
        | .error (.failed failure) =>
          invocation.logAll [⟨.error, failure.diagnostic input source⟩] fun _ =>
            invocation.fail 1 ("Assembly failed: " ++ failure.message)
        | .error .overflow => .exit brokenOff
        | .ok program =>
          invocation.writeImage options program fun _ => invocation.finish options program

def loadImage (invocation : Invocation) (options : Options) : Command :=
  let input := options.input
  .read input fun
    | .error fault => invocation.fail 1 ("Failed to read " ++ input ++ ": " ++ fault.message)
    | .ok bytes =>
      match Program.ofImage bytes with
      | .error fault =>
        invocation.fail 1 ("Invalid bytecode image " ++ input ++ ": " ++ fault.message)
      | .ok program => invocation.finish options program

def command (invocation : Invocation) : Command :=
  match invocation.arguments with
  | [] => invocation.inform invocation.usage fun _ => .exit 1
  | "--help" :: _ | "-h" :: _ => invocation.inform invocation.usage fun _ => .exit 0
  | input :: rest =>
    match Options.ofArguments input rest with
    | .error message =>
      invocation.logAll [⟨.error, message ++ "\n"⟩] fun _ =>
        invocation.inform invocation.usage fun _ => .exit 1
    | .ok options => .probe options.input fun there =>
      if !there then invocation.fail 1 ("Input file does not exist: " ++ options.input)
      else if extension? options.input = some imageExtension then invocation.loadImage options
      else invocation.assemble options

end Invocation
end GameScript.CommandLine
