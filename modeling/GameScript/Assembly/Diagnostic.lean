import GameScript.Assembly.Cause
import GameScript.Text.Lines

/-! Failures shown with the line they are about and a caret under the column. -/

namespace GameScript.Assembly

def padLeft (width : Nat) (text : String) : String :=
  String.ofList (List.replicate (width - text.length) ' ') ++ text

def withoutReturns (line : String) : String :=
  String.ofList ((line.toList.reverse.dropWhile (· == '\r')).reverse)

/-- A message at a line and column of a text. A line that the text has not is not shown. -/
def diagnostic (file source : String) (line column : Nat) (message : String) : String :=
  let place := s!"error: {message}\n --> {file}:{line}:{column}\n"
  match (Text.lines source)[line - 1]? with
  | none => place
  | some text =>
    let spaces := String.ofList (List.replicate (column - 1) ' ')
    place ++ "  |\n" ++ padLeft 4 (toString line) ++ " | " ++ withoutReturns text ++ "\n  | " ++
      spaces ++ "^\n"

def plainDiagnostic (message : String) : String := "error: " ++ message

def Failure.diagnostic (failure : Failure) (file source : String) : String :=
  Assembly.diagnostic file source failure.line failure.column failure.cause.message

end GameScript.Assembly
