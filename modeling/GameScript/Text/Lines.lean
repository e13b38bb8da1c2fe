/-! The lines of a text. A line ends at a line feed, and a carriage return just before that line
feed belongs to the line end. Text after the last line feed is a line of its own unless empty. -/

namespace GameScript.Text

/-- Splits the rest of a text; `held` is the current line so far, last character first. -/
def linesFrom (held : List Char) : List Char → List (List Char)
  | [] => if held.isEmpty then [] else [held.reverse]
  | c :: rest =>
    if c == '\n' then
      let body := match held with
        | '\r' :: before => before
        | other => other
      body.reverse :: linesFrom [] rest
    else linesFrom (c :: held) rest

def lines (text : String) : List String := (linesFrom [] text.toList).map String.ofList

end GameScript.Text
