import GameScript.Assembly.Cause

/-! The tokens of a line. Commas, spaces, tabs and carriage returns separate tokens, except between
double quotes and inside parentheses; `#` outside quotes starts a comment. A closing parenthesis
that closes nothing belongs to the token it stands in, and to none outside a token. -/

namespace GameScript.Assembly

structure Token where
  text : String
  /-- Where the token starts, counted in bytes from 1. -/
  column : Nat
deriving DecidableEq, Repr

structure Scan where
  /-- Bytes read so far. -/
  offset : Nat
  /-- The start and the characters of the current token, last character first. -/
  current : Option (Nat × List Char)
  quoted : Bool
  escaped : Bool
  depth : Nat
  /-- The tokens before it, last one first. -/
  done : List Token
deriving DecidableEq, Repr

namespace Scan

def start : Scan := ⟨0, none, false, false, 0, []⟩

/-- The current token ends here. -/
def close (scan : Scan) : Scan :=
  match scan.current with
  | none => scan
  | some (begin, chars) =>
    { scan with current := none, done := ⟨String.ofList chars.reverse, begin + 1⟩ :: scan.done }

/-- The character belongs to the current token, or starts one. -/
def extend (scan : Scan) (c : Char) : Scan :=
  match scan.current with
  | none => { scan with current := some (scan.offset, [c]) }
  | some (begin, chars) => { scan with current := some (begin, c :: chars) }

/-- The character belongs to the current token if there is one. -/
def extendOnly (scan : Scan) (c : Char) : Scan :=
  match scan.current with
  | none => scan
  | some _ => scan.extend c

def isSeparator (c : Char) : Bool := c == ',' || c == ' ' || c == '\t' || c == '\r'

/-- Takes in one character, which is not the start of a comment. -/
def step (scan : Scan) (c : Char) : Scan :=
  let next : Scan :=
    if scan.quoted then
      let scan := scan.extend c
      if scan.escaped then { scan with escaped := false }
      else if c == '\\' then { scan with escaped := true }
      else if c == '"' then { scan with quoted := false }
      else scan
    else if c == '"' then { scan.extend c with quoted := true }
    else if c == '(' then
      let scan := scan.extend c
      { scan with depth := scan.depth + 1 }
    else if c == ')' then
      let scan := scan.extendOnly c
      { scan with depth := scan.depth - 1 }
    else if isSeparator c && scan.depth == 0 then scan.close
    else scan.extend c
  { next with offset := scan.offset + c.utf8Size }

/-- Takes in characters up to the end or a comment. -/
def run (scan : Scan) : List Char → Scan
  | [] => scan
  | c :: rest => if c == '#' && !scan.quoted then scan else (scan.step c).run rest

def column (scan : Scan) : Nat :=
  match scan.current with
  | some (begin, _) => begin + 1
  | none => 1

end Scan

/-- The tokens of a line, or what is left open at its end and where that starts. -/
def tokenize (line : Nat) (text : String) : Except Failure (List Token) :=
  let scan := Scan.start.run text.toList
  if scan.quoted then .error ⟨line, scan.column, .tokens .unterminatedString⟩
  else if 0 < scan.depth then .error ⟨line, scan.column, .tokens .unbalancedParenthesis⟩
  else .ok scan.close.done.reverse

end GameScript.Assembly
