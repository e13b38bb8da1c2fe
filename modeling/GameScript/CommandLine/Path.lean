/-! Paths as text: names separated by slashes. Trailing slashes and single dots between names mean
nothing, except for a dot that starts a path. -/

namespace GameScript.CommandLine

/-- Characters in reverse, without slashes and single dots after the last name. -/
def withoutTrailing : List Char → List Char
  | '/' :: rest => if rest.isEmpty then ['/'] else withoutTrailing rest
  | '.' :: '/' :: rest => if rest.isEmpty then ['/'] else withoutTrailing rest
  | chars => chars

def trimmed (path : String) : String :=
  String.ofList (withoutTrailing path.toList.reverse).reverse

/-- The path up to the last slash, and what follows it. -/
def splitLast (path : String) : String × String :=
  let reversed := (trimmed path).toList.reverse
  let isName := fun c : Char => c != '/'
  (String.ofList (reversed.dropWhile isName).reverse,
    String.ofList (reversed.takeWhile isName).reverse)

/-- The directory a path lies in, empty for a plain name; none for the root and for no path. -/
def parent? (path : String) : Option String :=
  match splitLast path with
  | (_, "") => none
  | (directory, _) => some (trimmed directory)

/-- The last name of a path, unless that only says where to go. -/
def fileName? (path : String) : Option String :=
  match (splitLast path).2 with
  | "" | "." | ".." => none
  | name => some name

/-- A name split at its last dot. A dot in front is part of the stem. -/
def splitExtension (name : String) : String × Option String :=
  let reversed := name.toList.reverse
  match reversed.dropWhile (· != '.') with
  | '.' :: c :: stem =>
    (String.ofList (c :: stem).reverse,
      some (String.ofList (reversed.takeWhile (· != '.')).reverse))
  | _ => (name, none)

def extension? (path : String) : Option String := (fileName? path).bind fun name =>
  (splitExtension name).2

/-- A path without its extension; the dot in front of that stays. -/
def withoutExtension (path : String) : String :=
  match extension? path with
  | some old => String.ofList (path.toList.take (path.length - old.length))
  | none => path

/-- The path with another extension. The old one goes first, and when two dots are all that is left
of the name, the path leads to a directory and gets no new one. -/
def withExtension (path added : String) : String :=
  let bare := withoutExtension path
  match fileName? bare with
  | some name => (splitLast bare).1 ++ (splitExtension name).1 ++ "." ++ added
  | none => bare

end GameScript.CommandLine
