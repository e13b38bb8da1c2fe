import GameScript.CommandLine.Command

/-! Where paths lead. A path is followed name by name from the working directory or from the root; a
single dot stays and two dots lead to the directory above. -/

namespace GameScript.CommandLine

inductive Start where
  /-- So many directories above the working directory, which is itself for zero. -/
  | above (steps : Nat)
  | root
deriving DecidableEq, Repr

/-- A place in the file system: names that lead down from a directory. -/
structure Place where
  start : Start
  names : List String
deriving DecidableEq, Repr

namespace Place

/-- The directory that a place lies in. The root lies in itself. -/
def up : Place → Place
  | ⟨.above steps, []⟩ => ⟨.above (steps + 1), []⟩
  | ⟨start, names⟩ => ⟨start, names.dropLast⟩

/-- The place that a name leads to from a directory. -/
def step (place : Place) (name : String) : Place :=
  if name == "." then place
  else if name == ".." then place.up
  else { place with names := place.names ++ [name] }

end Place

/-- What a path says, before anything is looked up. -/
structure Route where
  start : Place
  names : List String
  /-- A slash after the last name: it has to be a directory. -/
  slash : Bool
deriving DecidableEq, Repr

namespace Route

def pathLimit : Nat := 4095

def nameLimit : Nat := 255

/-- Reads a path. The empty path leads nowhere. -/
def ofPath (path : String) : Except FileFault Route :=
  if path.isEmpty then .error .notFound
  else if pathLimit < path.utf8ByteSize then .error .nameTooLong
  else
    let isSlash := fun c : Char => c == '/'
    .ok {
      start := ⟨if path.toList.head?.any isSlash then .root else .above 0, []⟩
      names := (path.splitOn "/").filter fun name => !name.isEmpty
      slash := path.toList.getLast?.any isSlash }

/-- The names to follow first, and the last one; none for the root. -/
def split? (route : Route) : Option (List String × String) :=
  route.names.getLast?.map fun last => (route.names.dropLast, last)

end Route
end GameScript.CommandLine
