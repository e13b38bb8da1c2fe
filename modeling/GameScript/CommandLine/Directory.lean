import GameScript.CommandLine.Place

/-! A working directory with files in memory, and what a command does there. Of the file system
around it only the directories are known that every system has, and the device that swallows what
is written to it. -/

namespace GameScript.CommandLine

structure Directory where
  /-- The names along the path of each file, and its content. -/
  files : List (List String × List UInt8)
deriving DecidableEq, Repr

inductive Entry where
  | directory
  | file (content : List UInt8)
deriving DecidableEq, Repr

namespace Directory

/-- The directories in the root of every system. -/
def standard : List String :=
  ["bin", "boot", "dev", "etc", "home", "lib", "media", "mnt", "opt", "proc", "root", "run", "sbin",
    "srv", "sys", "tmp", "usr", "var"]

/-- What stands below the working directory: a file, or a directory that files lie in. -/
def inside? (directory : Directory) (names : List String) : Option Entry :=
  match directory.files.lookup names with
  | some content => some (.file content)
  | none =>
    let leadsTo := fun entry : List String × List UInt8 =>
      names.length < entry.1.length && entry.1.take names.length == names
    if names.isEmpty || directory.files.any leadsTo then some .directory else none

def entry? (directory : Directory) : Place → Option Entry
  | ⟨.above 0, names⟩ => directory.inside? names
  | ⟨_, []⟩ => some .directory
  | ⟨.root, [name]⟩ => if standard.contains name then some .directory else none
  | ⟨.root, ["dev", "null"]⟩ => some (.file [])
  | _ => none

/-- The place that a name leads to and what stands there, if anything. -/
def follow (directory : Directory) (place : Place) (name : String) :
    Except FileFault (Place × Option Entry) :=
  if Route.nameLimit < name.utf8ByteSize then .error .nameTooLong
  else .ok (place.step name, directory.entry? (place.step name))

/-- The place that names lead to, each of them to a directory. -/
def walk (directory : Directory) (place : Place) : List String → Except FileFault Place
  | [] => .ok place
  | name :: rest => do
    match ← directory.follow place name with
    | (next, some .directory) => directory.walk next rest
    | (_, some (.file _)) => .error .notADirectory
    | (_, none) => .error .notFound

def find (directory : Directory) (path : String) : Except FileFault Entry := do
  let route ← Route.ofPath path
  match route.split? with
  | none => return .directory
  | some (names, last) =>
    match ← directory.follow (← directory.walk route.start names) last with
    | (_, some .directory) => return .directory
    | (_, some (.file content)) =>
      if route.slash then .error .notADirectory else return .file content
    | (_, none) => .error .notFound

def probe (directory : Directory) (path : String) : Bool := (directory.find path).toBool

def read (directory : Directory) (path : String) : Except FileFault (List UInt8) := do
  match ← directory.find path with
  | .directory => .error .isADirectory
  | .file content => return content

/-- Replaces a file or adds one. What is written outside of the working directory does not show. -/
def put (directory : Directory) (place : Place) (content : List UInt8) : Directory :=
  if place.start = .above 0 then
    ⟨directory.files.filter (fun entry => entry.1 != place.names) ++ [(place.names, content)]⟩
  else directory

/-- Writes a file. A path that ends in a slash is taken for a directory, whatever is there. -/
def write (directory : Directory) (path : String) (content : List UInt8) :
    Except FileFault Directory := do
  let route ← Route.ofPath path
  match route.split? with
  | none => .error .isADirectory
  | some (names, last) =>
    let parent ← directory.walk route.start names
    if route.slash then .error .isADirectory
    else
      match ← directory.follow parent last with
      | (_, some .directory) => .error .isADirectory
      | (place, _) => return directory.put place content

end Directory

structure Trace where
  code : UInt8
  /-- The log, in order. -/
  records : List Log.Record
  /-- The output, in order. -/
  lines : List String
  directory : Directory

def Command.trace (directory : Directory) : Command → Trace
  | .exit code => ⟨code, [], [], directory⟩
  | .log record next =>
    let rest := (next ()).trace directory
    { rest with records := record :: rest.records }
  | .print line next =>
    let rest := (next ()).trace directory
    { rest with lines := line :: rest.lines }
  | .probe path next => (next (directory.probe path)).trace directory
  | .read path next => (next (directory.read path)).trace directory
  | .write path content next =>
    match directory.write path content with
    | .ok directory => (next (.ok ())).trace directory
    | .error fault => (next (.error fault)).trace directory

end GameScript.CommandLine
