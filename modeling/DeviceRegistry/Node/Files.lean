import DeviceRegistry.Association
import DeviceRegistry.Node.Path
import DeviceRegistry.Text.Utf8
/-!
# Files

What a node needs of a file system, as a record of operations in a monad, and a file
system that is a value: files and directories with the rules by which a path text
leads to one of them.

A path text is followed name by name, from the working directory or from the root, and
every name but the last one must be that of a directory. A dot is the directory that it
is looked up in, and two dots are the one around it. A slash at the end asks for a
directory.
-/

namespace DeviceRegistry.Node

/-- Why a file cannot be read or written. -/
inductive FileError where
  | notFound
  | isDirectory
  /-- Something on the way is no directory. -/
  | notDirectory
  /-- The path, or a name in it, is too long. -/
  | nameTooLong
  /-- A path cannot hold the character of code zero. -/
  | zeroCharacter
  | other (reason : String)
deriving DecidableEq, Repr

/-- The wording of an error, with its number if it has one. -/
def FileError.message : FileError → String
  | .notFound => "No such file or directory (os error 2)"
  | .isDirectory => "Is a directory (os error 21)"
  | .notDirectory => "Not a directory (os error 20)"
  | .nameTooLong => "File name too long (os error 36)"
  | .zeroCharacter => "file name contained an unexpected NUL byte"
  | .other reason => reason

/-- What a node needs of a file system. -/
structure FileAccess (m : Type → Type) where
  isFile : (path : String) → m Bool
  read : (path : String) → m (Except FileError Bytes)
  write : (path : String) → Bytes → m (Except FileError Unit)

/-- Where the way to a place begins. -/
inductive Origin where
  | root
  /-- So many levels above the working directory; the latter is at zero levels. -/
  | above (levels : Nat)
deriving DecidableEq, Repr, Inhabited

/-- The directory around an origin. The root is around itself. -/
def Origin.parent : Origin → Origin
  | .root => .root
  | .above levels => .above (levels + 1)

/-- The place of a file or directory: the names on the way from an origin. -/
structure Place where
  origin : Origin
  names : List (List Char)
deriving DecidableEq, Repr, Inhabited

namespace Place

def working : Place := ⟨.above 0, []⟩

def child (directory : Place) (name : List Char) : Place :=
  { directory with names := directory.names ++ [name] }

/-- The directory around a place. -/
def parent (place : Place) : Place :=
  if place.names.isEmpty then ⟨place.origin.parent, []⟩
  else { place with names := place.names.dropLast }

/-- The directory around the directory of a name is the one that the name is in. -/
@[simp]
theorem parent_child (directory : Place) (name : List Char) :
    (directory.child name).parent = directory := by
  simp [parent, child]

end Place

/-- What is found at a place. -/
inductive Entry where
  | directory
  | file (content : Bytes)
deriving DecidableEq, Repr

/-- Files and directories; every origin is a directory. -/
structure FileSystem where
  files : List (Place × Bytes)
  directories : List Place
deriving DecidableEq, Repr, Inhabited

namespace FileSystem

/-- Nothing but the directories at the origins. -/
def empty : FileSystem := ⟨[], []⟩

def entry? (system : FileSystem) (place : Place) : Option Entry :=
  if place.names.isEmpty || system.directories.contains place then some .directory
  else (system.files.lookup place).map .file

/-! ## Following a path -/

/-- The greatest number of bytes of a name. -/
def nameLimit : Nat := 255

/-- The greatest number of bytes of a path. -/
def pathLimit : Nat := 4095

/-- The place that a name in a directory stands for. -/
def step (directory : Place) (name : List Char) : Except FileError Place :=
  if name = ['.'] then .ok directory
  else if name = ['.', '.'] then .ok directory.parent
  else if nameLimit < Text.Utf8.byteCount name then .error .nameTooLong
  else .ok (directory.child name)

/-- The directory that a name in a directory stands for. -/
def enter (system : FileSystem) (directory : Place) (name : List Char) :
    Except FileError Place := do
  let place ← step directory name
  match system.entry? place with
  | some .directory => return place
  | some (.file _) => throw .notDirectory
  | none => throw .notFound

/-- A path text that is followed up to its last name. -/
structure Route where
  /-- The directory that the last name is looked up in. -/
  directory : Place
  /-- The last name; a path of slashes leads to where it begins. -/
  last : List Char
  endsWithSlash : Bool
deriving DecidableEq, Repr, Inhabited

/-- Follows a path text up to its last name. -/
def route (system : FileSystem) (path : List Char) : Except FileError Route := do
  if path.contains (Char.ofNat 0) then throw .zeroCharacter
  if path.isEmpty then throw .notFound
  if pathLimit < Text.Utf8.byteCount path then throw .nameTooLong
  let start : Place := if path.head? = some '/' then ⟨.root, []⟩ else .working
  let names := (Path.pieces path).filter (· ≠ [])
  let directory ← names.dropLast.foldlM system.enter start
  return ⟨directory, names.getLast?.getD ['.'], path.getLast? = some '/'⟩

/-! ## Operations -/

def read (system : FileSystem) (path : String) : Except FileError Bytes := do
  let route ← system.route path.toList
  match system.entry? (← step route.directory route.last) with
  | some .directory => throw .isDirectory
  | some (.file content) => if route.endsWithSlash then throw .notDirectory else return content
  | none => throw .notFound

def isFile (system : FileSystem) (path : String) : Bool :=
  (system.read path).isOk

/-- Writes a file, be it there already or not. -/
def write (system : FileSystem) (path : String) (content : Bytes) :
    Except FileError FileSystem := do
  let route ← system.route path.toList
  if route.endsWithSlash then throw .isDirectory
  let place ← step route.directory route.last
  if system.entry? place = some .directory then throw .isDirectory
  return { system with files := Association.assign place content system.files }

/-- Adds a directory and those around it. -/
def addDirectory (system : FileSystem) (place : Place) : FileSystem :=
  let around := (List.range place.names.length).map fun count =>
    { place with names := place.names.take (count + 1) }
  { system with directories := around ++ system.directories }

/-- Adds a file and the directories around it. -/
def addFile (system : FileSystem) (place : Place) (content : Bytes) : FileSystem :=
  let around := system.addDirectory place.parent
  { around with files := Association.assign place content around.files }

/-- The operations on a file system that is kept as a state. -/
def access : FileAccess (StateM FileSystem) where
  isFile path := return (← get).isFile path
  read path := return (← get).read path
  write path content := do
    match (← get).write path content with
    | .ok system =>
      set system
      return .ok ()
    | .error error => return .error error

end FileSystem

end DeviceRegistry.Node
