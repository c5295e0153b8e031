/-! A directory with what is in it, and the reading of a file by its path. -/

set_option autoImplicit false

namespace KarelLint.Storage

/-- Why a file cannot be read. -/
inductive ReadError where
  | notFound
  | isDirectory
  /-- The path goes on after the name of a file. -/
  | notDirectory
  /-- The path holds the character that ends a path. -/
  | invalidPath
  /-- A name, or the whole path, is too long. -/
  | nameTooLong
  /-- The content is not text in UTF-8. -/
  | notText
  /-- The operating system refuses. -/
  | other (description : String)
  deriving DecidableEq, Repr

/-- What stands at a path. -/
inductive Entry where
  | file (content : ByteArray)
  | folder

/-- A working directory: the entries below it by the names on the way to them. -/
structure Directory where
  entries : List (List String × Entry) := []

namespace Directory

/-- A place that a path leads to. Outside of the working directory nothing is known but that
there are directories. -/
inductive Location where
  | inside (names : List String)
  | outside
  deriving DecidableEq, Repr

/-- What stands at a location. -/
def entry? (directory : Directory) : Location → Option Entry
  | .inside [] => some .folder
  | .inside names => directory.entries.lookup names
  | .outside => some .folder

/-- The location above another one. -/
def parent : Location → Location
  | .inside [] => .outside
  | .inside names => .inside names.dropLast
  | .outside => .outside

/-- The location of a name in a directory. -/
def child? (directory : Directory) (name : String) : Location → Option Location
  | .inside names =>
      let location := .inside (names ++ [name])
      (directory.entry? location).map fun _ => location
  | .outside => none

/-- The number of bytes that a name may have. -/
def nameLimit : Nat := 255

/-- The number of bytes that a path may have. -/
def pathLimit : Nat := 4095

/-- Follow the names of a path. Each of them, also an empty one at the end, must be in a
directory. -/
def follow (directory : Directory) (location : Location) : List String → Except ReadError Location
  | [] => .ok location
  | name :: later =>
      match directory.entry? location with
      | some .folder =>
          if name = "" ∨ name = "." then directory.follow location later
          else if name = ".." then directory.follow (parent location) later
          else if nameLimit < name.utf8ByteSize then .error .nameTooLong
          else match directory.child? name location with
            | some next => directory.follow next later
            | none => .error .notFound
      | some (.file _) => .error .notDirectory
      | none => .error .notFound

/-- The names of a path. -/
def names (path : String) : List String :=
  path.splitOn "/"

/-- The location of a path. -/
def locate (directory : Directory) (path : String) : Except ReadError Location :=
  if path.toList.contains '\x00' then .error .invalidPath
  else if path = "" then .error .notFound
  else if pathLimit < path.utf8ByteSize then .error .nameTooLong
  else
    let start : Location := if path.toList.head? = some '/' then .outside else .inside []
    directory.follow start (names path)

/-- The bytes of the file at a path. -/
def read (directory : Directory) (path : String) : Except ReadError ByteArray := do
  match directory.entry? (← directory.locate path) with
  | some (.file content) => .ok content
  | some .folder => .error .isDirectory
  | none => .error .notFound

/-- Let an entry stand at a location, in place of what was there. Nothing can be put outside
of the working directory. -/
def put (directory : Directory) (location : Location) (entry : Entry) : Directory :=
  match location with
  | .inside names => { entries := (names, entry) :: directory.entries }
  | .outside => directory

/-- The location of a name in a directory, whether it is there or not. -/
def below (name : String) : Location → Location
  | .inside names => .inside (names ++ [name])
  | .outside => .outside

/-- Follow the names of a path, and add the directories that are missing on the way. -/
def build (directory : Directory) (location : Location) : List String → Directory × Location
  | [] => (directory, location)
  | name :: later =>
      if name = "" ∨ name = "." then directory.build location later
      else if name = ".." then directory.build (parent location) later
      else
        let next := below name location
        match directory.entry? next with
        | some _ => directory.build next later
        | none => (directory.put next .folder).build next later

/-- Add a directory, with those on the way to it. -/
def addFolder (directory : Directory) (path : String) : Directory :=
  (directory.build (.inside []) (names path)).1

/-- Add a file, or give it a new content. -/
def addFile (directory : Directory) (path : String) (content : ByteArray) : Directory :=
  let steps := names path
  let (directory, location) := directory.build (.inside []) steps.dropLast
  directory.put (below (steps.getLastD "") location) (.file content)

end Directory

end KarelLint.Storage
