/-!
# Files and directories

The part of a file system that scripts can see: directories and files with text in them, by their
paths from a root. Paths are looked up part by part, so every part but the last must be a directory.
Paths and their parts have a greatest size in bytes.
-/

namespace EntityGateway

/-- The cause for which an operation on files failed. -/
inductive FileError where
  | notFound
  | notADirectory
  | isADirectory
  | alreadyExists
  | nameTooLong
  /-- Any other cause, in words. -/
  | other (text : String)
  deriving DecidableEq, Repr

/-- The message about a cause. -/
def FileError.message : FileError → String
  | notFound => "No such file or directory (os error 2)"
  | notADirectory => "Not a directory (os error 20)"
  | isADirectory => "Is a directory (os error 21)"
  | alreadyExists => "File exists (os error 17)"
  | nameTooLong => "File name too long (os error 36)"
  | other text => text

/-- The parts of a path from the root. -/
abbrev Path := List String

/-- What is found at a path. -/
inductive FileEntry where
  | file (content : String)
  | directory
  deriving DecidableEq, Repr

/-- The files and directories by their paths. The root is always a directory. -/
structure FileSystem where
  entries : List (Path × FileEntry) := []

namespace FileSystem

/-- Characters cut at every slash. -/
def cutAtSlashes : List Char → List (List Char)
  | [] => [[]]
  | c :: rest =>
    match cutAtSlashes rest with
    | [] => [[c]]
    | part :: parts => if c = '/' then [] :: part :: parts else (c :: part) :: parts

/-- The parts of a path as it is written. -/
def partsOf (path : String) : List String :=
  (cutAtSlashes path.toList).map String.ofList

/-- Adds a name to a path as it is written. -/
def join (directory name : String) : String :=
  if directory.isEmpty then name
  else if directory.toList.getLast? = some '/' then directory ++ name
  else directory ++ "/" ++ name

/-- What is at a path. -/
def find? (fs : FileSystem) (path : Path) : Option FileEntry :=
  if path = [] then some .directory
  else (fs.entries.find? fun entry => entry.1 = path).map (·.2)

/-- Puts something at a path, in place of what was there. -/
def put (fs : FileSystem) (path : Path) (entry : FileEntry) : FileSystem :=
  ⟨(path, entry) :: fs.entries.filter fun e => e.1 ≠ path⟩

/-- The greatest size of a part of a path, in bytes. -/
def greatestPartSize : Nat := 255

/-- The greatest size of a path, in bytes. -/
def greatestPathSize : Nat := 4095

/-- Follows the parts of a path from a directory. What the last part names need not exist. -/
def follow (fs : FileSystem) (here : Path) : List String → Except FileError Path
  | [] => .ok here
  | part :: rest =>
    if part = "" ∨ part = "." then follow fs here rest
    else if part = ".." then follow fs here.dropLast rest
    else if greatestPartSize < part.utf8ByteSize then .error .nameTooLong
    else if rest.isEmpty then .ok (here ++ [part])
    else
      match fs.find? (here ++ [part]) with
      | some .directory => follow fs (here ++ [part]) rest
      | some (.file _) => .error .notADirectory
      | none => .error .notFound

/-- Where a path leads. -/
def locate (fs : FileSystem) (path : String) : Except FileError Path :=
  if path.isEmpty then .error .notFound
  else if greatestPathSize < path.utf8ByteSize then .error .nameTooLong
  else fs.follow [] (partsOf path)

/-- The text of a file. -/
def read (fs : FileSystem) (path : String) : Except FileError String :=
  match fs.locate path with
  | .error e => .error e
  | .ok place =>
    match fs.find? place with
    | some (.file content) => .ok content
    | some .directory => .error .isADirectory
    | none => .error .notFound

/-- There is a file or a directory. -/
def hasEntry (fs : FileSystem) (path : String) : Bool :=
  match fs.locate path with
  | .error _ => false
  | .ok place => (fs.find? place).isSome

/-- Puts a text into a file, which may be a new one. -/
def write (fs : FileSystem) (path content : String) : Except FileError FileSystem :=
  match fs.locate path with
  | .error e => .error e
  | .ok place =>
    match fs.find? place with
    | some .directory => .error .isADirectory
    | _ => .ok (fs.put place (.file content))

/-- A path leads to a directory. -/
def isDirectory (fs : FileSystem) (parts : List String) : Bool :=
  match fs.follow [] parts with
  | .ok place => fs.find? place = some .directory
  | .error _ => false

/-- Parts without the empty ones that slashes at the end leave. -/
def withoutEndSlashes (parts : List String) : List String :=
  (parts.reverse.dropWhile (· = "")).reverse

/-- Makes a directory in one that exists. -/
def makeDirectory (fs : FileSystem) (parts : List String) : Except FileError FileSystem :=
  match fs.follow [] (withoutEndSlashes parts) with
  | .error e => .error e
  | .ok place =>
    if (fs.find? place).isSome then .error .alreadyExists else .ok (fs.put place .directory)

/-- A path, and then those of the directories that it lies in, from the innermost on. -/
def ancestors (parts : List String) : List (List String) :=
  let names := parts.filter fun part => part ≠ "" && part ≠ "."
  parts :: (List.range names.length).reverse.map names.take

/-- Whether a directory is there after an attempt to make it. One that was there before will do. -/
def settle (fs : FileSystem) (parts : List String) :
    Except FileError FileSystem → Except FileError Unit × FileSystem
  | .ok made => (.ok (), made)
  | .error .alreadyExists =>
    (if fs.isDirectory parts then .ok () else .error .alreadyExists, fs)
  | .error e => (.error e, fs)

/-- Makes the first of some directories, each of which lies in the next one. Where something is
missing on the way, the others are made first. What was made stays, even if a later step fails. -/
def makeInnermost (fs : FileSystem) : List (List String) → Except FileError Unit × FileSystem
  | [] => (.ok (), fs)
  | parts :: outer =>
    match fs.makeDirectory parts with
    | .error .notFound =>
      match fs.makeInnermost outer with
      | (.error e, fs') => (.error e, fs')
      | (.ok (), fs') => fs'.settle parts (fs'.makeDirectory parts)
    | made => fs.settle parts made

/-- Makes a directory and those that it lies in, as far as they are missing. -/
def makeDirectories (fs : FileSystem) (path : String) : Except FileError Unit × FileSystem :=
  if greatestPathSize < path.utf8ByteSize then (.error .nameTooLong, fs)
  else fs.makeInnermost (ancestors (partsOf path))

/-- The names in a directory. -/
def names (fs : FileSystem) (directory : Path) : List String :=
  fs.entries.filterMap fun entry =>
    if entry.1.dropLast = directory then entry.1.getLast? else none

end FileSystem

end EntityGateway
