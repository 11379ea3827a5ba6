import InstanceIdentity.Store.Path

/-!
# File systems

A file system maps places to directories, to files and to symbolic links, and numbered files to their
bytes and permission bits.  A place and the file that it leads to are apart, so that an open file stays
what it is when its place is given to another.  Operations act on paths, which are followed name by name
from the root or from the current directory.  A symbolic link on the way is exchanged for the names in
its body; one at the end is followed by operations on what the path leads to, and left alone by those
on the place itself.
-/

namespace InstanceIdentity

/-- Why an operation was refused. -/
inductive Errno where
  | notFound
  | alreadyExists
  | notDirectory
  | isDirectory
  | busy
  | nameTooLong
  | tooManyLinks
  | zeroInName
  | other (message : String)
  deriving DecidableEq

/-- The wording of a refusal. -/
def Errno.message : Errno → String
  | .notFound => "No such file or directory (os error 2)"
  | .busy => "Device or resource busy (os error 16)"
  | .alreadyExists => "File exists (os error 17)"
  | .notDirectory => "Not a directory (os error 20)"
  | .isDirectory => "Is a directory (os error 21)"
  | .nameTooLong => "File name too long (os error 36)"
  | .tooManyLinks => "Too many levels of symbolic links (os error 40)"
  | .zeroInName => "file name contained an unexpected NUL byte"
  | .other message => message

/-- A position in the tree of directories: names from the root. -/
abbrev Place := List String

/-- What a place leads to. -/
inductive Entry where
  | directory (mode : Nat)
  | file (number : Nat)
  | symlink (body : String)
  deriving DecidableEq

/-- A file, wherever it is found. -/
structure FileData where
  content : List UInt8
  mode : Nat
  deriving DecidableEq

/-- Places, files, and the settings of the process that works on them. -/
structure FileSystem where
  entries : List (Place × Entry)
  files : List FileData
  /-- Permission bits that are withheld from what is created. -/
  umask : Nat
  current : Place

namespace FileSystem

/-- An empty current directory. -/
def start : FileSystem where
  entries := [([], .directory 0o755), (["work"], .directory 0o755)]
  files := []
  umask := 0o22
  current := ["work"]

/-! ## Places -/

/-- What a place leads to. -/
def entry? (fs : FileSystem) (place : Place) : Option Entry := fs.entries.lookup place

/-- The file at a place. -/
def fileAt? (fs : FileSystem) (place : Place) : Option FileData :=
  match fs.entry? place with
  | some (.file number) => fs.files[number]?
  | _ => none

/-- Makes a place lead to something. -/
def link (fs : FileSystem) (place : Place) (entry : Entry) : FileSystem :=
  { fs with entries := (place, entry) :: fs.entries.filter fun e => e.1 != place }

/-- Makes a place lead nowhere. -/
def unlink (fs : FileSystem) (place : Place) : FileSystem :=
  { fs with entries := fs.entries.filter fun e => e.1 != place }

/-- Changes a file. -/
def modifyFile (fs : FileSystem) (number : Nat) (f : FileData → FileData) : FileSystem :=
  { fs with files := fs.files.modify number f }

/-- Permission bits without those that are withheld. -/
def granted (fs : FileSystem) (mode : Nat) : Nat := mode ^^^ (mode &&& fs.umask)

/-! ## Paths -/

/-- Where a path leads: all but its last name are directories. -/
structure Target where
  place : Place
  /-- The path ends in a name, not in a step to the same or the upper directory. -/
  named : Bool
  /-- A slash follows the last name. -/
  slashed : Bool

/-- The longest name in a path, in bytes. -/
def longestName : Nat := 255

/-- The longest path, in bytes. -/
def longestPath : Nat := 4095

/-- The most symbolic links that are followed on the way along one path. -/
def mostLinks : Nat := 40

/-- Where the names in a text are followed from, in a directory. -/
def startOf (directory : Place) (text : String) : Place :=
  if Path.isRooted text then [] else directory

/-- Follows names from a directory, and leaves it to `jump` to go on from a symbolic link.  One at the
end is only `followed` on demand. -/
def seekBy (fs : FileSystem) (followed : Bool)
    (jump : Bool → Place → List String → Except Errno Target) (slashed : Bool) :
    Place → List String → Except Errno Target
  | here, [] => .ok { place := here, named := false, slashed }
  | here, name :: rest =>
    if name = "." then fs.seekBy followed jump slashed here rest
    else if name = ".." then fs.seekBy followed jump slashed here.dropLast rest
    else if longestName < name.utf8ByteSize then .error .nameTooLong
    else
      let last := rest.isEmpty
      match fs.entry? (here ++ [name]) with
      | some (.symlink body) =>
        if last && !followed then .ok { place := here ++ [name], named := true, slashed }
        else
          jump (slashed || last && Path.isSlashed body) (startOf here body) (Path.names body ++ rest)
      | entry =>
        if last then .ok { place := here ++ [name], named := true, slashed }
        else
          match entry with
          | some (.directory _) => fs.seekBy followed jump slashed (here ++ [name]) rest
          | some _ => .error .notDirectory
          | none => .error .notFound

/-- Follows names from a directory, with no more than a number of symbolic links. -/
def seek (fs : FileSystem) (followed : Bool) :
    Nat → Bool → Place → List String → Except Errno Target
  | 0 => fs.seekBy followed fun _ _ _ => .error .tooManyLinks
  | links + 1 => fs.seekBy followed (fs.seek followed links)

/-- Where a path leads. -/
def locate (fs : FileSystem) (followed : Bool) (path : String) : Except Errno Target := do
  if path.toList.contains '\x00' then throw .zeroInName
  if path = "" then throw .notFound
  if longestPath < path.utf8ByteSize then throw .nameTooLong
  fs.seek followed mostLinks (Path.isSlashed path) (startOf fs.current path) (Path.names path)

/-- The place of a path, though a symbolic link may be there. -/
def resolve (fs : FileSystem) (path : String) : Except Errno Target := fs.locate false path

/-- The place that a path leads to by symbolic links. -/
def reach (fs : FileSystem) (path : String) : Except Errno Target := fs.locate true path

/-! ## Operations -/

/-- The file that a path leads to. -/
def openFile (fs : FileSystem) (path : String) : Except Errno Nat := do
  let target ← fs.reach path
  match fs.entry? target.place with
  | none => throw .notFound
  | some (.directory _) => throw .isDirectory
  | some (.symlink _) => throw .tooManyLinks
  | some (.file number) => if target.slashed then throw .notDirectory else return number

/-- The bytes of a file. -/
def contentOf (fs : FileSystem) (number : Nat) : List UInt8 :=
  (fs.files[number]?.map (·.content)).getD []

/-- The bytes of the file that a path leads to. -/
def read (fs : FileSystem) (path : String) : Except Errno (List UInt8) :=
  (fs.openFile path).map fs.contentOf

/-- Opens a file for writing and empties it.  A new file gets the given permission bits; an old one
keeps its own. -/
def create (fs : FileSystem) (path : String) (mode : Nat) : Except Errno (Nat × FileSystem) := do
  let target ← fs.reach path
  if target.slashed || !target.named then throw .isDirectory
  match fs.entry? target.place with
  | some (.directory _) => throw .isDirectory
  | some (.symlink _) => throw .tooManyLinks
  | some (.file number) =>
    return (number, fs.modifyFile number fun file => { file with content := [] })
  | none =>
    let number := fs.files.length
    let empty : FileData := { content := [], mode := fs.granted mode }
    let created := { fs with files := fs.files ++ [empty] }
    return (number, created.link target.place (.file number))

/-- Writes bytes over the beginning of an open file. -/
def write (fs : FileSystem) (number : Nat) (bytes : List UInt8) : FileSystem :=
  fs.modifyFile number fun file => { file with content := bytes ++ file.content.drop bytes.length }

/-- Makes one path lead where another led, which then leads nowhere.  Symbolic links at the two are
moved and replaced, not followed. -/
def rename (fs : FileSystem) (source target : String) : Except Errno FileSystem := do
  let old ← fs.resolve source
  let new ← fs.resolve target
  if !old.named || !new.named then throw .busy
  match fs.entry? old.place with
  | none => throw .notFound
  | some (.directory _) => throw .isDirectory
  | some entry =>
    if old.slashed || new.slashed then throw .notDirectory
    match fs.entry? new.place with
    | some (.directory _) => throw .isDirectory
    | some (.file other) =>
      if entry = .file other then return fs
      else return (fs.unlink old.place).link new.place entry
    | _ => return (fs.unlink old.place).link new.place entry

/-- Sets the permission bits of what a path leads to. -/
def setMode (fs : FileSystem) (path : String) (mode : Nat) : Except Errno FileSystem := do
  let target ← fs.reach path
  match fs.entry? target.place with
  | none => throw .notFound
  | some (.directory _) => return fs.link target.place (.directory mode)
  | some (.symlink _) => throw .tooManyLinks
  | some (.file number) =>
    if target.slashed then throw .notDirectory
    return fs.modifyFile number fun file => { file with mode }

/-- The permission bits of what a path leads to. -/
def mode (fs : FileSystem) (path : String) : Except Errno Nat := do
  let target ← fs.reach path
  match fs.entry? target.place with
  | none => throw .notFound
  | some (.directory mode) => return mode
  | some (.symlink _) => throw .tooManyLinks
  | some (.file number) =>
    if target.slashed then throw .notDirectory
    return (fs.files[number]?.map (·.mode)).getD 0

/-- Removes a file or a symbolic link from its place. -/
def remove (fs : FileSystem) (path : String) : Except Errno FileSystem := do
  let target ← fs.resolve path
  match fs.entry? target.place with
  | none => throw .notFound
  | some (.directory _) => throw .isDirectory
  | some _ => if target.slashed then throw .notDirectory else return fs.unlink target.place

/-- Creates a directory. -/
def makeDirectory (fs : FileSystem) (path : String) : Except Errno FileSystem := do
  let target ← fs.resolve path
  match fs.entry? target.place with
  | some _ => throw .alreadyExists
  | none => return fs.link target.place (.directory (fs.granted 0o777))

/-- A path leads to a directory. -/
def isDirectory (fs : FileSystem) (path : String) : Bool :=
  match (fs.reach path).map fun target => fs.entry? target.place with
  | .ok (some (.directory _)) => true
  | _ => false

/-- Creates a directory where none is yet. -/
def ensureDirectory (fs : FileSystem) (path : String) : Except Errno FileSystem :=
  match fs.makeDirectory path with
  | .ok made => .ok made
  | .error errno => if fs.isDirectory path then .ok fs else .error errno

/-- Creates a directory after those above it, at most a number of them.  What was created before a
refusal stays. -/
def makeDirectoriesWithin : Nat → FileSystem → String → FileSystem × Except Errno Unit
  | 0, fs, _ => (fs, .error .notFound)
  | steps + 1, fs, path =>
    if path = "" then (fs, .ok ())
    else
      match fs.ensureDirectory path with
      | .ok made => (made, .ok ())
      | .error .notFound =>
        match Path.parent? path with
        | none => (fs, .error (.other "failed to create whole tree"))
        | some above =>
          match makeDirectoriesWithin steps fs above with
          | (made, .error errno) => (made, .error errno)
          | (made, .ok ()) =>
            match made.ensureDirectory path with
            | .ok all => (all, .ok ())
            | .error errno => (made, .error errno)
      | .error errno => (fs, .error errno)

/-- Creates a directory and all that are missing above it. -/
def makeDirectories (fs : FileSystem) (path : String) : FileSystem × Except Errno Unit :=
  makeDirectoriesWithin (path.length + 1) fs path

/-- Creates the directories above the lowest ones of a path, of which a number is left out. -/
def makeAbove (fs : FileSystem) : Nat → String → FileSystem
  | 0, path => (fs.makeDirectories path).1
  | levels + 1, path =>
    match Path.parent? path with
    | none => fs
    | some above => fs.makeAbove levels above

/-- Creates or replaces a file. -/
def writeFile (fs : FileSystem) (path : String) (bytes : List UInt8) : Except Errno FileSystem := do
  let (number, created) ← fs.create path 0o666
  return created.write number bytes

/-- Everything below the current directory, by its path; directories end in a slash. -/
def tree (fs : FileSystem) : List String :=
  let below := fs.entries.filterMap fun (place, entry) =>
    if fs.current.isPrefixOf place && place != fs.current then
      let path := Path.join (place.drop fs.current.length)
      some (match entry with | .directory _ => path ++ "/" | .file _ | .symlink _ => path)
    else none
  below.mergeSort fun a b => decide (a ≤ b)

end FileSystem

end InstanceIdentity
