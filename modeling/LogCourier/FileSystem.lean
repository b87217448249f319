import LogCourier.Bytes
import LogCourier.SystemError
import LogCourier.Text.Pieces

/-! # Files

Files and directories have an identity that is independent of their names. A path leads to an
identity; an open file is known by its identity and stays readable when its name goes away.
-/

namespace LogCourier

/-- What distinguishes a file from every other, whatever it is called. -/
abbrev FileId := Nat

inductive Node
  | file (content : Bytes)
  | directory
deriving DecidableEq, Repr

/-- A place in the tree: the names that lead to it from the root. -/
abbrev Place := List String

structure FileSystem where
  /-- What the identities stand for. -/
  nodes : Array Node
  /-- Where things are. -/
  names : List (Place × FileId)
  /-- Where relative paths start. -/
  workingDirectory : Place
deriving DecidableEq, Repr

namespace FileSystem

/-- A tree with nothing but these directories. -/
def ofDirectories (workingDirectory : Place) (directories : List Place) : FileSystem where
  nodes := (directories.map fun _ => Node.directory).toArray
  names := directories.zip (List.range directories.length)
  workingDirectory

def idAt (fs : FileSystem) (place : Place) : Option FileId := fs.names.lookup place

def node (fs : FileSystem) (id : FileId) : Option Node := fs.nodes[id]?

def isDirectory (fs : FileSystem) (place : Place) : Bool :=
  (fs.idAt place).bind fs.node == some .directory

/-- The content of a regular file. -/
def content? (fs : FileSystem) (id : FileId) : Option Bytes :=
  match fs.node id with
  | some (.file b) => some b
  | _ => none

/-- The largest length that a file can be given. -/
def maxFileLength : Nat := 0x7FFFFFFFFFFFFFFF

/-- The size that the system shows for a directory. -/
def directorySize : Nat := 4096

def size (fs : FileSystem) (id : FileId) : Nat :=
  match fs.content? id with
  | some b => b.length
  | none => directorySize

/-! ## Paths -/

def maxNameLength : Nat := 255
def maxPathLength : Nat := 4096

/-- Whether a path starts at the root. -/
def isAbsolute (path : String) : Bool := path.toList.head? == some '/'

/-- Goes from a place, which has to be a directory, to one of the names in it. -/
def enter (fs : FileSystem) (place : Place) (name : String) : Except SystemError Place :=
  match (fs.idAt place).bind fs.node with
  | none => .error .notFound
  | some (.file _) => .error .notDirectory
  | some .directory =>
    .ok (if name = "." then place else if name = ".." then place.dropLast else place ++ [name])

def isTooLong (name : String) : Bool := maxNameLength < name.utf8ByteSize

/-- Goes on to a name that another one follows. -/
def follow (fs : FileSystem) (place : Place) (name : String) :
    Except SystemError Place := do
  let next ← fs.enter place name
  if isTooLong name then throw .nameTooLong else return next

/-- Where a path ends. -/
structure Target where
  place : Place
  /-- The last name of the path; none in a path to the root. -/
  name? : Option String
  /-- Whether a slash follows the last name: such a path means a directory. -/
  endsWithSlash : Bool
deriving DecidableEq, Repr

/-- Whether the last name could be given to something new. -/
def Target.isNamed (t : Target) : Bool := t.name?.any fun name => name ≠ "." && name ≠ ".."

/-- Where a path ends; all that its last name is in has to exist. Slashes side by side count
as one. -/
def locate (fs : FileSystem) (path : String) : Except SystemError Target := do
  if '\x00' ∈ path.toList then throw .nulInPath
  if path = "" then throw .notFound
  if maxPathLength ≤ path.utf8ByteSize then throw .nameTooLong
  let names := (Text.split '/' path).filter (· ≠ "")
  let start := if isAbsolute path then [] else fs.workingDirectory
  let above ← names.dropLast.foldlM fs.follow start
  let place ← match names.getLast? with
    | none => pure above
    | some name => fs.enter above name
  return { place, name? := names.getLast?, endsWithSlash := path.toList.getLast? = some '/' }

/-- What stands at the end of a path, if anything does. -/
def entry (fs : FileSystem) (t : Target) : Except SystemError (Option FileId) :=
  if t.name?.any isTooLong then .error .nameTooLong else .ok (fs.idAt t.place)

/-- What a path leads to. -/
def resolve (fs : FileSystem) (path : String) : Except SystemError FileId := do
  let t ← fs.locate path
  match ← fs.entry t with
  | some id =>
    if t.endsWithSlash ∧ (fs.content? id).isSome then throw .notDirectory
    return id
  | none => throw .notFound

/-- What a path leads to, if it can be written. -/
def resolveWritable (fs : FileSystem) (path : String) : Except SystemError FileId := do
  let id ← fs.resolve path
  if (fs.content? id).isSome then return id else throw .isDirectory

/-- The whole content of the file at a path. -/
def read (fs : FileSystem) (path : String) : Except SystemError Bytes := do
  match fs.content? (← fs.resolve path) with
  | some b => return b
  | none => throw .isDirectory

/-- Up to `count` bytes of an open file. -/
def readAt (fs : FileSystem) (id : FileId) (offset count : Nat) : Except SystemError Bytes :=
  match fs.content? id with
  | some b => .ok ((b.drop offset).take count)
  | none => .error .isDirectory

/-! ## Changes -/

/-- Changes the content of a regular file. -/
def update (fs : FileSystem) (id : FileId) (f : Bytes → Bytes) : FileSystem :=
  { fs with nodes := fs.nodes.modify id fun
      | .file b => .file (f b)
      | .directory => .directory }

def add (fs : FileSystem) (place : Place) (node : Node) : FileSystem :=
  { fs with nodes := fs.nodes.push node, names := (place, fs.nodes.size) :: fs.names }

private def drop (fs : FileSystem) (place : Place) : FileSystem :=
  { fs with names := fs.names.filter (·.1 ≠ place) }

private def replaceStart (old new place : Place) : Place :=
  if old.isPrefixOf place then new ++ place.drop old.length else place

/-- Moves what is at a place, with everything below it. -/
private def move (fs : FileSystem) (old new : Place) : FileSystem :=
  { fs with names := (fs.drop new).names.map fun (p, id) => (replaceStart old new p, id) }

/-- Cut, or filled up with zero bytes. -/
def withLength (b : Bytes) (n : Nat) : Bytes := b.take n ++ List.replicate (n - b.length) 0

/-- The regular file at a path, which is created if there is nothing. -/
def openOrCreate (fs : FileSystem) (path : String) :
    Except SystemError (FileSystem × FileId) := do
  let t ← fs.locate path
  if t.isNamed ∧ t.endsWithSlash then throw .isDirectory
  match ← fs.entry t with
  | some id => if (fs.content? id).isSome then return (fs, id) else throw .isDirectory
  | none => return (fs.add t.place (.file []), fs.nodes.size)

/-- Makes a directory at a path that leads to nothing. -/
private def addDirectory (fs : FileSystem) (path : String) : Except SystemError FileSystem := do
  let t ← fs.locate path
  if (← fs.entry t).isSome then throw .exists
  return fs.add t.place .directory

/-- Takes away the name of a regular file. -/
private def removeFile (fs : FileSystem) (path : String) : Except SystemError FileSystem := do
  let t ← fs.locate path
  let some id ← fs.entry t | throw .notFound
  if (fs.content? id).isNone then throw .isDirectory
  if t.endsWithSlash then throw .notDirectory
  return fs.drop t.place

/-- Whether there is anything in a directory. -/
private def isOccupied (fs : FileSystem) (place : Place) : Bool :=
  fs.names.any fun (p, _) => place.isPrefixOf p && p ≠ place

/-- Whether something may take a name: directories only replace empty directories, and files only
files. -/
private def checkReplaced (fs : FileSystem) (isDirectory : Bool) (t : Target) :
    Except SystemError Unit := do
  if !isDirectory && t.endsWithSlash then throw .notDirectory
  match ← fs.entry t with
  | none => return
  | some old =>
    match isDirectory, (fs.content? old).isNone with
    | true, false => throw .notDirectory
    | false, true => throw .isDirectory
    | true, true => if fs.isOccupied t.place then throw .notEmpty
    | false, false => return

/-- Gives what a path leads to another name; what had that name is gone. -/
private def renamePath (fs : FileSystem) (path newPath : String) :
    Except SystemError FileSystem := do
  let old ← fs.locate path
  let new ← fs.locate newPath
  if !old.isNamed || !new.isNamed then throw .busy
  let some id ← fs.entry old | throw .notFound
  let isDirectory := (fs.content? id).isNone
  if !isDirectory && old.endsWithSlash then throw .notDirectory
  if isDirectory && old.place.isPrefixOf new.place && old.place ≠ new.place then
    throw .invalidArgument
  if (← fs.entry new) = some id then
    if !isDirectory && new.endsWithSlash then throw .notDirectory
    return fs
  fs.checkReplaced isDirectory new
  return fs.move old.place new.place

/-- Puts a new regular file in the place of the one that a path leads to. -/
private def replaceFile (fs : FileSystem) (path : String) (data : Bytes) :
    Except SystemError FileSystem := do
  let t ← fs.locate path
  if !t.isNamed then throw .busy
  fs.checkReplaced false t
  return (fs.drop t.place).add t.place (.file data)

end FileSystem

/-- What other programs do to files. -/
inductive FileChange
  /-- Empties the file, or creates it, and writes. -/
  | write (path : String) (data : Bytes)
  | append (path : String) (data : Bytes)
  | setLength (path : String) (length : Nat)
  | remove (path : String)
  | rename (path newPath : String)
  | makeDirectory (path : String)
  /-- Puts a new file in the place of the one at the path. -/
  | replace (path : String) (data : Bytes)
deriving DecidableEq, Repr

namespace FileSystem

/-- Applies a change, if it succeeds. -/
def change (fs : FileSystem) : FileChange → Except SystemError FileSystem
  | .write path data => do
    let (fs, id) ← fs.openOrCreate path
    return fs.update id fun _ => data
  | .append path data => do
    let (fs, id) ← fs.openOrCreate path
    return fs.update id (· ++ data)
  | .setLength path n => do
    if maxFileLength < n then throw .invalidArgument
    return fs.update (← fs.resolveWritable path) (withLength · n)
  | .remove path => fs.removeFile path
  | .rename path newPath => fs.renamePath path newPath
  | .makeDirectory path => fs.addDirectory path
  | .replace path data => fs.replaceFile path data

/-- Applies a change, or leaves everything as it is. -/
def changed (fs : FileSystem) (c : FileChange) : FileSystem :=
  match fs.change c with
  | .ok fs => fs
  | .error _ => fs

/-- The files when so much time has passed, with changes at given times. -/
def after (fs : FileSystem) (changes : List (Nat × FileChange)) (elapsed : Nat) : FileSystem :=
  (changes.filter (·.1 ≤ elapsed)).foldl (fun fs c => fs.changed c.2) fs

end FileSystem

end LogCourier
