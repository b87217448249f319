/-! # Notices about files

What the system reports about a watched file, and the two cases that matter to whoever follows it:
there may be something new, or the file has left its name.
-/

namespace LogCourier

inductive AccessMode
  | any
  | execute
  | read
  | write
  | other
deriving DecidableEq, Repr

inductive AccessNotice
  | any
  | read
  | opened (mode : AccessMode)
  | closed (mode : AccessMode)
  | other
deriving DecidableEq, Repr

/-- What was made or removed. -/
inductive EntryKind
  | any
  | file
  | folder
  | other
deriving DecidableEq, Repr

inductive DataNotice
  | any
  | size
  | content
  | other
deriving DecidableEq, Repr

inductive MetadataNotice
  | any
  | accessTime
  | writeTime
  | permissions
  | ownership
  | extended
  | other
deriving DecidableEq, Repr

inductive RenameNotice
  | any
  | newName
  | oldName
  | both
  | other
deriving DecidableEq, Repr

inductive ModifyNotice
  | any
  | data (what : DataNotice)
  | metadata (what : MetadataNotice)
  | name (what : RenameNotice)
  | other
deriving DecidableEq, Repr

inductive FileNotice
  | any
  | access (what : AccessNotice)
  | create (what : EntryKind)
  | modify (what : ModifyNotice)
  | remove (what : EntryKind)
  | other
deriving DecidableEq, Repr

/-- What a notice means for a file that is followed. -/
inductive FileEvent
  /-- The size has to be checked. -/
  | changed
  /-- The file has to be opened anew. -/
  | renamed
deriving DecidableEq, Repr

/-- What a notice means; that the file was looked at means nothing. -/
def FileNotice.event? : FileNotice → Option FileEvent
  | .access _ => none
  | .modify (.name _) | .remove _ => some .renamed
  | .any | .create _ | .modify _ | .other => some .changed

/-! ## Names -/

namespace AccessMode

def all : List AccessMode := [.any, .execute, .read, .write, .other]

def name : AccessMode → String
  | .any => "Any"
  | .execute => "Execute"
  | .read => "Read"
  | .write => "Write"
  | .other => "Other"

end AccessMode

namespace AccessNotice

def all : List AccessNotice :=
  [.any, .read] ++ AccessMode.all.map .opened ++ AccessMode.all.map .closed ++ [.other]

def name : AccessNotice → String
  | .any => "Any"
  | .read => "Read"
  | .opened mode => "Open(" ++ mode.name ++ ")"
  | .closed mode => "Close(" ++ mode.name ++ ")"
  | .other => "Other"

end AccessNotice

namespace EntryKind

def all : List EntryKind := [.any, .file, .folder, .other]

def name : EntryKind → String
  | .any => "Any"
  | .file => "File"
  | .folder => "Folder"
  | .other => "Other"

end EntryKind

namespace DataNotice

def all : List DataNotice := [.any, .size, .content, .other]

def name : DataNotice → String
  | .any => "Any"
  | .size => "Size"
  | .content => "Content"
  | .other => "Other"

end DataNotice

namespace MetadataNotice

def all : List MetadataNotice :=
  [.any, .accessTime, .writeTime, .permissions, .ownership, .extended, .other]

def name : MetadataNotice → String
  | .any => "Any"
  | .accessTime => "AccessTime"
  | .writeTime => "WriteTime"
  | .permissions => "Permissions"
  | .ownership => "Ownership"
  | .extended => "Extended"
  | .other => "Other"

end MetadataNotice

namespace RenameNotice

def all : List RenameNotice := [.any, .newName, .oldName, .both, .other]

def name : RenameNotice → String
  | .any => "Any"
  | .newName => "To"
  | .oldName => "From"
  | .both => "Both"
  | .other => "Other"

end RenameNotice

namespace ModifyNotice

def all : List ModifyNotice :=
  [.any] ++ DataNotice.all.map .data ++ MetadataNotice.all.map .metadata ++
    RenameNotice.all.map .name ++ [.other]

def title : ModifyNotice → String
  | .any => "Any"
  | .data what => "Data(" ++ what.name ++ ")"
  | .metadata what => "Metadata(" ++ what.name ++ ")"
  | .name what => "Name(" ++ what.name ++ ")"
  | .other => "Other"

end ModifyNotice

namespace FileNotice

def all : List FileNotice :=
  [.any] ++ AccessNotice.all.map .access ++ EntryKind.all.map .create ++
    ModifyNotice.all.map .modify ++ EntryKind.all.map .remove ++ [.other]

def name : FileNotice → String
  | .any => "Any"
  | .access what => "Access(" ++ what.name ++ ")"
  | .create what => "Create(" ++ what.name ++ ")"
  | .modify what => "Modify(" ++ what.title ++ ")"
  | .remove what => "Remove(" ++ what.name ++ ")"
  | .other => "Other"

def ofName? (s : String) : Option FileNotice := all.find? (·.name == s)

end FileNotice

end LogCourier
