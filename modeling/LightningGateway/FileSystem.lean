import LightningGateway.Text.Search
import LightningGateway.Text.Utf8

/-!
# Files

The part of a file system that the gateway looks at: which paths lead to a file or a
directory, and what the files hold. A path is followed component by component, so a
file in the middle of a path is noticed.
-/

namespace LightningGateway

/-- Why a file cannot be used. -/
inductive FileFault where
  | missing
  | isDirectory
  | notDirectory
  | denied
  /-- The file does not hold text. -/
  | notText
  deriving Repr, BEq, DecidableEq

namespace FileFault

def message : FileFault → String
  | missing => "No such file or directory (os error 2)"
  | isDirectory => "Is a directory (os error 21)"
  | notDirectory => "Not a directory (os error 20)"
  | denied => "Permission denied (os error 13)"
  | notText => "stream did not contain valid UTF-8"

end FileFault

/-- What a path leads to. -/
inductive FileEntry where
  | directory
  | file (content : List UInt8)
  /-- A file that may be neither read nor written. -/
  | locked
  deriving Repr, BEq, DecidableEq

/-- Files and directories by the components of their paths. The directories above an entry are
there without being listed. -/
structure FileSystem where
  entries : List (List String × FileEntry)
  /-- The directory in which paths begin that do not begin with a slash. -/
  workingDirectory : List String
  deriving Repr

namespace FileSystem

/-- The components of a path. An empty one at the end stands for a slash at the end. -/
def components (path : String) : List String := (Text.parts path '/').drop 1

def isAbsolute (path : String) : Bool := Text.beginsWith path "/"

def lookup (files : FileSystem) (place : List String) : Option FileEntry :=
  match files.entries.lookup place with
  | some entry => some entry
  | none =>
      if place = [] ∨ files.entries.any (fun entry => place.isPrefixOf entry.1) then
        some .directory
      else none

/-- Follows components from a place that is known to be a directory. -/
def follow (files : FileSystem) : List String → List String → Except FileFault (List String)
  | place, [] => .ok place
  | place, component :: rest =>
      match files.lookup place with
      | none => .error .missing
      | some (.file _) | some .locked => .error .notDirectory
      | some .directory =>
          if component = "" ∨ component = "." then files.follow place rest
          else if component = ".." then files.follow place.dropLast rest
          else files.follow (place ++ [component]) rest

/-- The place to which a path leads; there may be nothing at that place. -/
def resolve (files : FileSystem) (path : String) : Except FileFault (List String) :=
  if path = "" then .error .missing
  else if isAbsolute path then files.follow [] (components path)
  else files.follow files.workingDirectory (Text.parts path '/')

def find (files : FileSystem) (path : String) : Except FileFault FileEntry :=
  match files.resolve path with
  | .error fault => .error fault
  | .ok place =>
      match files.lookup place with
      | some entry => .ok entry
      | none => .error .missing

def hasEntry (files : FileSystem) (path : String) : Bool :=
  match files.find path with
  | .ok _ => true
  | .error _ => false

def isFile (files : FileSystem) (path : String) : Bool :=
  match files.find path with
  | .ok (.file _) | .ok .locked => true
  | _ => false

def read (files : FileSystem) (path : String) : Except FileFault (List UInt8) :=
  match files.find path with
  | .error fault => .error fault
  | .ok .directory => .error .isDirectory
  | .ok .locked => .error .denied
  | .ok (.file content) => .ok content

def readText (files : FileSystem) (path : String) : Except FileFault String :=
  match files.read path with
  | .error fault => .error fault
  | .ok content =>
      match Text.utf8? content with
      | some text => .ok text
      | none => .error .notText

/-- The place of a file that is to be written. -/
def placeFor (files : FileSystem) (path : String) : Except FileFault (List String) :=
  match files.resolve path with
  | .error fault => .error fault
  | .ok place =>
      match files.lookup place with
      | some .directory => .error .isDirectory
      | some .locked => .error .denied
      | _ => .ok place

def write (files : FileSystem) (path : String) (content : List UInt8) :
    Except FileFault FileSystem :=
  (files.placeFor path).map fun place =>
    { files with
      entries := (place, .file content) :: files.entries.filter fun entry => entry.1 ≠ place }

/-- Replaces what a file holds: the file is emptied, or made, before it is written. Returns also the
files as they are afterwards, even if there is a fault. -/
def overwrite (files : FileSystem) (path : String) (content : List UInt8) :
    Except FileFault Unit × FileSystem :=
  match files.write path [] with
  | .error fault => (.error fault, files)
  | .ok emptied =>
      match emptied.write path content with
      | .error fault => (.error fault, emptied)
      | .ok written => (.ok (), written)

end FileSystem

end LightningGateway
