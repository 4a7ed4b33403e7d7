import Toolwire.Cli.Run
/-!
# Files and folders

A tree of files is given by the names on the way to each of them. A path starts at the root
or in the folder that one works in, and where it leads is found out name by name.
-/
namespace Toolwire.Cli

/-- The names on the way from the root. -/
abbrev Names := List String

/-- A tree of files. -/
structure FileTree where
  files : List (Names × ByteArray) := []
  /-- Folders that are there even when no file is in them. -/
  folders : List Names := []
  /-- The folder that one works in. -/
  here : Names := []

/-- Whether a place lies below a folder. -/
def Names.below (folder place : Names) : Bool :=
  folder.length < place.length && place.take folder.length == folder

/-- One name further. -/
def Names.step (place : Names) (name : String) : Names :=
  if name = "" ∨ name = "." then place
  else if name = ".." then place.dropLast
  else place ++ [name]

namespace FileTree

/-- Why a path leads nowhere. -/
inductive Stray where
  /-- Nothing is there. -/
  | noEntry
  /-- It goes on behind a file. -/
  | notFolder
  deriving DecidableEq, Repr

/-- What the system says of a path that leads nowhere. -/
def Stray.reason : Stray → String
  | .noEntry => "No such file or directory (os error 2)"
  | .notFolder => "Not a directory (os error 20)"

/-- What the system says of a folder that cannot be made where a file is. -/
def fileExistsReason : String := "File exists (os error 17)"

/-- Whether a folder is at a place. -/
def isFolder (t : FileTree) (place : Names) : Bool :=
  place.isEmpty || t.here == place || Names.below place t.here
    || t.folders.any (fun f => f == place || Names.below place f)
    || t.files.any fun f => Names.below place f.1

/-- Follows names from a place; only what the last name leads to need not be there. -/
def walk (t : FileTree) (place : Names) : List String → Except Stray Names
  | [] => .ok place
  | name :: rest =>
    if t.isFolder place then walk t (place.step name) rest
    else if (t.files.lookup place).isSome then .error .notFolder
    else .error .noEntry

/-- Where a path starts and the names on it. -/
def start (t : FileTree) (path : String) : Names × List String :=
  let names := (path.toList.splitOn '/').map String.ofList
  (if path.startsWith "/" then [] else t.here, names)

/-- The place that a path names, whether anything is there or not. -/
def place (t : FileTree) (path : String) : Names :=
  match t.start path with
  | (root, names) => names.foldl Names.step root

/-- Where a path leads; the empty path leads nowhere. -/
def resolve (t : FileTree) (path : String) : Except Stray Names :=
  if path.isEmpty then .error .noEntry
  else
    match t.start path with
    | (root, names) => t.walk root names

/-- What stands at a path that is read. -/
def lookup (t : FileTree) (path : String) : Lookup :=
  match t.resolve path with
  | .error stray => .missing stray.reason
  | .ok found =>
    match t.files.lookup found with
    | some content => .file content
    | none =>
      if t.isFolder found then .unreadable isFolderReason else .missing Stray.noEntry.reason

/-- The entry of a folder that leads to a place, which may be a file. -/
def entry? (folder place : Names) (content : Option ByteArray) : Option (String × Entry) :=
  if folder.below place then
    match place.drop folder.length, content with
    | [name], some content => some (name, .file content CredentialStore.commonMode)
    | name :: _, _ => some (name, .folder)
    | [], _ => none
  else none

/-- The entries of a folder. -/
def entries (t : FileTree) (folder : Names) : Folder :=
  Members.ofList (t.files.filterMap (fun f => entry? folder f.1 (some f.2))
    ++ t.folders.filterMap fun f => entry? folder f none)

/-- What stands at a path where the credential store is looked for. -/
def storePlace (t : FileTree) (path : String) : StorePlace :=
  match t.resolve path with
  | .error .noEntry => .absent
  | .error .notFolder => .blocked false Stray.notFolder.reason
  | .ok found =>
    if (t.files.lookup found).isSome then .blocked true fileExistsReason
    else if t.isFolder found then .folder (t.entries found)
    else .absent

/-- Whether a place is right inside a folder. -/
def inside (folder place : Names) : Bool :=
  folder.below place && place.length == folder.length + 1

/-- The tree after a folder was left as given; folders inside it stay as they are. -/
def leave (t : FileTree) (path : String) (f : Folder) : FileTree :=
  let folder := t.place path
  let written := f.filterMap fun
    | (name, .file content _) => some (folder ++ [name], content)
    | (_, .folder) => none
  { t with
    files := t.files.filter (fun file => !inside folder file.1) ++ written
    folders := folder :: t.folders }

end FileTree
end Toolwire.Cli
