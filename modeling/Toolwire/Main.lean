import Toolwire.Cli.Program
/-!
# The outside of the program

What a command sees is read from the system before it runs, and what it leaves is written
back behind it. Requests never leave the program: it has no network, so every request ends
as if its server could not be reached.
-/
namespace Toolwire.Cli

/-- What the system says of an error. -/
def reasonOf : IO.Error → String
  | .noFileOrDirectory .. => FileTree.Stray.noEntry.reason
  | .inappropriateType _ code _ => if code = 21 then isFolderReason else
      FileTree.Stray.notFolder.reason
  | .alreadyExists .. => FileTree.fileExistsReason
  | .permissionDenied .. => "Permission denied (os error 13)"
  | e => toString e

/-- What stands at a path that is read. -/
def lookupFile (path : String) : IO Lookup := do
  try return .file (← IO.FS.readBinFile path)
  catch e =>
    match e with
    | .noFileOrDirectory .. => return .missing (reasonOf e)
    | .inappropriateType _ 21 _ => return .unreadable (reasonOf e)
    | .inappropriateType .. => return .missing (reasonOf e)
    | _ => return .unreadable (reasonOf e)

/-- The entries of a folder. -/
def readFolder (path : String) : IO Folder := do
  let found ← (← IO.FS.realPath path).readDir
  let entries ← found.toList.mapM fun e => do
    match ← lookupFile (Settings.joinPath path e.fileName) with
    | .file content => return (e.fileName, Entry.file content CredentialStore.commonMode)
    | _ => return (e.fileName, Entry.folder)
  return Members.ofList entries

/-- What stands at the path of the credential store. -/
def lookupStore (path : String) : IO StorePlace := do
  match ← lookupFile path with
  | .file _ => return .blocked true FileTree.fileExistsReason
  | _ =>
    try return .folder (← readFolder path)
    catch e =>
      match e with
      | .noFileOrDirectory .. => return .absent
      | _ => return .blocked false (reasonOf e)

/-- Writes a file and keeps it to its owner if it is to be private. -/
def writeEntry (path : String) (content : ByteArray) (mode : Nat) : IO Unit := do
  IO.FS.writeBinFile path content
  if mode = CredentialStore.privateMode then
    IO.setAccessRights path { user := { read := true, write := true } }

/-- Writes what changed in a folder. -/
def writeFolder (path : String) (before after : Folder) : IO Unit := do
  IO.FS.createDirAll path
  for (name, entry) in after do
    match entry, Members.get? before name with
    | .folder, _ => pure ()
    | .file content mode, some (.file old _) =>
      if content != old then writeEntry (Settings.joinPath path name) content mode
    | .file content mode, _ => writeEntry (Settings.joinPath path name) content mode
  for (name, entry) in before do
    match entry, Members.get? after name with
    | .file .., none => IO.FS.removeFile (Settings.joinPath path name)
    | _, _ => pure ()

/-- The variables of the environment among names. -/
def readVariables (names : List String) : IO (List (String × String)) := do
  let found ← names.mapM fun name => do return (← IO.getEnv name).map fun value => (name, value)
  return Members.ofList (found.filterMap id)

/-- What a request sees. -/
def readView (environment : List (String × String)) (r : Request) : IO View := do
  let path := settingsPath environment r
  let settings ← lookupFile path
  let manifest ← lookupFile (r.command.manifest?.getD "")
  let store ← lookupStore (storePathAt environment settings)
  let more ← readVariables (referredVariables manifest)
  let nonce ← IO.getRandomBytes CredentialStore.nonceSize.toUSize
  let salt ← IO.getRandomBytes CredentialStore.saltSize.toUSize
  return {
    environment := Members.ofList (more ++ environment)
    settingsPath := path
    settings := settings
    manifest := manifest
    store := store
    client := .offline
    nonce := nonce
    salt := salt }

/-- Leaves the folder of the store as an answer says; a failure to do so is the answer. -/
def leaveStore (v : View) (a : Answer) : IO Answer := do
  match a.store with
  | none => return a
  | some after =>
    let before := match v.store with
      | .folder entries => entries
      | _ => []
    try
      writeFolder (storePathAt v.environment v.settings) before after
      return a
    catch e => return .fail [] (storeChain (.system (reasonOf e)))

/-- Prints an ending. -/
def Ending.print (e : Ending) : IO UInt32 := do
  IO.print e.output
  IO.eprint e.error
  return e.exitCode.toUInt32

/-- Runs the words of a command line. -/
def runWords (words : List String) : IO UInt32 := do
  let environment ← readVariables ownVariables
  match Request.parse environment words with
  | .error e => (Ending.ofUsage e).print
  | .ok r =>
    let v ← readView environment r
    let a ← leaveStore v (run v r.command)
    if r.verbose then
      for e in a.log do
        IO.eprintln (logLine e)
    (Ending.ofAnswer a).print

end Toolwire.Cli

/-- Runs the program. -/
def main (args : List String) : IO UInt32 := Toolwire.Cli.runWords args
