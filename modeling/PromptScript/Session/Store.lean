import PromptScript.Session.Record
import PromptScript.Files.Tree

/-!
# The session store

A directory with one file for each session.  A save takes the session's lock file, refuses a
record that was not loaded at the stored revision, writes the new text under another name and
renames it.  A lock that is older than thirty seconds belongs to nobody and is taken over.
-/

namespace PromptScript

/-- A directory of sessions. -/
structure SessionStore where
  directory : String
  deriving DecidableEq, Repr

namespace SessionStore

/-- Whether a character may stand in the identifier of a stored session. -/
def isIdChar (c : Char) : Bool :=
  c.isAlphanum || c == '-' || c == '_'

/-- Whether a session of the given identifier can be stored. -/
def isValidId (id : String) : Bool :=
  !id.isEmpty && id.toList.all isIdChar

/-- The file of a session. -/
def pathFor (store : SessionStore) (id : String) : Except RunError String :=
  if isValidId id then .ok (Path.join store.directory (id ++ ".json"))
  else .error (.invalidArgument ("invalid session id '" ++ id ++ "'"))

/-- The lock file of a session. -/
def lockPath (store : SessionStore) (id : String) : String :=
  Path.join store.directory (id ++ ".lock")

/-- A mark that no other file bears, of the length that such marks have. -/
def draftMark : String := "00000000000040008000000000000000"

/-- The file under which a new text is written first. -/
def draftPath (store : SessionStore) (id : String) : String :=
  Path.join store.directory ("." ++ id ++ "." ++ draftMark ++ ".tmp")

/-- The age in nanoseconds beyond which a lock belongs to nobody. -/
def staleLockAge : Int := 30 * 1000000000

/-- A file error that stands alone. -/
def ofFile {α : Type} (outcome : Except FileError α) : Except RunError α :=
  outcome.mapError (.file "")

/-- Reads the record of a session. -/
def load (store : SessionStore) (tree : FileTree) (id : String) :
    Except RunError SessionRecord := do
  let path ← store.pathFor id
  match tree.readText path with
  | .ok text => SessionRecord.parse text
  | .error .notFound => throw (.sessionNotFound id)
  | .error cause => throw (.file "" cause)

/-- The revision that is stored for a session; zero where there is none. -/
def storedRevision (tree : FileTree) (path : String) : Except RunError UInt64 :=
  match tree.readText path with
  | .ok text =>
    match Json.parse text with
    | .ok value => .ok (.ofNat (((value.member? "revision").bind Json.asNat?).getD 0))
    | .error _ => .error .unreadableSession
  | .error .notFound => .ok 0
  | .error cause => .error (.file "" cause)

/-- Whether a lock file belongs to nobody. -/
def isStale (tree : FileTree) (path : String) : Bool :=
  match tree.lookup path with
  | .ok (.file file) => staleLockAge < tree.clock - file.modified
  | _ => false

/-- The error that another save is going on. -/
def lockedError (store : SessionStore) (id : String) : RunError :=
  .sessionConflict ("session '" ++ id ++ "' is being saved by another process (lock file "
    ++ store.lockPath id ++ ")")

/-- Takes the lock of a session, which nobody else may hold. -/
def takeLock (store : SessionStore) (tree : FileTree) (id : String) :
    Except RunError FileTree :=
  let path := store.lockPath id
  match tree.create path [] with
  | .ok locked => .ok locked
  | .error .alreadyExists =>
    if isStale tree path then do
      let cleared ← ofFile (tree.removeFile path)
      match cleared.create path [] with
      | .ok locked => return locked
      | .error .alreadyExists => throw (store.lockedError id)
      | .error cause => throw (.file "" cause)
    else .error (store.lockedError id)
  | .error cause => .error (.file "" cause)

/-- The record as it is written by the next save. -/
def advance (record : SessionRecord) (now : Timestamp) : SessionRecord :=
  { record with revision := record.revision + 1, updatedAt := now }

/-- The error that a record was loaded at another revision than the stored one. -/
def revisionConflict (id : String) (stored loaded : UInt64) : RunError :=
  .sessionConflict ("session '" ++ id ++ "' is at revision " ++ toString stored.toNat
    ++ " on disk but this copy was loaded at revision " ++ toString loaded.toNat)

/-- Writes the next revision of a record, while the lock is held. -/
def writeLocked (store : SessionStore) (tree : FileTree) (path : String)
    (record : SessionRecord) : Except RunError (FileTree × SessionRecord) := do
  let id := record.state.sessionId
  let stored ← storedRevision tree path
  if stored ≠ record.revision then throw (revisionConflict id stored record.revision)
  let next := advance record (.ofNanoseconds tree.clock)
  let drafted ← ofFile (tree.write (store.draftPath id) (Text.toBytes next.render))
  let renamed ← ofFile (drafted.rename (store.draftPath id) path)
  return (renamed, next)

/-- Removes a file, where it stands there. -/
def discard (tree : FileTree) (path : String) : FileTree :=
  match tree.removeFile path with
  | .ok removed => removed
  | .error _ => tree

/-- Saves a record: the tree afterwards, and the record as it was written or the error.  The lock
is given back in either case. -/
def save (store : SessionStore) (tree : FileTree) (record : SessionRecord) :
    FileTree × Except RunError SessionRecord :=
  let id := record.state.sessionId
  match store.pathFor id with
  | .error error => (tree, .error error)
  | .ok path =>
    match tree.createDirectories store.directory with
    | .error cause => (tree, .error (.file "" cause))
    | .ok prepared =>
      match store.takeLock prepared id with
      | .error error => (prepared, .error error)
      | .ok locked =>
        match store.writeLocked locked path record with
        | .ok (written, next) => (discard written (store.lockPath id), .ok next)
        | .error error =>
          (discard (discard locked (store.draftPath id)) (store.lockPath id), .error error)

/-- The summaries of the sessions that can be read, the last changed first. -/
def list (store : SessionStore) (tree : FileTree) : Except RunError (List SessionSummary) :=
  match tree.list store.directory with
  | .error .notFound => .ok []
  | .error cause => .error (.file "" cause)
  | .ok names =>
    let summaries := names.filterMap fun name =>
      if Path.extension? name = some "json" then
        match tree.readText (Path.join store.directory name) with
        | .ok text => (SessionRecord.parse text).toOption.map SessionRecord.summary
        | .error _ => none
      else none
    .ok (summaries.mergeSort fun a b => !a.updatedAt.before b.updatedAt)

end SessionStore

end PromptScript
