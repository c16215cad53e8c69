import PromptScript.Shell.Word

/-!
# Redirections

How the descriptors of a command are opened before it runs.
-/

namespace PromptScript.Shell.Redirect

/-- A redirection whose target is known. -/
structure Opening where
  descriptor : Nat
  kind : RedirectionKind
  target : Octets

/-- The wording of a target that cannot be opened. -/
def reason (creates : Bool) : FileError → String
  | .notFound | .notDirectory => if creates then "Directory nonexistent" else "No such file"
  | .permissionDenied => "Permission denied"
  | .isDirectory => "Is a directory"
  | .nameTooLong => "File name too long"
  | .alreadyExists => "File exists"
  | _ => "No such file"

/-- Complains about a target that cannot be created. -/
def cannotCreate {α : Type} (path : Octets) (cause : FileError) : Action α :=
  Action.fail (octets "cannot create " ++ path ++ octets (": " ++ reason true cause))

/-- The descriptor that a device path stands for. -/
def deviceDescriptor? (path : Octets) : Option Nat :=
  match display path with
  | "/dev/stdin" => some 0
  | "/dev/stdout" => some 1
  | "/dev/stderr" => some 2
  | _ =>
    let lead := "/dev/fd/".toList
    if lead.isPrefixOf path then Integer.count? (path.drop lead.length) else none

/-- The device that a path stands for. -/
def device? (path : Octets) : Option Handle :=
  match display path with
  | "/dev/null" => some .nothing
  | "/dev/zero" | "/dev/random" | "/dev/urandom" => some .zeros
  | "/dev/full" => some .full
  | _ => none

/-- The handle of a path that is opened anew where it is no file. -/
def special? (path : Octets) : Action (Option Handle) := do
  match device? path with
  | some handle => return some handle
  | none =>
    match deviceDescriptor? path with
    | some descriptor => return some (((← get).handles.lookup descriptor).getD .nothing)
    | none => return none

/-- Where a path of an output leads. -/
def openOutput (kind : RedirectionKind) (path : Octets) : Action Handle := do
  match ← special? path with
  | some handle => return handle
  | none =>
    let shell ← get
    let name := display path
    let isFile := shell.tree.isFile name
    if kind == .output && shell.isOn 'C' && isFile then cannotCreate path .alreadyExists
    let opened : Except FileError (FileTree × Location) := do
      let location ← shell.tree.target name
      let tree ← if kind == .append && isFile then pure shell.tree else shell.tree.write name []
      return (tree, location)
    match opened with
    | .ok (tree, location) =>
      set (shell.withTree tree)
      return .file location
    | .error cause => cannotCreate path cause

/-- Where a path of an input leads. -/
def openInput (creates : Bool) (path : Octets) : Action Handle := do
  match ← special? path with
  | some handle => return handle
  | none =>
    let shell ← get
    match shell.tree.read (display path) with
    | .ok bytes =>
      set (shell.openChannel { unread := ofBytes bytes, isSeekable := true })
      return .channel shell.world.channels.size
    | .error .isDirectory => return .nothing
    | .error cause =>
      if creates && cause == .notFound then openOutput .overwrite path
      else Action.fail (octets "cannot open " ++ path ++ octets (": " ++ reason false cause))

/-- Works out the targets of redirections. -/
def resolve (capture : Capture) : List Redirection → Action (List Opening)
  | [] => return []
  | .mk descriptor kind target :: rest => do
    let text ← expandText capture target
    if kind == .duplicate then
      let isDigit := match text with
        | [c] => c.isDigit
        | _ => false
      if !isDigit && text != ['-'] then Action.fail (octets "Syntax error: Bad fd number")
    return ⟨descriptor, kind, text⟩ :: (← resolve capture rest)

/-- Opens targets from left to right. -/
def apply (capture : Capture) : List Opening → Action Unit
  | [] => return
  | ⟨descriptor, kind, target⟩ :: rest => do
    match kind with
    | .duplicate =>
      if target == ['-'] then modify (·.close descriptor)
      else
        match (← get).handles.lookup (Integer.ofDigits 10 target) with
        | some handle => modify (·.connect descriptor handle)
        | none => Action.fail (target ++ octets ": Bad file descriptor")
    | .document number =>
      let parts := ((← get).documents[number]?).getD []
      let text := Piece.text (← expandParts capture ⟨false, false⟩ maxWordDepth false parts)
      let shell ← get
      set ((shell.openChannel { unread := text }).connect descriptor
        (.channel shell.world.channels.size))
    | .input =>
      let handle ← openInput false target
      modify (·.connect descriptor handle)
    | .update =>
      let handle ← openInput true target
      modify (·.connect descriptor handle)
    | _ =>
      let handle ← openOutput kind target
      modify (·.connect descriptor handle)
    apply capture rest

end PromptScript.Shell.Redirect
