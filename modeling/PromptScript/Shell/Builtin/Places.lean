import PromptScript.Shell.Builtin.Arguments

/-!
# Directories and rights

The commands that change the working directory and the rights of new files.
-/

namespace PromptScript.Shell.Builtin

/-- The path of a location. -/
def pathOf (location : Location) : Octets :=
  octets ("/" ++ "/".intercalate location)

/-- Makes a location the working directory. -/
def enter (location : Location) (showsPath : Bool) : Action Unit := do
  let shell ← get
  let old := pathOf shell.tree.workingDirectory
  set (shell.withTree { shell.tree with workingDirectory := location })
  Action.assign "OLDPWD".toList old
  Action.assign "PWD".toList (pathOf location)
  if showsPath then Action.print (pathOf location ++ ['\n'])

/-- The location of a directory that a path names. -/
def directory? (tree : FileTree) (path : Octets) : Option Location :=
  match tree.resolve (display (if path.isEmpty then ['.'] else path)) with
  | .ok location => if tree.isDirectoryAt location then some location else none
  | .error _ => none

/-- Changes the working directory. -/
def changeDirectory (words : List Octets) : Action Nat := do
  let (_, operands) ← optionsOf [('L', false), ('P', false)] words
  let shell ← get
  let target := match operands with
    | [] => (shell.get? "HOME".toList).getD []
    | ['-'] :: _ => (shell.get? "OLDPWD".toList).getD []
    | path :: _ => path
  let isBack := operands.head? == some ['-']
  let isLocal := target.head? == some '/' || target.head? == some '.'
  let searched : List Octets :=
    if isLocal then []
    else
      match shell.get? "CDPATH".toList with
      | some places => (String.ofList places).splitOn ":" |>.map String.toList
      | none => []
  let found? := searched.findSome? fun place =>
    let path := if place.isEmpty then target else place ++ '/' :: target
    (directory? shell.tree path).map fun location => (location, !place.isEmpty)
  match found? with
  | some (location, showsPath) =>
    enter location (showsPath || isBack)
    return 0
  | none =>
    match directory? shell.tree target with
    | some location =>
      enter location isBack
      return 0
    | none => Action.fail (octets "can't cd to " ++ target)

/-- Prints the working directory. -/
def printDirectory (words : List Octets) : Action Nat := do
  let _ ← optionsOf [('L', false), ('P', false)] words
  Action.print (pathOf (← get).tree.workingDirectory ++ ['\n'])
  return 0

/-- The rights of one kind of users that a mask leaves, as letters. -/
def leftRights (mask : Nat) : Octets :=
  (if mask / 4 % 2 = 0 then ['r'] else []) ++ (if mask / 2 % 2 = 0 then ['w'] else [])
    ++ (if mask % 2 = 0 then ['x'] else [])

/-- The rights that some letters stand for. -/
def rightsOf (letters : Octets) : Nat :=
  (if letters.contains 'r' then 4 else 0) + (if letters.contains 'w' then 2 else 0)
    + if letters.contains 'x' then 1 else 0

/-- The mask behind a change that is written with letters. -/
def changeMask (mask : Nat) (change : Octets) : Option Nat :=
  let users := change.takeWhile fun c => c ∈ ['u', 'g', 'o', 'a']
  match change.drop users.length with
  | sign :: letters =>
    if !(letters.all fun c => c ∈ ['r', 'w', 'x', 'X', 's', 't']) then none
    else
      let rights := rightsOf letters
      let apply (old : Nat) : Option Nat :=
        let left := 7 - old
        match sign with
        | '=' => some (7 - rights)
        | '+' => some (7 - (left ||| rights))
        | '-' => some (7 - (left - (left &&& rights)))
        | _ => none
      let isFor (user : Char) : Bool := users.isEmpty || users.contains user || users.contains 'a'
      let part (user : Char) (old : Nat) : Option Nat := if isFor user then apply old else some old
      match part 'u' (mask / 64 % 8), part 'g' (mask / 8 % 8), part 'o' (mask % 8) with
      | some u, some g, some o => some (u * 64 + g * 8 + o)
      | _, _, _ => none
  | [] => none

/-- Shows or sets the rights that new files do not get. -/
def setMask (words : List Octets) : Action Nat := do
  let (options, operands) ← optionsOf [('S', false)] words
  let mask := (← get).mask
  match operands with
  | [] =>
    if has options 'S' then
      Action.print (octets "u=" ++ leftRights (mask / 64 % 8) ++ octets ",g="
        ++ leftRights (mask / 8 % 8) ++ octets ",o=" ++ leftRights (mask % 8) ++ ['\n'])
    else
      let digits := Nat.toDigits 8 mask
      Action.print (List.replicate (4 - digits.length) '0' ++ digits ++ ['\n'])
    return 0
  | word :: _ =>
    if word.head?.any Char.isDigit then
      if word.all fun c => '0' ≤ c && c ≤ '7' then
        modify fun shell => { shell with mask := Integer.ofDigits 8 word % 512 }
        return 0
      else Action.fail (octets "Illegal number: " ++ word)
    else
      let changes := (String.ofList word).splitOn "," |>.map String.toList
      match changes.foldlM changeMask mask with
      | some mask =>
        modify fun shell => { shell with mask }
        return 0
      | none => Action.fail (octets "Illegal mode: " ++ word)

end PromptScript.Shell.Builtin
