import PromptScript.Shell.Tool.Paths

/-!
# Changes of the file tree

Tools that create, copy, move and remove files and directories.
-/

namespace PromptScript.Shell.Tool

namespace Files

/-- A complaint about what could not be done with a path. -/
def complainAbout (what : String) (path : Octets) (cause : FileError) : Action Unit :=
  complain (octets (what ++ " ") ++ Quotation.forShell path ++ octets (": " ++ reasonOf cause))

/-- Does something with each operand; the status tells whether all went well. -/
def forEach (operands : List Octets) (step : Octets → Action Bool) : Action Nat := do
  let mut failed := false
  for operand in operands do
    if !(← step operand) then failed := true
  return if failed then 1 else 0

/-- A path without the slashes at its end. -/
def bare (path : Octets) : Octets :=
  let kept := (path.reverse.dropWhile (· == '/')).reverse
  if kept.isEmpty then path.take 1 else kept

/-- Tells what is done, where that is wanted. -/
def report (options : List Given) (text : Octets) : Action Unit := do
  if has options 'v' then Action.print (text ++ ['\n'])

/-- Puts an entry and all below it at another location. -/
def transplant (tree : FileTree) (source target : Location) (keepsSource : Bool) : FileTree :=
  let moved := tree.entries.filterMap fun (location, entry) =>
    if source.isPrefixOf location then
      let entry := match entry with
        | .file file => if keepsSource then .file { file with modified := tree.clock } else .file file
        | .directory => .directory
      some (target ++ location.drop source.length, entry)
    else none
  let kept := if keepsSource then tree else tree.erase source
  moved.foldl (fun tree (location, entry) => tree.put location entry) kept

end Files

open Files

/-- Creates directories. -/
def mkdir : Tool := fun _ words => do
  let (options, operands) ← optionsOf
    { letters := plainLetters "pvZ" ++ valuedLetters "m"
      names := [("parents", 'p'), ("verbose", 'v'), ("mode", 'm')] } words
  if operands.isEmpty then misuse 1 (octets "missing operand")
  let create (path : Octets) : Action Bool := do
    let tree := (← get).tree
    let made : Except FileError FileTree := do
      let location ← tree.target (display (bare path))
      if (tree.get? location).isSome then throw .alreadyExists
      return tree.put location .directory
    match made with
    | .ok tree =>
      modify (·.withTree tree)
      report options (octets "mkdir: created directory " ++ Quotation.forShell path)
      return true
    | .error cause =>
      complainAbout "cannot create directory" path cause
      return false
  forEach operands fun path => do
    if !has options 'p' then create path
    else
      let parts := Lines.pieces '/' path
      let leads := (List.range parts.length).map fun count =>
        ['/'].intercalate (parts.take (count + 1))
      let mut isWell := true
      for lead in leads do
        if isWell && !lead.isEmpty && lead.getLast? != some '/' then
          if !(← get).tree.isDirectory (display lead) then
            if (← get).tree.existsAt (display lead) then
              complainAbout "cannot create directory" lead
                (if lead.length = (bare path).length then .alreadyExists else .notDirectory)
              isWell := false
            else isWell ← create lead
      return isWell

/-- Removes empty directories. -/
def rmdir : Tool := fun _ words => do
  let (options, operands) ← optionsOf
    { letters := plainLetters "pvI"
      names := [("parents", 'p'), ("verbose", 'v'), ("ignore-fail-on-non-empty", 'I')] } words
  if operands.isEmpty then misuse 1 (octets "missing operand")
  let remove (path : Octets) : Action Bool := do
    report options (octets "rmdir: removing directory, " ++ Quotation.forShell path)
    let tree := (← get).tree
    let removed : Except FileError FileTree := do
      let location ← tree.resolve (display path)
      if !tree.isDirectoryAt location then throw .notDirectory
      if !(tree.namesAt location).isEmpty then throw .directoryNotEmpty
      return tree.erase location
    match removed with
    | .ok tree =>
      modify (·.withTree tree)
      return true
    | .error cause =>
      if has options 'I' && cause == .directoryNotEmpty then return true
      complainAbout "failed to remove" path cause
      return false
  forEach operands fun path => do
    if !has options 'p' then remove path
    else
      let parts := Lines.pieces '/' (bare path)
      let mut isWell := true
      for count in (List.range parts.length).reverse do
        let lead := ['/'].intercalate (parts.take (count + 1))
        if isWell && !lead.isEmpty then isWell ← remove lead
      return isWell

/-- Removes files, and directories with all they hold where that is wanted. -/
def rm : Tool := fun _ words => do
  let (options, operands) ← optionsOf
    { letters := plainLetters "rRfidvI"
      names := [("recursive", 'r'), ("force", 'f'), ("dir", 'd'), ("verbose", 'v')] } words
  let force := has options 'f'
  let deep := has options 'r' || has options 'R'
  if operands.isEmpty then
    if force then return 0
    misuse 1 (octets "missing operand")
  forEach operands fun path => do
    let tree := (← get).tree
    let name := baseName path
    if deep && (name == ['.'] || name == ['.', '.']) then
      complain (octets "refusing to remove '.' or '..' directory: skipping "
        ++ Quotation.forShell path)
      return false
    match tree.resolve (display path) with
    | .error cause =>
      if force && (cause == .notFound || cause == .notDirectory) then return true
      complainAbout "cannot remove" path cause
      return false
    | .ok location =>
      if location.isEmpty && deep then
        complain (octets "it is dangerous to operate recursively on '/'")
        complain (octets "use --no-preserve-root to override this failsafe")
        return false
      let isDirectory := tree.isDirectoryAt location
      if isDirectory && !deep then
        if !has options 'd' then
          complainAbout "cannot remove" path .isDirectory
          return false
        if !(tree.namesAt location).isEmpty then
          complainAbout "cannot remove" path .directoryNotEmpty
          return false
      for visit in walkFrom tree true (tree.entries.length + 2) path location 0 do
        report options (octets (if visit.entry == .directory then "removed directory "
          else "removed ") ++ Quotation.forShell visit.path)
      modify (·.withTree (tree.erase location))
      return true

/-- Gives files a new time of change, and creates those that are missing. -/
def touch : Tool := fun _ words => do
  let (options, operands) ← optionsOf
    { letters := plainLetters "acfmh" ++ valuedLetters "drt"
      names := [("no-create", 'c'), ("date", 'd'), ("reference", 'r')] } words
  if operands.isEmpty then misuse 1 (octets "missing file operand")
  forEach operands fun path => do
    let tree := (← get).tree
    let name := display path
    match tree.lookup name with
    | .ok .directory => return true
    | .ok (.file file) =>
      match tree.resolve name with
      | .ok location =>
        modify (·.withTree (tree.put location (.file { file with modified := tree.clock })))
      | .error _ => pure ()
      return true
    | .error _ =>
      if has options 'c' then return true
      match tree.write name [] with
      | .ok tree =>
        modify (·.withTree tree)
        return true
      | .error cause =>
        complainAbout "cannot touch" path cause
        return false

namespace Files

/-- Copies or moves one entry to the place that a path names. -/
def transfer (options : List Given) (moves : Bool) (source target : Octets) : Action Bool := do
  let tree := (← get).tree
  let deep := moves || has options 'r' || has options 'R' || has options 'a'
  match tree.resolve (display source) with
  | .error cause =>
    complainAbout "cannot stat" source cause
    return false
  | .ok origin =>
    let isDirectory := tree.isDirectoryAt origin
    if isDirectory && !deep then
      complain (octets "-r not specified; omitting directory " ++ Quotation.forShell source)
      return false
    match tree.target (display (if isDirectory then bare target else target)) with
    | .error cause =>
      if moves then
        complain (octets "cannot move " ++ Quotation.forShell source ++ octets " to "
          ++ Quotation.forShell target ++ octets (": " ++ reasonOf cause))
      else
        complainAbout (if isDirectory then "cannot create directory" else "cannot create regular file")
          target cause
      return false
    | .ok place =>
      let found := tree.get? place
      if origin == place then
        complain (Quotation.forShell source ++ octets " and " ++ Quotation.forShell target
          ++ octets " are the same file")
        return false
      if isDirectory && origin.isPrefixOf place then
        complain (octets (if moves then "cannot move " else "cannot copy a directory, ")
          ++ Quotation.forShell source
          ++ octets (if moves then " to a subdirectory of itself, " else ", into itself, ")
          ++ Quotation.forShell target)
        return false
      if has options 'n' && found.isSome then return true
      match isDirectory, found with
      | true, some (.file _) =>
        complain (octets "cannot overwrite non-directory " ++ Quotation.forShell target
          ++ octets " with directory " ++ Quotation.forShell source)
        return false
      | false, some .directory =>
        complain (octets "cannot overwrite directory " ++ Quotation.forShell target
          ++ octets (if moves then " with non-directory" else " with non-directory ")
          ++ if moves then [] else Quotation.forShell source)
        return false
      | _, _ =>
        if moves && isDirectory && found.isSome && !(tree.namesAt place).isEmpty then
          complain (octets "cannot move " ++ Quotation.forShell source ++ octets " to "
            ++ Quotation.forShell target ++ octets ": Directory not empty")
          return false
        let lead := if moves then octets "renamed " else []
        if moves then
          report options (lead ++ Quotation.forShell source ++ octets " -> "
            ++ Quotation.forShell target)
        else
          for visit in walkFrom tree false (tree.entries.length + 2) source origin 0 do
            report options (Quotation.forShell visit.path ++ octets " -> "
              ++ Quotation.forShell (target ++ visit.path.drop source.length))
        let kept := match tree.get? origin, found with
          | some (.file file), some (.file old) =>
            if moves then transplant tree origin place false
            else tree.put place (.file { file with executable := old.executable, modified := tree.clock })
          | _, _ => transplant tree origin place (!moves)
        modify (·.withTree kept)
        return true

/-- Copies or moves the operands: several ones into a directory. -/
def transferAll (moves : Bool) (words : List Octets) : Action Nat := do
  let (options, operands) ← optionsOf
    { letters := plainLetters "abdfiHlLnpPrRsTuvxZ" ++ valuedLetters "tS"
      names := [("recursive", 'r'), ("archive", 'a'), ("force", 'f'), ("no-clobber", 'n'),
        ("verbose", 'v'), ("target-directory", 't'), ("no-target-directory", 'T'),
        ("preserve", 'p')]
      optional := ['p'] } words
  let (sources, target) ← match value? options 't' with
    | some target => pure (operands, target)
    | none =>
      match operands with
      | [] => misuse 1 (octets "missing file operand")
      | [only] => misuse 1 (octets "missing destination file operand after " ++ quoted only)
      | _ => pure (operands.dropLast, (operands.getLast?).getD [])
  let tree := (← get).tree
  let isInto := !has options 'T' && tree.isDirectory (display target)
  if 1 < sources.length && !isInto then
    let cause := if tree.existsAt (display target) then FileError.notDirectory else .notFound
    stop 1 (octets "target " ++ Quotation.forShell target ++ octets (": " ++ reasonOf cause))
  forEach sources fun source =>
    transfer options moves source
      (if isInto then pathWith target (baseName source) else target)

end Files

/-- Copies files and directories. -/
def cp : Tool := fun _ words => transferAll false words

/-- Moves files and directories. -/
def mv : Tool := fun _ words => transferAll true words

namespace Files

/-- Whether a mode lets files be run: as it was before where the mode does not say. -/
def runsAfter (mode : Octets) (before : Bool) : Option Bool :=
  if !mode.isEmpty && mode.all (Integer.isDigitIn 8) then
    let rights := Integer.ofDigits 8 mode
    if rights < 4096 * 8 then some (rights / 64 % 2 + rights / 8 % 2 + rights % 2 ≠ 0) else none
  else
    (Lines.pieces ',' mode).foldlM (fun runs clause =>
      let who := clause.takeWhile fun c => c ∈ ['u', 'g', 'o', 'a']
      let isAll := who.isEmpty || who.contains 'a' || ['u', 'g', 'o'].all who.contains
      match clause.drop who.length with
      | operator :: rights =>
        if operator ∉ ['+', '-', '='] || !rights.all (· ∈ ['r', 'w', 'x', 'X', 's', 't']) then none
        else
          let names := rights.contains 'x' || (rights.contains 'X' && runs)
          some (match operator with
            | '+' => runs || names
            | '-' => runs && !(names && isAll)
            | _ => names || (runs && !isAll))
      | [] => none) before

end Files

/-- Changes whether files may be run. -/
def chmod : Tool := fun _ words => do
  let isMode (word : Octets) : Bool :=
    word.head? == some '-' && 1 < word.length && (word.drop 1).all (· ∈ ['r', 'w', 'x', 'X', 's', 't'])
  let (modes, others) := (words.takeWhile isMode, words.dropWhile isMode)
  let (options, operands) ← optionsOf
    { letters := plainLetters "cfvR"
      names := [("recursive", 'R'), ("verbose", 'v'), ("changes", 'c'), ("silent", 'f'),
        ("quiet", 'f')] } others
  let operands := modes ++ operands
  match operands with
  | [] => misuse 1 (octets "missing operand")
  | [mode] => misuse 1 (octets "missing operand after " ++ quoted mode)
  | mode :: paths =>
    if (runsAfter mode false).isNone then misuse 1 (octets "invalid mode: " ++ quoted mode)
    forEach paths fun path => do
      let tree := (← get).tree
      match walk tree false path with
      | .error cause =>
        if !has options 'f' then complainAbout "cannot access" path cause
        return false
      | .ok visits =>
        for visit in if has options 'R' then visits else visits.take 1 do
          if let .file file := visit.entry then
            let executable := (runsAfter mode file.executable).getD file.executable
            modify fun shell =>
              shell.withTree { shell.tree with
                entries := shell.tree.entries.map fun (location, entry) =>
                  if location == visit.location then (location, .file { file with executable })
                  else (location, entry) }
        return true

/-- Creates a file or directory with a name that is not taken. -/
def mktemp : Tool := fun _ words => do
  let (options, operands) ← optionsOf
    { letters := plainLetters "dqtu" ++ valuedLetters "p"
      names := [("directory", 'd'), ("dry-run", 'u'), ("quiet", 'q'), ("tmpdir", 'p')] } words
  if 1 < operands.length then misuse 1 (octets "too many templates")
  let template := operands.headD (octets "tmp.XXXXXXXXXX")
  let marks := (template.reverse.takeWhile (· == 'X')).length
  if marks < 3 then stop 1 (octets "too few X's in template " ++ quoted template)
  let shell ← get
  let base? := if operands.isEmpty || has options 't' || has options 'p' then
      some ((value? options 'p').getD ((shell.get? "TMPDIR".toList).getD (octets "/tmp")))
    else none
  let lead := template.take (template.length - marks)
  let pathOf (number : Nat) : Octets :=
    let digits := decimal number
    let name := lead ++ List.replicate (marks - digits.length) 'a' ++ digits
    match base? with
    | some base => pathWith base name
    | none => name
  let path := ((List.range 1000).map pathOf).find? fun path => !shell.tree.existsAt (display path)
  let path := path.getD template
  let made : Except FileError FileTree := do
    let location ← shell.tree.target (display path)
    if has options 'u' then return shell.tree
    if has options 'd' then return shell.tree.put location .directory
    shell.tree.create (display path) []
  match made with
  | .ok tree =>
    modify (·.withTree tree)
    Action.print (path ++ ['\n'])
    return 0
  | .error cause =>
    complain (octets (if has options 'd' then "failed to create directory via template "
      else "failed to create file via template ") ++ quoted
        (match base? with
          | some base => pathWith base template
          | none => template) ++ octets (": " ++ reasonOf cause))
    return 1

/-- Changes the sizes of files. -/
def truncate : Tool := fun _ words => do
  let (options, operands) ← optionsOf
    { letters := plainLetters "co" ++ valuedLetters "sr"
      names := [("size", 's'), ("no-create", 'c'), ("reference", 'r')] } words
  match value? options 's' with
  | none => misuse 1 (octets "you must specify either '--size' or '--reference'")
  | some text =>
    if operands.isEmpty then misuse 1 (octets "missing file operand")
    let (sign, digits) := match text with
      | '+' :: rest => (some '+', rest)
      | '-' :: rest => (some '-', rest)
      | _ => (none, text)
    match sizeOf? digits with
    | none => stop 1 (octets "Invalid number: " ++ quoted text)
    | some size =>
      forEach operands fun path => do
        let tree := (← get).tree
        let before := match tree.read (display path) with
          | .ok bytes => bytes
          | .error _ => []
        if has options 'c' && !tree.existsAt (display path) then return true
        let length := match sign with
          | some '+' => before.length + size
          | some _ => before.length - size
          | none => size
        let content := before.take length ++ List.replicate (length - before.length) 0
        match tree.write (display path) content with
        | .ok tree =>
          modify (·.withTree tree)
          return true
        | .error cause =>
          complain (octets "cannot open " ++ Quotation.forShell path
            ++ octets (" for writing: " ++ reasonOf cause))
          return false

end PromptScript.Shell.Tool
