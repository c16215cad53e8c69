import PromptScript.Shell.Tool.Paths

/-!
# Listings of directories

Tools that print the names of entries and what is known about them.
-/

namespace PromptScript.Shell.Tool

namespace Listing

/-- How names are listed. -/
structure View where
  hidden : Bool
  selfToo : Bool
  marks : Bool
  slashes : Bool
  isReversed : Bool
  bySize : Bool
  byTime : Bool
  isUnsorted : Bool
  withCommas : Bool
  numbers : Bool

/-- What is known of an entry for its place in a listing. -/
structure Listed where
  name : Octets
  entry : Entry

/-- The size of an entry. -/
def Listed.size (listed : Listed) : Nat :=
  match listed.entry with
  | .file file => file.content.length
  | .directory => 4096

/-- The time of the last change of an entry. -/
def Listed.time (listed : Listed) : Int :=
  match listed.entry with
  | .file file => file.modified
  | .directory => 0

/-- A name as it is listed. -/
def shown (view : View) (listed : Listed) : Octets :=
  match listed.entry with
  | .directory => if view.marks || view.slashes then listed.name ++ ['/'] else listed.name
  | .file file => if view.marks && file.executable then listed.name ++ ['*'] else listed.name

/-- Entries in the order of a listing. -/
def arranged (view : View) (entries : List Listed) : List Listed :=
  if view.isUnsorted then entries
  else
    let before (a b : Listed) : Bool :=
      if view.bySize && a.size ≠ b.size then b.size < a.size
      else if view.byTime && a.time ≠ b.time then b.time < a.time
      else !(String.ofList b.name < String.ofList a.name)
    let sorted := entries.mergeSort before
    if view.isReversed then sorted.reverse else sorted

/-- The lines of some entries. -/
def body (view : View) (entries : List Listed) : Octets :=
  let names := (arranged view entries).map (shown view)
  if view.withCommas then
    if names.isEmpty then [] else (octets ", ").intercalate names ++ ['\n']
  else Lines.toText names

/-- The entries of a directory that are listed. -/
def entriesOf (tree : FileTree) (view : View) (location : Location) : List Listed :=
  let own := (tree.namesAt location).filterMap fun name =>
    (tree.get? (location ++ [name])).map fun entry => (⟨octets name, entry⟩ : Listed)
  let own := if view.hidden then own else own.filter fun listed => listed.name.head? != some '.'
  if view.selfToo then
    ⟨['.'], .directory⟩ :: ⟨['.', '.'], .directory⟩ :: own
  else own

/-- The listing of a directory and, where `deep` holds, of those below it. -/
def directory (tree : FileTree) (view : View) (titled deep : Bool) :
    Nat → Octets → Location → List Octets
  | 0, _, _ => []
  | fuel + 1, path, location =>
    let entries := entriesOf tree view location
    let title := if titled then path ++ [':', '\n'] else []
    let below := if !deep then []
      else (arranged view entries).flatMap fun listed =>
        if listed.entry == .directory && listed.name != ['.'] && listed.name != ['.', '.'] then
          directory tree view titled deep fuel (pathWith path listed.name)
            (location ++ [display listed.name])
        else []
    (title ++ body view entries) :: below

end Listing

open Listing

/-- Lists directories. -/
def ls : Tool := fun _ words => do
  let (options, operands) ← optionsOf
    { letters := plainLetters "aA1dRrStUFpCxmlhgoinqbcfHLNQsukXvGZK" ++ valuedLetters "wTI"
      names := [("all", 'a'), ("almost-all", 'A'), ("directory", 'd'), ("recursive", 'R'),
        ("reverse", 'r'), ("classify", 'F'), ("color", 'K'), ("sort", 'K')]
      optional := ['K', 'F']
      status := 2 } words
  let view : View :=
    { hidden := has options 'a' || has options 'A' || has options 'f'
      selfToo := (options.filter fun option => option.1 == 'a' || option.1 == 'A').getLast?.any
        (·.1 == 'a')
      marks := has options 'F'
      slashes := has options 'p'
      isReversed := has options 'r'
      bySize := has options 'S'
      byTime := has options 't'
      isUnsorted := has options 'U' || has options 'f'
      withCommas := has options 'm'
      numbers := has options 'i' }
  let tree := (← get).tree
  let mut failed := false
  let mut single : List Listed := []
  let mut directories : List (Octets × Location) := []
  for path in if operands.isEmpty then [['.']] else operands do
    match tree.resolve (display path) with
    | .error cause =>
      complain (octets "cannot access " ++ Quotation.forShell path
        ++ octets (": " ++ reasonOf cause))
      failed := true
    | .ok location =>
      match tree.get? location with
      | some .directory =>
        if has options 'd' then single := single ++ [⟨path, .directory⟩]
        else directories := directories ++ [(path, location)]
      | some entry => single := single ++ [⟨path, entry⟩]
      | none => pure ()
  let sorted := directories.mergeSort fun a b => !(String.ofList b.1 < String.ofList a.1)
  let sorted := if view.isReversed then sorted.reverse else sorted
  let titled := 1 < operands.length || has options 'R'
  let listings := sorted.flatMap fun (path, location) =>
    directory tree view titled (has options 'R') (tree.entries.length + 2) path location
  let first := if single.isEmpty then [] else [body view single]
  Action.print (['\n'].intercalate (first ++ listings))
  return if failed then 2 else 0

namespace Listing

/-- What a directive of a format shows of an entry. -/
def fact (path : Octets) (entry : Entry) (letter : Char) : Octets :=
  let (isDirectory, runs, size, time) := match entry with
    | .directory => (true, true, 4096, 0)
    | .file file => (false, file.executable, file.content.length, file.modified / 1000000000)
  let lines (words : List String) : Octets := octets (String.join words)
  match letter with
  | 'n' => path
  | 'N' => Quotation.forShell path
  | 's' => decimal size
  | 'F' => octets (if isDirectory then "directory"
      else if size = 0 then "regular empty file" else "regular file")
  | 'a' => octets (if runs then "755" else "644")
  | 'A' => lines [if isDirectory then "d" else "-", if runs then "rwxr-xr-x" else "rw-r--r--"]
  | 'f' => octets (if isDirectory then "41ed" else if runs then "81ed" else "81a4")
  | 'u' | 'g' => ['0']
  | 'U' | 'G' => octets "root"
  | 'h' => ['1']
  | 'X' | 'Y' | 'Z' => Integer.text time
  | '%' => ['%']
  | other => ['?', other].take 1

/-- A format filled with facts. -/
def filled (path : Octets) (entry : Entry) : Octets → Octets
  | '%' :: letter :: rest => fact path entry letter ++ filled path entry rest
  | c :: rest => c :: filled path entry rest
  | [] => []

end Listing

/-- Prints facts about entries. -/
def stat : Tool := fun _ words => do
  let (options, operands) ← optionsOf
    { letters := valuedLetters "cP" ++ plainLetters "Lft"
      names := [("format", 'c'), ("printf", 'P'), ("dereference", 'L'), ("terse", 't')] } words
  if operands.isEmpty then misuse 1 (octets "missing operand")
  let tree := (← get).tree
  let mut failed := false
  for path in operands do
    match tree.lookup (display path) with
    | .error cause =>
      complain (octets "cannot statx " ++ Quotation.forShell path
        ++ octets (": " ++ reasonOf cause))
      failed := true
    | .ok entry =>
      match value? options 'P' with
      | some format =>
        Action.print (filled path entry (Printf.unescape (format.length + 1) format).text)
      | none => Action.print (filled path entry ((value? options 'c').getD ['%', 'n']) ++ ['\n'])
  return if failed then 1 else 0

end PromptScript.Shell.Tool
