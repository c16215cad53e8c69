import PromptScript.Pattern.Regular.Reader
import PromptScript.Shell.Field
import PromptScript.Shell.Tool.Basic

/-!
# Searches

The tool that prints the lines in which a pattern occurs.
-/

namespace PromptScript.Shell.Tool

namespace Search

open Pattern (Regular)

/-- Which matches count. -/
inductive Extent where
  | anywhere
  | words
  | lines
  deriving DecidableEq

/-- What is searched for. -/
structure Wanted where
  expressions : List Regular
  extent : Extent := .anywhere
  isInverted : Bool := false

/-- Whether a match from one place to another counts. -/
def counts (extent : Extent) (text : Array Char) (start finish : Nat) : Bool :=
  let isWord (place : Nat) : Bool := (text[place]?).any Pattern.CharSet.wordChars.contains
  match extent with
  | .anywhere => true
  | .words => !(start ≠ 0 && isWord (start - 1)) && !isWord finish
  | .lines => start == 0 && finish == text.size

/-- The longest match that begins at a place. -/
def matchAt? (wanted : Wanted) (text : Array Char) (start : Nat) : Option Nat :=
  let ends := wanted.expressions.filterMap fun expression =>
    ((Regular.reach { text } expression.refersBack expression ⟨start, []⟩).find? fun reached =>
      counts wanted.extent text start reached.place).map (·.place)
  ends.max?

/-- The first match from a place on. -/
def firstMatch? (wanted : Wanted) (text : Array Char) (place : Nat) : Option (Nat × Nat) :=
  go (text.size + 1 - place) place
where
  go : Nat → Nat → Option (Nat × Nat)
    | 0, _ => none
    | count + 1, place =>
      match matchAt? wanted text place with
      | some finish => some (place, finish)
      | none => go count (place + 1)

/-- All matches of a line that are not empty. -/
def allMatches (wanted : Wanted) (text : Array Char) : Nat → Nat → List (Nat × Nat)
  | 0, _ => []
  | fuel + 1, place =>
    match firstMatch? wanted text place with
    | none => []
    | some (start, finish) =>
      if start = finish then allMatches wanted text fuel (start + 1)
      else (start, finish) :: allMatches wanted text fuel finish

/-- How what is found is shown. -/
structure View where
  counts : Bool := false
  /-- Whether only the names of texts are shown: of those with a match, or without. -/
  namesWith : Bool := false
  namesWithout : Bool := false
  numbers : Bool := false
  places : Bool := false
  onlyMatches : Bool := false
  isQuiet : Bool := false
  before : Nat := 0
  after : Nat := 0
  limit? : Option Nat := none
  mark : Char := '\n'
  showsHidden : Bool := false

/-- A line of a text with its number and the place where it begins. -/
structure Numbered where
  line : Octets
  number : Nat
  place : Nat

/-- The lines of a text with their numbers. -/
def numbered (number place : Nat) : List Octets → List Numbered
  | [] => []
  | line :: rest => ⟨line, number, place⟩ :: numbered (number + 1) (place + line.length + 1) rest

/-- What stands before a shown line. -/
def lead (view : View) (title? : Option Octets) (separator : Char) (number place : Nat) : Octets :=
  (match title? with
    | some title => title ++ [separator]
    | none => [])
  ++ (if view.numbers then decimal number ++ [separator] else [])
  ++ (if view.places then decimal place ++ [separator] else [])

/-- A line that was found, as it is shown. -/
def shown (view : View) (wanted : Wanted) (title? : Option Octets) (found : Numbered) : Octets :=
  if view.onlyMatches then
    if wanted.isInverted then []
    else
      let text := found.line.toArray
      (allMatches wanted text (text.size + 2) 0).flatMap fun (start, finish) =>
        lead view title? ':' found.number (found.place + start)
          ++ (text.extract start finish).toList ++ [view.mark]
  else lead view title? ':' found.number found.place ++ found.line ++ [view.mark]

/-- How far the output of a text came. -/
structure Progress where
  output : List Octets := []
  /-- The number of the last line that was shown. -/
  last? : Option Nat := none
  /-- Lines before that were not shown, the last first. -/
  waiting : List Numbered := []
  /-- The number of lines behind the last match that are still shown. -/
  trailing : Nat := 0
  found : Nat := 0
  isOver : Bool := false

/-- Looks at one line. -/
def step (view : View) (wanted : Wanted) (title? : Option Octets) (progress : Progress)
    (entry : Numbered) : Progress :=
  if progress.isOver then progress
  else
    let hits := (firstMatch? wanted entry.line.toArray 0).isSome != wanted.isInverted
    let isFull := view.limit?.any (· ≤ progress.found)
    let context (entry : Numbered) : Octets :=
      if view.onlyMatches then []
      else lead view title? '-' entry.number entry.place ++ entry.line ++ [view.mark]
    if hits && !isFull then
      let before := (progress.waiting.take view.before).reverse
      let first := (before.head?.map (·.number)).getD entry.number
      let gap : List Octets := match progress.last? with
        | some last =>
          if last + 1 < first && (view.before ≠ 0 || view.after ≠ 0) then [octets "--\n"] else []
        | none => []
      { output := shown view wanted title? entry :: (before.reverse.map context ++ gap)
          ++ progress.output
        last? := some entry.number
        waiting := []
        trailing := view.after
        found := progress.found + 1
        isOver := false }
    else if hits then { progress with isOver := true }
    else if progress.trailing ≠ 0 then
      { progress with
        output := context entry :: progress.output
        last? := some entry.number
        trailing := progress.trailing - 1 }
    else if isFull then { progress with isOver := true }
    else { progress with waiting := entry :: progress.waiting.take view.before }

/-- What is told about a text. -/
structure Finding where
  output : Octets
  hits : Bool
  /-- Whether lines were found that cannot be shown. -/
  isHidden : Bool := false

/-- Searches a text. -/
def searchText (view : View) (wanted : Wanted) (name : Octets) (title? : Option Octets)
    (text : Octets) : Finding :=
  let isHidden := !view.showsHidden && view.mark == '\n' && text.contains '\x00'
  let entries := numbered 1 0 (Lines.endedBy view.mark text)
  let progress := entries.foldl (step view wanted title?) {}
  let hits := progress.found ≠ 0
  let titled (text : Octets) : Octets := match title? with
    | some title => title ++ ':' :: text
    | none => text
  if view.isQuiet then ⟨[], hits, false⟩
  else if view.namesWith then ⟨if hits then name ++ ['\n'] else [], hits, false⟩
  else if view.namesWithout then ⟨if hits then [] else name ++ ['\n'], hits, false⟩
  else if view.counts then ⟨titled (decimal progress.found) ++ ['\n'], hits, false⟩
  else if isHidden && hits then ⟨[], hits, true⟩
  else ⟨progress.output.reverse.flatten, hits, false⟩

/-- A number that an option gives. -/
def numberOf? (options : List Given) (letter : Char) (complaint : Octets → Octets) :
    Action (Option Nat) := do
  match value? options letter with
  | none => return none
  | some text =>
    match Integer.count? text with
    | some number => return some number
    | none => stop 2 (complaint text)

/-- Counts behind a dash as the option of today. -/
def modernWords (words : List Octets) : List Octets :=
  words.map fun word =>
    match word with
    | '-' :: digits =>
      if !digits.isEmpty && digits.all Char.isDigit then '-' :: 'C' :: digits else word
    | _ => word

/-- The options of the tool. -/
def accepted : Accepted :=
  { letters := valuedLetters "efmABCdDXY" ++ plainLetters "EFGPiyvcloqsxwhHnLabrRzZUTIK"
    names := [("extended-regexp", 'E'), ("fixed-strings", 'F'), ("basic-regexp", 'G'),
      ("regexp", 'e'), ("file", 'f'), ("ignore-case", 'i'), ("invert-match", 'v'), ("count", 'c'),
      ("files-with-matches", 'l'), ("files-without-match", 'L'), ("line-number", 'n'),
      ("only-matching", 'o'), ("quiet", 'q'), ("silent", 'q'), ("no-messages", 's'),
      ("line-regexp", 'x'), ("word-regexp", 'w'), ("no-filename", 'h'), ("with-filename", 'H'),
      ("max-count", 'm'), ("after-context", 'A'), ("before-context", 'B'), ("context", 'C'),
      ("byte-offset", 'b'), ("text", 'a'), ("recursive", 'r'), ("dereference-recursive", 'R'),
      ("null-data", 'z'), ("color", 'K'), ("colour", 'K'), ("include", 'X'), ("exclude", 'Y'),
      ("line-buffered", 'U')]
    optional := ['K']
    status := 2
    summary := "[OPTION]... PATTERNS [FILE]..." }

/-- The texts to search: the files of directories in place of them where that is wanted, each with
its name and whether it was found in a directory. -/
def inputsOf (options : List Given) (operands : List Octets) : Action (List Octets) := do
  if !has options 'r' && !has options 'R' then
    return if operands.isEmpty then [['-']] else operands
  let tree := (← get).tree
  let among (letter : Char) (path : Octets) : Bool :=
    (options.filter fun option => option.1 == letter).any fun option =>
      Wildcard.matchesAll (wildcards (signsOf option.2)) (baseName path)
  let isWanted (path : Octets) : Bool :=
    (!has options 'X' || among 'X' path) && !among 'Y' path
  let filesOf (path : Octets) : List Octets :=
    match walk tree false path with
    | .error _ => [path]
    | .ok visits => (visits.filter fun visit =>
        visit.entry != .directory && (visit.depth == 0 || isWanted visit.path)).map (·.path)
  if operands.isEmpty then
    return (filesOf ['.']).map fun path => path.drop 2
  else return operands.flatMap filesOf

/-- Searches with the options given; `shape` is the notation unless an option chooses another. -/
def run (shape : Char) (words : List Octets) : Action Nat := do
  let (options, operands) ← optionsOf accepted (modernWords words)
  let listed := options.filter fun option => option.1 == 'e' || option.1 == 'f'
  let (patterns, operands) ←
    if listed.isEmpty then
      match operands with
      | [] => do
        Action.complain (octets "Usage: " ++ (← get).name
          ++ octets (" " ++ accepted.summary ++ "\n"))
        tryHelp
        throw (.exit 2)
      | pattern :: rest => pure (Lines.pieces '\n' pattern, rest)
    else do
      let mut patterns : List Octets := []
      for (letter, text) in listed do
        if letter == 'e' then patterns := patterns ++ Lines.pieces '\n' text
        else
          match ← readFile text with
          | .ok content => patterns := patterns ++ Lines.ofText content
          | .error cause => stop 2 (text ++ octets (": " ++ reasonOf cause))
      pure (patterns, operands)
  let shape := ((options.filter fun option => option.1 ∈ ['E', 'F', 'G', 'P']).getLast?.map
    (·.1)).getD shape
  let folds := has options 'i' || has options 'y'
  let expressions ← patterns.mapM fun pattern => do
    if shape == 'F' then return Regular.literal pattern
    match Regular.read (.ofSearch (shape == 'E' || shape == 'P')) pattern with
    | .ok expression => return expression
    | .error fault => stop 2 (octets fault.message)
  let wanted : Wanted :=
    { expressions := if folds then expressions.map Regular.foldCase else expressions
      extent := if has options 'x' then .lines else if has options 'w' then .words else .anywhere
      isInverted := has options 'v' }
  let length (text : Octets) : Octets := text ++ octets ": invalid context length argument"
  let around ← numberOf? options 'C' length
  let after ← numberOf? options 'A' length
  let before ← numberOf? options 'B' length
  let limit? ← numberOf? options 'm' fun _ => octets "invalid max count"
  let view : View :=
    { counts := has options 'c'
      namesWith := has options 'l'
      namesWithout := has options 'L'
      numbers := has options 'n'
      places := has options 'b'
      onlyMatches := has options 'o'
      isQuiet := has options 'q'
      before := (before.or around).getD 0
      after := (after.or around).getD 0
      limit?
      mark := if has options 'z' then '\x00' else '\n'
      showsHidden := has options 'a' }
  let inputs ← inputsOf options operands
  let isTitled := match (options.filter fun option => option.1 == 'h' || option.1 == 'H').getLast? with
    | some (letter, _) => letter == 'H'
    | none => 1 < operands.length || has options 'r' || has options 'R'
  let mut hits := false
  let mut failed := false
  for path in inputs do
    if !(view.isQuiet && hits) then
      match ← readFile path with
      | .error cause =>
        failed := true
        if !has options 's' then complain (path ++ octets (": " ++ reasonOf cause))
      | .ok text =>
        let name := if path == ['-'] then octets "(standard input)" else path
        let found := searchText view wanted name (if isTitled then some name else none) text
        Action.print found.output
        if found.isHidden then complain (name ++ octets ": binary file matches")
        if found.hits then hits := true
  if failed && !(view.isQuiet && hits) then return 2
  return if hits then 0 else 1

end Search

/-- Searches with the basic notation. -/
def grep : Tool := fun _ words => Search.run 'G' words

/-- Searches with the extended notation. -/
def egrep : Tool := fun _ words => Search.run 'E' words

/-- Searches for texts that stand for themselves. -/
def fgrep : Tool := fun _ words => Search.run 'F' words

end PromptScript.Shell.Tool
