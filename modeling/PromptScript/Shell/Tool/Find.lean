import PromptScript.Shell.Builtin.Signals
import PromptScript.Shell.Field
import PromptScript.Shell.Tool.Basic

/-!
# Searches for entries

The tool that walks through directories and acts on the entries for which a condition holds.
-/

namespace PromptScript.Shell.Tool

namespace Find

/-- How a number is compared with that of a condition. -/
inductive Bound where
  | exactly (number : Nat)
  | above (number : Nat)
  | below (number : Nat)

/-- Whether a number is as a bound asks. -/
def Bound.holds : Bound → Nat → Bool
  | exactly bound, number => number == bound
  | above bound, number => bound < number
  | below bound, number => number < bound

/-- A condition on an entry, or an action on it. -/
inductive Condition where
  | always
  | never
  | all (left right : Condition)
  | any (left right : Condition)
  | no (body : Condition)
  /-- The last name matches a pattern, without regard to the case of letters where that is said. -/
  | name (folds : Bool) (pattern : Octets)
  | path (folds : Bool) (pattern : Octets)
  | kind (letters : List Char)
  | size (unit : Nat) (bound : Bound)
  | empty
  | executable
  | newer (time : Int)
  | prune
  | delete
  | quit
  | print (mark : Char)
  /-- A format with escapes. -/
  | printf (format : Octets)
  | run (words : List Octets) (together : Bool)

/-- Whether a condition acts on entries by itself. -/
def Condition.acts : Condition → Bool
  | all left right | any left right => left.acts || right.acts
  | no body => body.acts
  | delete | print _ | printf _ | run _ _ => true
  | _ => false

/-- What the words of a condition say besides. -/
structure Reading where
  rest : List Octets
  inner : Bool := false
  least : Nat := 0
  most? : Option Nat := none

/-- A step of reading. -/
abbrev Step (α : Type) := StateT Reading Action α

/-- Takes the argument of a word. -/
def argumentOf (word : Octets) : Step Octets := do
  let reading ← get
  match reading.rest with
  | argument :: rest =>
    set { reading with rest }
    return argument
  | [] => (stop 1 (octets "missing argument to `" ++ word ++ ['\'']) : Action Octets)

/-- The bound that a text writes. -/
def readBound (word text : Octets) : Action Bound := do
  let number (digits : Octets) : Action Nat := do
    match Integer.count? digits with
    | some number => return number
    | none => stop 1 (octets "invalid argument `" ++ text ++ octets "' to `" ++ word ++ ['\''])
  match text with
  | '+' :: digits => return .above (← number digits)
  | '-' :: digits => return .below (← number digits)
  | digits => return .exactly (← number digits)

/-- The words of a command up to its end, and whether it is run for many entries at once. -/
def commandWords (word : Octets) : Step (List Octets × Bool) := do
  let reading ← get
  let ends (place : Nat) : Bool :=
    reading.rest[place]? == some [';']
      || (reading.rest[place]? == some ['+'] && 0 < place
        && reading.rest[place - 1]? == some ['\x7b', '\x7d'])
  match (List.range reading.rest.length).find? ends with
  | none => (stop 1 (octets "missing argument to `" ++ word ++ ['\'']) : Action _)
  | some place =>
    set { reading with rest := reading.rest.drop (place + 1) }
    let together := reading.rest[place]? == some ['+']
    let words := reading.rest.take (if together then place - 1 else place)
    if words.isEmpty then (stop 1 (octets "invalid argument `;' to `" ++ word ++ ['\'']) : Action _)
    return (words, together)

/-- The time of the last change of what a path names. -/
def changeTime (path : Octets) : Action Int := do
  match (← get).tree.lookup (display path) with
  | .ok (.file file) => return file.modified
  | .ok .directory => return 0
  | .error cause => stop 1 (quoted path ++ octets (": " ++ reasonOf cause))

mutual

/-- Conditions of which one holds. -/
def readAny : Nat → Step Condition
  | 0 => return .always
  | fuel + 1 => do
    let left ← readAll fuel
    match (← get).rest with
    | ['-', 'o'] :: rest | ['-', 'o', 'r'] :: rest =>
      modify fun reading => { reading with rest }
      return .any left (← readAny fuel)
    | _ => return left

/-- Conditions that all hold. -/
def readAll : Nat → Step Condition
  | 0 => return .always
  | fuel + 1 => do
    let left ← readOne fuel
    match (← get).rest with
    | [] => return left
    | word :: rest =>
      if word ∈ [['-', 'o'], ['-', 'o', 'r'], [')']] then return left
      if word ∈ [['-', 'a'], ['-', 'a', 'n', 'd']] then
        modify fun reading => { reading with rest }
      return .all left (← readAll fuel)

/-- One condition. -/
def readOne : Nat → Step Condition
  | 0 => return .always
  | fuel + 1 => do
    let reading ← get
    match reading.rest with
    | [] => return .always
    | word :: rest =>
      set { reading with rest }
      match String.ofList word with
      | "!" | "-not" => return .no (← readOne fuel)
      | "(" =>
        let body ← readAny fuel
        let reading ← get
        match reading.rest with
        | [')'] :: rest =>
          set { reading with rest }
          return body
        | _ => (stop 1 (octets "invalid expression; I was expecting to find a ')' somewhere but did not see one.") : Action _)
      | "-true" => return .always
      | "-false" => return .never
      | "-name" => return .name false (← argumentOf word)
      | "-iname" => return .name true (← argumentOf word)
      | "-path" | "-wholename" => return .path false (← argumentOf word)
      | "-ipath" => return .path true (← argumentOf word)
      | "-type" => return .kind ((← argumentOf word).filter (· != ','))
      | "-empty" => return .empty
      | "-executable" => return .executable
      | "-perm" =>
        let mode ← argumentOf word
        return if mode.any (· == 'x') || mode.any (· == '1') then .executable else .always
      | "-prune" => return .prune
      | "-quit" => return .quit
      | "-delete" =>
        modify fun reading => { reading with inner := true }
        return .delete
      | "-depth" | "-d" =>
        modify fun reading => { reading with inner := true }
        return .always
      | "-print" => return .print '\n'
      | "-print0" => return .print '\x00'
      | "-printf" =>
        let format ← argumentOf word
        return .printf format
      | "-newer" => return .newer (← changeTime (← argumentOf word))
      | "-mindepth" | "-maxdepth" =>
        let text ← argumentOf word
        match Integer.count? text with
        | none =>
          (stop 1 (octets "Expected a positive decimal integer argument to " ++ word
            ++ octets ", but got " ++ quoted text) : Action _)
        | some depth =>
          modify fun reading =>
            if word == octets "-mindepth" then { reading with least := depth }
            else { reading with most? := some depth }
          return .always
      | "-size" =>
        let text ← argumentOf word
        let unit : Nat := match text.getLast? with
          | some 'c' => 1
          | some 'w' => 2
          | some 'k' => 1024
          | some 'M' => 0x100000
          | some 'G' => 0x40000000
          | _ => 512
        let digits := if text.getLast?.any Char.isDigit then text else
          text.take (text.length - 1)
        return .size unit (← readBound word digits)
      | "-exec" =>
        let (words, together) ← commandWords word
        return .run words together
      | _ =>
        if word.head? == some '-' then
          (stop 1 (octets "unknown predicate `" ++ word ++ ['\'']) : Action _)
        else
          complain (octets "paths must precede expression: `" ++ word ++ ['\''])
          throw (Leave.exit 1)

end

/-- Where a walk stands. -/
structure Progress where
  status : Nat := 0
  isPruned : Bool := false
  isOver : Bool := false
  /-- Commands that wait for all their entries. -/
  waiting : List (List Octets × List Octets) := []

/-- A step of acting. -/
abbrev Acting (α : Type) := StateT Progress Action α

/-- A word of a command with the path in the places of the braces. -/
def fillWord (path : Octets) : Octets → Octets
  | '\x7b' :: '\x7d' :: rest => path ++ fillWord path rest
  | c :: rest => c :: fillWord path rest
  | [] => []

/-- Runs a command; whether it succeeds. -/
def runCommand (start : Starter) (words : List Octets) : Acting Bool := do
  match ← start words with
  | .ok result => return Builtin.statusOf result == 0
  | .error cause =>
    complain (quoted (words.headD []) ++ octets (": " ++ reasonOf cause))
    return false

/-- A format filled with facts about an entry. -/
def filled (start : Octets) (visit : Visit) : Octets → Octets
  | '%' :: letter :: rest =>
    (match letter with
      | 'p' => visit.path
      | 'f' => baseName visit.path
      | 'P' => (visit.path.drop start.length).dropWhile (· == '/')
      | 'h' =>
        let lead := (visit.path.reverse.dropWhile (· != '/')).reverse.dropLast
        if lead.isEmpty then ['.'] else lead
      | 's' => match visit.entry with
        | .file file => decimal file.content.length
        | .directory => decimal 4096
      | 'y' => if visit.entry == .directory then ['d'] else ['f']
      | 'd' => decimal visit.depth
      | '%' => ['%']
      | other => ['%', other])
      ++ filled start visit rest
  | c :: rest => c :: filled start visit rest
  | [] => []

/-- Works out a condition for an entry. -/
def holds (start : Starter) (origin : Octets) (visit : Visit) : Condition → Acting Bool
  | .always => return true
  | .never => return false
  | .all left right => do
    if !(← holds start origin visit left) || (← get).isOver then return false
    holds start origin visit right
  | .any left right => do
    if ← holds start origin visit left then return true else holds start origin visit right
  | .no body => do return !(← holds start origin visit body)
  | .name folds pattern => return matching folds pattern (baseName visit.path)
  | .path folds pattern => return matching folds pattern visit.path
  | .kind letters => return letters.contains (if visit.entry == .directory then 'd' else 'f')
  | .size unit bound =>
    return match visit.entry with
    | .file file => bound.holds ((file.content.length + unit - 1) / unit)
    | .directory => bound.holds ((4096 + unit - 1) / unit)
  | .empty => do
    match visit.entry with
    | .file file => return file.content.isEmpty
    | .directory => return ((← getThe Machine).tree.namesAt visit.location).isEmpty
  | .executable => return match visit.entry with
    | .file file => file.executable
    | .directory => true
  | .newer time => return match visit.entry with
    | .file file => time < file.modified
    | .directory => false
  | .prune => do
    modify fun progress => { progress with isPruned := true }
    return true
  | .quit => do
    modify fun progress => { progress with isOver := true }
    return true
  | .delete => do
    if visit.path == ['.'] then return true
    let tree := (← getThe Machine).tree
    if visit.entry == .directory && !(tree.namesAt visit.location).isEmpty then
      complain (octets "cannot delete " ++ quoted visit.path ++ octets ": Directory not empty")
      modify fun progress => { progress with status := 1 }
      return false
    modifyThe Machine (·.withTree (tree.erase visit.location))
    return true
  | .print mark => do
    Action.print (visit.path ++ [mark])
    return true
  | .printf format => do
    Action.print (filled origin visit (Printf.unescape (format.length + 1) format).text)
    return true
  | .run words together => do
    if together then
      modify fun progress =>
        let known := (progress.waiting.lookup words).getD []
        { progress with
          waiting := progress.waiting.filter (·.1 != words) ++ [(words, known ++ [visit.path])] }
      return true
    else runCommand start (words.map (fillWord visit.path))
where
  /-- Whether a pattern matches a text. -/
  matching (folds : Bool) (pattern text : Octets) : Bool :=
    let fold (text : Octets) : Octets := if folds then text.map Char.toLower else text
    Wildcard.matchesAll (wildcards (signsOf (fold pattern))) (fold text)

/-- Visits entries in turn; what lies below a pruned directory is left out. -/
def visitAll (start : Starter) (origin : Octets) (reading : Reading) (condition : Condition) :
    (pruned? : Option Location) → List Visit → Acting Unit
  | _, [] => return
  | pruned?, visit :: rest => do
    if (← get).isOver then return
    let isBelow := pruned?.any fun location => location.isPrefixOf visit.location
    if isBelow then visitAll start origin reading condition pruned? rest
    else
      modify fun progress => { progress with isPruned := false }
      if reading.least ≤ visit.depth then
        let _ ← holds start origin visit condition
      let isPruned := (← get).isPruned && !reading.inner
      visitAll start origin reading condition (if isPruned then some visit.location else pruned?) rest

end Find

open Find

/-- Acts on the entries below paths for which a condition holds. -/
def find : Tool := fun start words => do
  let words := words.dropWhile fun word => word ∈ [['-', 'L'], ['-', 'H'], ['-', 'P']]
  let isPath (word : Octets) : Bool :=
    word.head? != some '-' && word != ['('] && word != ['!'] && word != [')']
  let paths := words.takeWhile isPath
  let expression := words.drop paths.length
  let (condition, reading) ← (readAny (4 * words.length + 8)).run { rest := expression }
  if let word :: _ := reading.rest then
    stop 1 (octets "invalid expression; you have too many '" ++ word ++ ['\''])
  let condition := if condition.acts then condition else .all condition (.print '\n')
  let mut progress : Progress := {}
  for path in if paths.isEmpty then [['.']] else paths do
    match walk (← get).tree reading.inner path with
    | .error cause =>
      complain (quoted path ++ octets (": " ++ reasonOf cause))
      progress := { progress with status := 1 }
    | .ok visits =>
      let reached := visits.filter fun visit => reading.most?.all (visit.depth ≤ ·)
      let ((), after) ← (visitAll start path reading condition none reached).run progress
      progress := after
  for (words, paths) in progress.waiting do
    let (isWell, _) ← (runCommand start (words ++ paths)).run {}
    if !isWell then progress := { progress with status := 1 }
  return progress.status

end PromptScript.Shell.Tool
