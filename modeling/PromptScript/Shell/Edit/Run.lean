import PromptScript.Shell.Edit.Reader
import PromptScript.Shell.Tool.Basic

/-!
# Running editing scripts

A script runs once for every line of the texts.  It works on a copy of the line, and on a text that
is kept from line to line.
-/

namespace PromptScript.Shell.Edit

open Pattern (Regular)

/-- A text to edit. -/
structure Document where
  name : Octets
  lines : List Octets
  /-- Whether the last line has no line feed. -/
  isOpen : Bool
  /-- Whether the text comes from the standard input. -/
  isInput : Bool := false

/-- Where the range of a command stands. -/
inductive RangeState where
  | outside
  /-- Within the range, which ends at a line where that is known. -/
  | inside (ending? : Option Nat)
  | past
  deriving DecidableEq, Inhabited

/-- What is printed before the next line is read. -/
inductive Queued where
  | text (content : Octets)
  | file (path : Octets)

/-- How texts are edited. -/
structure Manner where
  script : Script
  /-- Whether every text is one of its own. -/
  isSeparate : Bool
  /-- Whether texts are changed in place, and what is added to the names of their copies. -/
  inPlace? : Option Octets
  mark : Char
  /-- The usual width of shown lines. -/
  width : Nat
  start : Starter

/-- The state of an editing run. -/
structure Editor where
  documents : List Document
  name : Octets := ['-']
  number : Nat := 0
  space : Octets := []
  /-- Whether the line came from one that had no line feed. -/
  isOpen : Bool := false
  kept : Octets := []
  /-- Whether the kept text came from a line that had no line feed. -/
  isKeptOpen : Bool := false
  /-- Whether something was substituted since the line was read. -/
  isChanged : Bool := false
  ranges : Array RangeState := #[]
  queue : List Queued := []
  lastPattern? : Option Regular := none
  /-- The outputs whose last line lacks its line feed; the empty name is that of the output. -/
  unended : List Octets := []
  /-- What is left of files that are read line by line. -/
  sources : List (Octets × List Octets) := []
  /-- The output that replaces a text, the last part first. -/
  replacement : List Octets := []

/-- A step of an editing run. -/
abbrev Editing (α : Type) := StateT Editor Action α

/-- How a run of the script ended. -/
inductive Outcome where
  /-- The end was reached, so the line is printed unless that is off. -/
  | finished
  | deleted
  /-- The script runs again on what is left of the line. -/
  | again
  /-- There are no more lines. -/
  | exhausted
  | quit (status : Nat) (isSilent : Bool)

namespace Editing

/-- Writes a text to an output; the empty name is that of the output. -/
def emit (manner : Manner) (path text : Octets) : Editing Unit := do
  let editor ← get
  let lead := if editor.unended.contains path then [manner.mark] else []
  set { editor with unended := editor.unended.filter (· != path) }
  let all := lead ++ text
  if all.isEmpty then return
  if path.isEmpty then
    if manner.inPlace?.isSome then
      modify fun editor => { editor with replacement := all :: editor.replacement }
    else Action.print all
  else
    let _ ← Tool.writeFile path true all

/-- Writes a line to an output. -/
def emitLine (manner : Manner) (path line : Octets) : Editing Unit := do
  if (← get).isOpen then
    emit manner path line
    modify fun editor => { editor with unended := path :: editor.unended }
  else emit manner path (line ++ [manner.mark])

/-- Writes what was put off. -/
def emitQueue (manner : Manner) : Editing Unit := do
  for queued in (← get).queue.reverse do
    match queued with
    | .text content => emit manner [] content
    | .file path =>
      match ← Tool.readFile path with
      | .ok content => emit manner [] content
      | .error _ => emit manner [] []
  modify fun editor => { editor with queue := [] }

/-- Whether another line follows. -/
def hasNext (manner : Manner) (editor : Editor) : Bool :=
  match editor.documents with
  | [] => false
  | document :: others =>
    !document.lines.isEmpty
      || (!manner.isSeparate && others.any fun other => !other.lines.isEmpty)

/-- The states of ranges before the first line. -/
def startingRanges (script : Script) : Array RangeState :=
  script.instructions.map fun instruction =>
    match instruction.first?, instruction.last? with
    | some (.line 0), some _ => .inside none
    | _, _ => .outside

/-- Puts the edited text in the place of the old one. -/
def replaceText (manner : Manner) (name : Octets) : Editing Unit := do
  if let some ending := manner.inPlace? then
    let editor ← get
    if !ending.isEmpty then
      if let .ok bytes := (← getThe Machine).tree.read (display name) then
        let copy := if ending.contains '*' then
            ending.flatMap fun c => if c == '*' then name else [c]
          else name ++ ending
        let _ ← Tool.writeFile copy false (ofBytes bytes)
    let _ ← Tool.writeFile name false editor.replacement.reverse.flatten
    set { editor with replacement := [], unended := editor.unended.filter (!·.isEmpty) }

/-- Takes the next line, also of the next text; nothing where there is none. -/
def takeLine (manner : Manner) : Nat → Editing (Option Octets)
  | 0 => return none
  | fuel + 1 => do
    let editor ← get
    match editor.documents with
    | [] => return none
    | document :: others =>
      match document.lines with
      | line :: rest =>
        set { editor with
          documents := { document with lines := rest } :: others
          name := document.name
          number := editor.number + 1
          isOpen := document.isOpen && rest.isEmpty }
        return some line
      | [] =>
        if others.isEmpty then return none
        replaceText manner document.name
        modify fun editor =>
          { editor with
            documents := others
            number := if manner.isSeparate then 0 else editor.number
            ranges := if manner.isSeparate then startingRanges manner.script else editor.ranges }
        takeLine manner fuel

/-- Writes what was put off and takes the next line. -/
def nextLine (manner : Manner) : Editing (Option Octets) := do
  emitQueue manner
  let line? ← takeLine manner ((← get).documents.length + 1)
  if line?.isSome then modify fun editor => { editor with isChanged := false }
  return line?

/-- The expression of a pattern: the last one that was used, where it is empty. -/
def expressionOf (wanted : Wanted) : Editing Regular := do
  match wanted.expression?.or (← get).lastPattern? with
  | some expression =>
    modify fun editor => { editor with lastPattern? := some expression }
    return expression
  | none =>
    Tool.stop 1 (octets "-e expression #1, char 0: no previous regular expression")

/-- Whether line feeds end lines for a pattern. -/
def hasLines (manner : Manner) (wanted : Wanted) : Bool :=
  wanted.hasLines && manner.mark == '\n'

/-- The first match of a pattern in the line. -/
def search? (manner : Manner) (wanted : Wanted) (text : Array Char) :
    Editing (Option (Nat × Regular.Reached)) := do
  return Regular.search? (← expressionOf wanted) { text, hasLines := hasLines manner wanted } 0

/-- Whether an address is that of the line. -/
def isAt (manner : Manner) (address : Address) : Editing Bool := do
  let editor ← get
  match address with
  | .line number => return editor.number == number
  | .steps first step => return first ≤ editor.number && (editor.number - first) % step == 0
  | .last => return !hasNext manner editor
  | .pattern wanted => return (← search? manner wanted editor.space.toArray).isSome
  | .ahead _ | .multiple _ => return false

/-- Whether a range holds the line; `place` is the number of its command. -/
def isWithin (manner : Manner) (place : Nat) (first final : Address) : Editing Bool := do
  let editor ← get
  let here := editor.number
  let turn (state : RangeState) : Editing Unit :=
    modify fun editor => { editor with ranges := editor.ranges.set! place state }
  let upTo (ending : Nat) : Editing Bool := do
    if ending ≤ here then turn .past
    return here ≤ ending
  match (editor.ranges[place]?).getD .outside with
  | .inside (some ending) => upTo ending
  | .inside none =>
    match final with
    | .line number => upTo number
    | _ =>
      if ← isAt manner final then turn .past
      return true
  | state =>
    let begins ← match first with
      | .line number => pure (state != .past && number ≤ here)
      | _ => isAt manner first
    if !begins then return false
    match final with
    | .line number =>
      if number ≤ here then
        turn .past
        return match first with
        | .line start => here ≤ number || here == start
        | _ => true
      turn (.inside none)
    | .ahead count => if count ≠ 0 then turn (.inside (some (here + count)))
    | .multiple count =>
      if count ≠ 0 && here % count ≠ 0 then turn (.inside (some ((here / count + 1) * count)))
    | .last => if hasNext manner editor then turn (.inside none)
    | _ => turn (.inside none)
    return true

/-- Whether a command is for the line. -/
def isFor (manner : Manner) (place : Nat) (instruction : Instruction) : Editing Bool := do
  let holds ← match instruction.first?, instruction.last? with
    | none, _ => pure true
    | some first, none => isAt manner first
    | some first, some final => isWithin manner place first final
  return holds != instruction.isInverted

/-! ## Substitutions -/

/-- How the letters of what follows are changed. -/
structure Case where
  all : CaseChange := .none
  next : CaseChange := .none

/-- A character in another case. -/
def changed (change : CaseChange) (c : Char) : Char :=
  match change with
  | .none => c
  | .upper => c.toUpper
  | .lower => c.toLower

/-- A text in another case. -/
def inCase (setting : Case) (text : Octets) : Octets × Case :=
  match text with
  | [] => ([], setting)
  | c :: rest =>
    let first := if setting.next = .none then setting.all else setting.next
    (changed first c :: rest.map (changed setting.all), { setting with next := .none })

/-- What stands in the place of a match. -/
def filled (text : Array Char) (start : Nat) (reached : Regular.Reached) :
    Case → List Piece → Octets
  | _, [] => []
  | setting, piece :: rest =>
    let put (content : Octets) : Octets :=
      let (shown, setting) := inCase setting content
      shown ++ filled text start reached setting rest
    match piece with
    | .text content => put content
    | .group index =>
      let found? := if index = 0 then some (start, reached.place) else reached.groups.lookup index
      put (match found? with
        | some (low, high) => (text.extract low high).toList
        | none => [])
    | .turn change => filled text start reached { setting with all := change, next := .none } rest
    | .turnNext change => filled text start reached { setting with next := change } rest

/-- Replaces matches from a place on; the result also says whether there was one. -/
def replaceFrom (expression : Regular) (hasLines : Bool) (substitution : Substitution)
    (text : Array Char) :
    Nat → (place count : Nat) → (before? : Option Nat) → Octets × Bool
  | 0, place, _, _ => ((text.extract place text.size).toList, false)
  | fuel + 1, place, count, before? =>
    let rest (place : Nat) : Octets := (text.extract place text.size).toList
    match Regular.search? expression { text, hasLines } place with
    | none => (rest place, false)
    | some (start, reached) =>
      let lead := (text.extract place start).toList
      let isEmpty := start = reached.place
      let further (shown : Octets) (count : Nat) (isDone : Bool) : Octets × Bool :=
        if isEmpty && text.size ≤ start then (lead ++ shown, isDone)
        else
          let skipped := if isEmpty then (text.extract start (start + 1)).toList else []
          let next := if isEmpty then start + 1 else reached.place
          let (later, isLater) := replaceFrom expression hasLines substitution text fuel next
            count
            (some reached.place)
          (lead ++ shown ++ skipped ++ later, isDone || isLater)
      if isEmpty && before? == some start then further [] count false
      else if count + 1 < substitution.number then
        further (text.extract start reached.place).toList (count + 1) false
      else
        let shown := filled text start reached {} substitution.pieces
        if substitution.isGlobal then further shown (count + 1) true
        else (lead ++ shown ++ rest reached.place, true)

/-- Runs a command of the shell; the result is what it prints. -/
def runCommand (manner : Manner) (command : Octets) : Editing Octets := do
  return (← Tool.outputOf manner.start (Tool.shellWords command) none).1

/-- Substitutes in the line. -/
def substitute (manner : Manner) (substitution : Substitution) : Editing Unit := do
  let expression ← expressionOf substitution.pattern
  let editor ← get
  let text := editor.space.toArray
  let (replaced, isDone) := replaceFrom expression
    (hasLines manner substitution.pattern) substitution text (text.size + 2) 0 0 none
  if isDone then
    set { (← get) with space := replaced, isChanged := true }
    if substitution.runs then
      let output ← runCommand manner replaced
      modify fun editor => { editor with
        space := if output.getLast? == some manner.mark then output.dropLast else output }
    if substitution.prints then emitLine manner [] (← get).space
    if let some path := substitution.file? then emitLine manner path (← get).space

/-! ## Commands -/

/-- The characters of a line, all of them visible. -/
def visible (c : Char) : Octets :=
  if c == '\\' then ['\\', '\\']
  else if Quotation.isPrintable c then [c]
  else Quotation.escaped c

/-- A line with all its characters visible, broken where it gets too wide. -/
def listed (width : Nat) (line : Octets) : Octets :=
  let (shown, _) := line.foldl (fun (shown, column) c =>
    let piece := visible c
    if width ≠ 0 && width - 1 < column + piece.length then
      (piece.reverse ++ '\n' :: '\\' :: shown, piece.length)
    else (piece.reverse ++ shown, column + piece.length)) (([] : Octets), 0)
  shown.reverse ++ ['$', '\n']

/-- Adds something to what is printed before the next line is read. -/
def enqueue (queued : Queued) : Editing Unit :=
  modify fun editor => { editor with queue := queued :: editor.queue }

/-- What follows a command. -/
inductive Flow where
  | on
  | jump (place : Nat)
  | leave (outcome : Outcome)

/-- The line up to its first line feed, and what follows that. -/
def splitFirst (mark : Char) (space : Octets) : Octets × Option Octets :=
  let first := space.takeWhile (· != mark)
  (first, match space.drop first.length with
    | _ :: rest => some rest
    | [] => none)

/-- The lines of a text with their line feeds. -/
def wholeLines (mark : Char) (text : Octets) : List Octets :=
  let lines := Lines.endedBy mark text
  if text.getLast? == some mark then lines.map (· ++ [mark])
  else lines.dropLast.map (· ++ [mark]) ++ lines.getLast?.toList

/-- Does what a command says. -/
def perform (manner : Manner) (place : Nat) (verb : Verb) : Editing Flow := do
  let editor ← get
  let mark := manner.mark
  let change (space : Octets) : Editing Flow := do
    modify fun editor => { editor with space }
    return .on
  match verb with
  | .block _ | .idle | .mark _ => return .on
  | .showNumber =>
    emit manner [] (decimal editor.number ++ ['\n'])
    return .on
  | .append text =>
    if !text.isEmpty then enqueue (.text text)
    return .on
  | .insert text =>
    if !text.isEmpty then emit manner [] text
    return .on
  | .change text =>
    let isInside := match (editor.ranges[place]?).getD .outside with
      | .inside _ => true
      | _ => false
    if !isInside && !text.isEmpty then emit manner [] text
    return .leave .deleted
  | .jump test label =>
    let jumps := match test with
      | .always => true
      | .afterChange => editor.isChanged
      | .withoutChange => !editor.isChanged
    if test != .always then modify fun editor => { editor with isChanged := false }
    if !jumps then return .on
    if label.isEmpty then return .leave .finished
    match labelPlace? manner.script.instructions label with
    | some place => do
      Action.bounded editor.space.length
      return .jump place
    | none => return .leave .finished
  | .delete => return .leave .deleted
  | .deleteFirst =>
    match splitFirst mark editor.space with
    | (_, none) => return .leave .deleted
    | (_, some rest) =>
      modify fun editor => { editor with space := rest }
      return .leave .again
  | .execute (some command) =>
    let output ← runCommand manner command
    if !output.isEmpty then emit manner [] output
    return .on
  | .execute none =>
    let output ← runCommand manner editor.space
    change (if output.getLast? == some mark then output.dropLast else output)
  | .showName =>
    emit manner [] (editor.name ++ ['\n'])
    return .on
  | .fetch =>
    set { editor with space := editor.kept, isOpen := editor.isKeptOpen }
    return .on
  | .fetchMore =>
    set { editor with space := editor.space ++ mark :: editor.kept, isOpen := editor.isKeptOpen }
    return .on
  | .keep =>
    set { editor with kept := editor.space, isKeptOpen := editor.isOpen }
    return .on
  | .keepMore =>
    set { editor with kept := editor.kept ++ mark :: editor.space, isKeptOpen := editor.isOpen }
    return .on
  | .exchange =>
    set { editor with
      kept := editor.space, space := editor.kept
      isKeptOpen := editor.isOpen, isOpen := editor.isKeptOpen }
    return .on
  | .list width? =>
    emit manner [] (listed (width?.getD manner.width) editor.space)
    return .on
  | .next =>
    if !hasNext manner editor then return .leave .exhausted
    if !manner.script.isQuiet then emitLine manner [] editor.space
    match ← nextLine manner with
    | some line => change line
    | none => return .leave .exhausted
  | .nextMore =>
    if !hasNext manner editor then return .leave .exhausted
    match ← nextLine manner with
    | some line => change (editor.space ++ mark :: line)
    | none => return .leave .exhausted
  | .print =>
    emitLine manner [] editor.space
    return .on
  | .printFirst =>
    emit manner [] ((splitFirst mark editor.space).1 ++ [mark])
    return .on
  | .quit status isSilent => return .leave (.quit status isSilent)
  | .readFile path =>
    enqueue (.file path)
    return .on
  | .readLine path =>
    let lines ← match editor.sources.lookup path with
      | some lines => pure lines
      | none => do
        match ← Tool.readFile path with
        | .ok text => pure (wholeLines mark text)
        | .error _ => pure []
    if let line :: _ := lines then enqueue (.text line)
    modify fun editor => { editor with
      sources := (path, lines.drop 1) :: editor.sources.filter (·.1 != path) }
    return .on
  | .substitute substitution =>
    substitute manner substitution
    return .on
  | .writeFile path =>
    emitLine manner path editor.space
    return .on
  | .writeFirst path =>
    emit manner path ((splitFirst mark editor.space).1 ++ [mark])
    return .on
  | .translate pairs => change (editor.space.map fun c => (pairs.lookup c).getD c)
  | .clear => change []

/-- Runs the script on the line, from a command on. -/
def runFrom (manner : Manner) : Nat → (place : Nat) → Editing Outcome
  | 0, _ => (Action.hang .endless : Action Outcome)
  | fuel + 1, place => do
    match manner.script.instructions[place]? with
    | none => return .finished
    | some instruction =>
      if !(← isFor manner place instruction) then
        match instruction.verb with
        | .block finish => runFrom manner fuel finish
        | _ => runFrom manner fuel (place + 1)
      else
        match ← perform manner place instruction.verb with
        | .on => runFrom manner fuel (place + 1)
        | .jump target => runFrom manner fuel (target + 1)
        | .leave outcome => return outcome

/-- The greatest number of commands that one line takes. -/
def maxSteps : Nat := 400000

/-- Leaves what was not read to others, where that is possible. -/
def giveBack (manner : Manner) : Editing Unit := do
  let editor ← get
  if hasNext manner editor then modifyThe Machine fun shell => { shell with isStuck := false }
  let shell ← getThe Machine
  match shell.handles.lookup 0, editor.documents.find? (·.isInput) with
  | some (.channel index), some document =>
    if (shell.channel index).isSeekable then
      let text := document.lines.flatMap fun line => line ++ [manner.mark]
      let rest := if document.isOpen then text.dropLast else text
      set (shell.changeChannel index fun channel => { channel with unread := rest })
  | _, _ => return

/-- Runs the script on all lines; the result is the status where the script gives one. -/
def runAll (manner : Manner) : Nat → (isFresh : Bool) → Editing (Option Nat)
  | 0, _ => (Action.hang .endless : Action (Option Nat))
  | fuel + 1, isFresh => do
    let isThere ←
      if isFresh then do
        match ← nextLine manner with
        | some line =>
          modify fun editor => { editor with space := line }
          pure true
        | none => pure false
      else pure true
    if !isThere then return none
    let autoPrint : Editing Unit := do
      if !manner.script.isQuiet then emitLine manner [] (← get).space
    match ← runFrom manner maxSteps 0 with
    | .finished =>
      autoPrint
      runAll manner fuel true
    | .deleted => runAll manner fuel true
    | .again =>
      emitQueue manner
      runAll manner fuel false
    | .exhausted =>
      autoPrint
      emitQueue manner
      return none
    | .quit status isSilent =>
      if !isSilent then
        autoPrint
        emit manner [] []
        emitQueue manner
      giveBack manner
      return some status

/-- The files that a script writes. -/
def outputs (script : Script) : List Octets :=
  (script.instructions.toList.flatMap fun instruction =>
    match instruction.verb with
    | .writeFile path | .writeFirst path => [path]
    | .substitute substitution => substitution.file?.toList
    | _ => []).eraseDups

/-- Edits texts; the result is the status where the script gives one. -/
def run (manner : Manner) (documents : List Document) : Action (Option Nat) := do
  for path in outputs manner.script do
    if !(octets "/dev/").isPrefixOf path then
      if let .error cause ← Tool.writeFile path false [] then
        Tool.stop 4 (octets "couldn't open file " ++ path ++ octets (": " ++ reasonOf cause))
  let lines := (documents.flatMap (·.lines)).length
  let step : Editing (Option Nat) := do
    let status? ← runAll manner (lines + maxSteps) true
    if let document :: _ := (← get).documents then replaceText manner document.name
    return status?
  let (status?, _) ← StateT.run step { documents, ranges := startingRanges manner.script }
  return status?

end Editing

end PromptScript.Shell.Edit
