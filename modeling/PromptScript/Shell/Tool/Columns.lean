import PromptScript.Shell.Tool.Basic

/-!
# Columns of lines

Tools that take parts of lines or put lines side by side, and that change how far the text of a
line reaches.
-/

namespace PromptScript.Shell.Tool

namespace Columns

/-! ## Ranges of places -/

/-- A range of places, from 1 on, that may have no end. -/
structure Range where
  low : Nat
  high? : Option Nat
  deriving DecidableEq

/-- Whether a place lies in a range. -/
def Range.contains (range : Range) (place : Nat) : Bool :=
  range.low ≤ place && range.high?.all (place ≤ ·)

/-- Why a text is no list of ranges. -/
inductive RangeFault where
  | zero
  | decreasing
  | noEnds
  | notNumber (text : Octets)

/-- The wording of a fault of a list of fields or of characters. -/
def RangeFault.message (ofFields : Bool) : RangeFault → Octets
  | zero => octets (if ofFields then "fields are numbered from 1"
      else "byte/character positions are numbered from 1")
  | decreasing => octets "invalid decreasing range"
  | noEnds => octets "invalid range with no endpoint: -"
  | notNumber text =>
    octets (if ofFields then "invalid field value " else "invalid byte/character position ")
      ++ quoted text

/-- Reads one range. -/
def readRange (text : Octets) : Except RangeFault Range :=
  let number (digits : Octets) : Except RangeFault Nat :=
    match Integer.count? digits with
    | some 0 => .error .zero
    | some value => .ok value
    | none => .error (.notNumber (text.dropWhile fun c => c.isDigit || c == '-'))
  let low := text.takeWhile (· != '-')
  match text.drop low.length with
  | [] => do
    let value ← number low
    return ⟨value, some value⟩
  | _ :: high => do
    if low.isEmpty && high.isEmpty then throw .noEnds
    let low ← if low.isEmpty then pure 1 else number low
    if high.isEmpty then return ⟨low, none⟩
    let high ← number high
    if high < low then throw .decreasing
    return ⟨low, some high⟩

/-- Puts ranges together that overlap; they come in the order of their beginnings. -/
def merge : List Range → List Range
  | a :: b :: rest =>
    match a.high? with
    | none => [a]
    | some high =>
      if b.low ≤ high then merge (⟨a.low, b.high?.map (max high)⟩ :: rest)
      else a :: merge (b :: rest)
  | rest => rest
termination_by ranges => ranges.length

/-- Reads a list of ranges. -/
def readRanges (text : Octets) : Except RangeFault (List Range) := do
  let parts := Lines.pieces ',' (text.map fun c => if c == ' ' || c == '\t' then ',' else c)
  let ends := parts.zipIdx.map fun (_, place) => (parts.take place).flatten.length + place
  let ranges ← (parts.zip ends).mapM fun (part, start) =>
    if part.isEmpty then throw .zero
    else
      match readRange part with
      | .error (.notNumber bad) => throw (.notNumber (bad ++ text.drop (start + part.length)))
      | other => other
  return merge (ranges.mergeSort fun a b => a.low ≤ b.low)

/-- The places that lie in none of some ranges, as ranges. -/
def complement (ranges : List Range) : List Range :=
  go 1 ranges
where
  go (next : Nat) : List Range → List Range
    | [] => [⟨next, none⟩]
    | range :: rest =>
      let before := if next < range.low then [⟨next, some (range.low - 1)⟩] else []
      match range.high? with
      | some high => before ++ go (high + 1) rest
      | none => before

/-- The runs of items that lie in the ranges. -/
def runs {α : Type} (ranges : List Range) (items : List α) : List (List α) :=
  (ranges.map fun range =>
    (items.drop (range.low - 1)).take (match range.high? with
      | some high => high + 1 - range.low
      | none => items.length)).filter fun run => !run.isEmpty

end Columns

open Columns

/-- Prints parts of lines. -/
def cut : Tool := fun _ words => do
  let (options, operands) ← optionsOf
    { letters := valuedLetters "bcfdO" ++ plainLetters "nszC"
      names := [("bytes", 'b'), ("characters", 'c'), ("fields", 'f'), ("delimiter", 'd'),
        ("only-delimited", 's'), ("output-delimiter", 'O'), ("complement", 'C'),
        ("zero-terminated", 'z')] } words
  let lists := options.filter fun option => option.1 ∈ ['b', 'c', 'f']
  let delimiter? := value? options 'd'
  if 1 < (delimiter?.getD []).length then misuse 1 (octets "the delimiter must be a single character")
  match lists with
  | [] => misuse 1 (octets "you must specify a list of bytes, characters, or fields")
  | _ :: _ :: _ => misuse 1 (octets "only one list may be specified")
  | [(letter, list)] =>
    let ofFields := letter == 'f'
    if !ofFields && delimiter?.isSome then
      misuse 1 (octets "an input delimiter may be specified only when operating on fields")
    if !ofFields && has options 's' then
      misuse 1
        (octets "suppressing non-delimited lines makes sense\n\tonly when operating on fields")
    match readRanges list with
    | .error fault => misuse 1 (fault.message ofFields)
    | .ok ranges =>
      let ranges := if has options 'C' then complement ranges else ranges
      let delimiter := match delimiter? with
        | some [c] => c
        | some _ => '\x00'
        | none => '\t'
      let outer? := value? options 'O'
      let lineMark := if has options 'z' then '\x00' else '\n'
      let cutLine (line : Octets) : Option Octets :=
        if ofFields then
          if line.contains delimiter then
            let fields := Lines.pieces delimiter line
            some ((outer?.getD [delimiter]).intercalate (runs ranges fields).flatten)
          else if has options 's' then none
          else some line
        else some ((outer?.getD []).intercalate (runs ranges line))
      let (texts, failed) ← readInputs operands
      for (_, text) in texts do
        Action.print ((Lines.endedBy lineMark text).flatMap fun line =>
          match cutLine line with
          | some kept => kept ++ [lineMark]
          | none => [])
      return if failed then 1 else 0

namespace Columns

/-! ## Lines side by side -/

/-- Reads the separators between lines that are put together; none stands for no separator. -/
def separators : Octets → Except Unit (List (Option Char))
  | [] => .ok []
  | ['\\'] => .error ()
  | '\\' :: c :: rest => do
    let this := match c with
      | '0' => none
      | _ => some (((Printf.escapeOf? c).filter fun _ => c != 'a').getD c)
    return this :: (← separators rest)
  | c :: rest => do
    return some c :: (← separators rest)

/-- Puts texts together with separators in turn. -/
def joinCycling (marks : List (Option Char)) : Nat → List Octets → Octets
  | _, [] => []
  | _, [text] => text
  | place, text :: rest =>
    text ++ ((marks[place % marks.length]?).join).toList ++ joinCycling marks (place + 1) rest

/-- The next row of several columns of lines, and what is left of them.  Columns with the same
number share their lines. -/
def takeRow (sources : List Nat) (left : List (List Octets)) :
    List (Option Octets) × List (List Octets) :=
  sources.foldl (fun (row, left) source =>
    match (left[source]?).getD [] with
    | [] => (row ++ [none], left)
    | line :: rest => (row ++ [some line], left.set source rest)) ([], left)

/-- The rows of several columns of lines. -/
def rows (sources : List Nat) : Nat → List (List Octets) → List (List Octets)
  | 0, _ => []
  | fuel + 1, left =>
    let (row, left) := takeRow sources left
    if row.all Option.isNone then [] else row.map (·.getD []) :: rows sources fuel left

end Columns

/-- Prints lines of several texts side by side, or the lines of each text in one line. -/
def paste : Tool := fun _ words => do
  let (options, operands) ← optionsOf
    { letters := valuedLetters "d" ++ plainLetters "sz"
      names := [("delimiters", 'd'), ("serial", 's'), ("zero-terminated", 'z')] } words
  let list := (value? options 'd').getD ['\t']
  let marks ← match separators list with
    | .ok [] => pure [none]
    | .ok marks => pure marks
    | .error () =>
      stop 1 (octets "delimiter list ends with an unescaped backslash: " ++ list)
  let lineMark := if has options 'z' then '\x00' else '\n'
  let operands := if operands.isEmpty then [['-']] else operands
  let linesOf (path : Octets) : Action (Option (List Octets)) := do
    match ← readFile path with
    | .ok text => return some (Lines.endedBy lineMark text)
    | .error cause =>
      complainFile path cause
      return none
  if has options 's' then
    let mut failed := false
    for path in operands do
      match ← linesOf path with
      | some lines => Action.print (joinCycling marks 0 lines ++ [lineMark])
      | none => failed := true
    return if failed then 1 else 0
  else
    let mut columns : List (List Octets) := []
    let mut sources : List Nat := []
    let mut input? : Option Nat := none
    for path in operands do
      match path == ['-'], input? with
      | true, some source => sources := sources ++ [source]
      | isInput, _ =>
        match ← linesOf path with
        | some lines =>
          if isInput then input? := some columns.length
          sources := sources ++ [columns.length]
          columns := columns ++ [lines]
        | none => return 1
    let count := columns.flatten.length + 1
    Action.print ((rows sources count columns).flatMap fun row =>
      joinCycling marks 0 row ++ [lineMark])
    return 0

namespace Columns

/-! ## Tab stops and widths -/

/-- Places of tab stops: at each of the given ones, and behind them at multiples. -/
structure Stops where
  places : List Nat
  /-- The distance of the stops behind the given ones; none where there are no more. -/
  step? : Option Nat

/-- The next stop behind a column; none behind the last one. -/
def Stops.next? (stops : Stops) (column : Nat) : Option Nat :=
  match stops.places.find? (column < ·) with
  | some place => some place
  | none => stops.step?.map fun step => (column / step + 1) * step

/-- Reads tab stops. -/
def readStops (text : Octets) : Except Octets Stops := do
  let parts := (Lines.pieces ',' (text.map fun c => if c == ' ' || c == '\t' then ',' else c)).filter
    fun part => !part.isEmpty
  let places ← parts.mapM fun part =>
    match Integer.count? part with
    | some 0 => throw (octets "tab size cannot be 0")
    | some place => pure place
    | none => throw (octets "tab size contains invalid character(s): " ++ quoted part)
  match places with
  | [] => return ⟨[], some 8⟩
  | [step] => return ⟨[], some step⟩
  | _ =>
    if (places.zip (places.drop 1)).all fun (a, b) => a < b then return ⟨places, none⟩
    else throw (octets "tab sizes must be ascending")

/-- A line with blanks in place of tabs. -/
def expandLine (stops : Stops) (onlyFirst : Bool) : (column : Nat) → Octets → Octets
  | _, [] => []
  | column, c :: rest =>
    if c == '\t' then
      let next := (stops.next? column).getD (column + 1)
      List.replicate (next - column) ' ' ++ expandLine stops onlyFirst next rest
    else if onlyFirst && c != ' ' then c :: rest
    else
      c :: expandLine stops onlyFirst (if c == '\x08' then column - 1 else column + 1) rest

/-- The blanks from one column to another, with tabs where they reach a stop. -/
def blanks (stops : Stops) : Nat → Nat → Nat → Octets
  | 0, _, _ => []
  | fuel + 1, column, finish =>
    if finish ≤ column then []
    else
      match stops.next? column with
      | some next =>
        if next ≤ finish then '\t' :: blanks stops fuel next finish
        else List.replicate (finish - column) ' '
      | none => List.replicate (finish - column) ' '

/-- A line with tabs in place of blanks: of all runs of blanks, or of the first one alone. -/
def unexpandLine (stops : Stops) (everywhere : Bool) : Nat → Nat → Octets → Octets
  | 0, _, text => text
  | fuel + 1, column, text =>
    match text with
    | [] => []
    | c :: rest =>
      if c == ' ' || c == '\t' then
        let run := text.takeWhile fun c => c == ' ' || c == '\t'
        let finish := run.foldl (fun column c =>
          if c == '\t' then (stops.next? column).getD (column + 1) else column + 1) column
        let shown := if run == [' '] && (column ≠ 0 || !everywhere) then run
          else blanks stops (finish + 1) column finish
        shown ++ if everywhere then unexpandLine stops everywhere fuel finish (text.drop run.length)
          else text.drop run.length
      else if !everywhere then text
      else
        c :: unexpandLine stops everywhere fuel
          (if c == '\x08' then column - 1 else column + 1) rest

/-- The column behind a character. -/
def columnAfter (ofChars : Bool) (column : Nat) (c : Char) : Nat :=
  if ofChars then column + 1
  else if c == '\x08' then column - 1
  else if c == '\r' then 0
  else if c == '\t' then column / 8 * 8 + 8
  else column + 1

/-- Breaks a line where it gets too wide: behind a blank, where that is wanted and there is one. -/
def foldLine (width : Nat) (ofChars atBlanks : Bool) : Nat → Octets → Octets
  | 0, line => line
  | fuel + 1, line =>
    let columns := (line.foldl (fun (column, columns) c =>
      let next := columnAfter ofChars column c
      (next, next :: columns)) (0, ([] : List Nat))).2.reverse
    match columns.findIdx? (width < ·) with
    | none => line
    | some place =>
      let fitting := max 1 place
      let blank? := if atBlanks then
          (((line.take fitting).zipIdx.filter fun entry => entry.1 == ' ' || entry.1 == '\t').getLast?)
        else none
      let length := match blank? with
        | some (_, blank) => blank + 1
        | none => fitting
      if line.length ≤ length then line
      else line.take length ++ '\n' :: foldLine width ofChars atBlanks fuel (line.drop length)

/-- Options in the old notation, a number behind a dash, under the letter of today. -/
def modernNumber (letter : Char) (words : List Octets) : List Octets :=
  words.map fun word =>
    match word with
    | '-' :: digit :: _ => if digit.isDigit then '-' :: letter :: word.drop 1 else word
    | _ => word

end Columns

/-- Prints lines with blanks in place of tabs. -/
def expand : Tool := fun _ words => do
  let (options, operands) ← optionsOf
    { letters := valuedLetters "t" ++ plainLetters "i"
      names := [("tabs", 't'), ("initial", 'i')] } (modernNumber 't' words)
  match readStops ((value? options 't').getD []) with
  | .error message => stop 1 message
  | .ok stops =>
    filterText (fun text => Lines.toTextLike text
      ((Lines.ofText text).map (expandLine stops (has options 'i') 0))) operands

/-- Prints lines with tabs in place of blanks. -/
def unexpand : Tool := fun _ words => do
  let (options, operands) ← optionsOf
    { letters := valuedLetters "t" ++ plainLetters "aF"
      names := [("all", 'a'), ("first-only", 'F'), ("tabs", 't')] } (modernNumber 't' words)
  match readStops ((value? options 't').getD []) with
  | .error message => stop 1 message
  | .ok stops =>
    let everywhere := !has options 'F' && (has options 'a' || has options 't')
    filterText (fun text => Lines.toTextLike text
      ((Lines.ofText text).map fun line => unexpandLine stops everywhere (line.length + 1) 0 line))
      operands

/-- Prints lines that are broken where they get too wide. -/
def fold : Tool := fun _ words => do
  let (options, operands) ← optionsOf
    { letters := valuedLetters "w" ++ plainLetters "bs"
      names := [("bytes", 'b'), ("spaces", 's'), ("width", 'w')] } (modernNumber 'w' words)
  let text := (value? options 'w').getD (decimal 80)
  match Integer.count? text with
  | none => stop 1 (octets "invalid number of columns: " ++ quoted text)
  | some 0 =>
    stop 1 (octets "invalid number of columns: " ++ quoted text
      ++ octets ": Numerical result out of range")
  | some width =>
    filterText (fun text => Lines.toTextLike text ((Lines.ofText text).map fun line =>
      foldLine width (has options 'b') (has options 's') (line.length + 1) line)) operands

end PromptScript.Shell.Tool
