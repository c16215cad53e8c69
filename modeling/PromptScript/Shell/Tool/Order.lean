import PromptScript.Shell.Tool.Basic
import PromptScript.Shell.Tool.Collation

/-!
# Lines in order

Tools that put lines in order, and that compare neighbouring lines or the lines of two texts in
order.
-/

namespace PromptScript.Shell.Tool

namespace Order

/-- A part of a line by which lines are compared. -/
structure Key where
  /-- The field where the part begins, from zero on; none for the whole line. -/
  firstField : Option Nat := none
  firstChar : Nat := 0
  /-- The field where the part ends, from zero on; none for the end of the line. -/
  lastField : Option Nat := none
  /-- The last character within its field, from one on; zero stands for the end of the field. -/
  lastChar : Nat := 0
  skipsStart : Bool := false
  skipsEnd : Bool := false
  /-- The letters of the order. -/
  letters : List Char := []
  deriving Inhabited

/-- How lines are compared. -/
structure Setting where
  keys : List Key := []
  separator? : Option Char := none
  isReversed : Bool := false
  isStable : Bool := false
  isUnique : Bool := false

/-- What is left of a line behind some fields. -/
def skipFields (separator? : Option Char) : Nat → Octets → Octets
  | 0, text => text
  | count + 1, text =>
    match separator? with
    | some separator =>
      skipFields separator? count ((text.dropWhile (· != separator)).drop 1)
    | none =>
      skipFields separator? count
        ((text.dropWhile Collation.isGap).dropWhile fun c => !Collation.isGap c)

/-- The length of a line up to the end of a key. -/
def keyEnd (separator? : Option Char) (key : Key) (line : Octets) : Nat :=
  match key.lastField with
  | none => line.length
  | some field =>
    if key.lastChar = 0 then
      match separator? with
      | some separator =>
        let before := skipFields separator? field line
        let ends := before.dropWhile (· != separator)
        line.length - ends.length
      | none => line.length - (skipFields none (field + 1) line).length
    else
      let before := skipFields separator? field line
      let before := if key.skipsEnd then before.dropWhile Collation.isGap else before
      min line.length (line.length - before.length + key.lastChar)

/-- The part of a line by which it is compared. -/
def keyText (separator? : Option Char) (key : Key) (line : Octets) : Octets :=
  let before := skipFields separator? (key.firstField.getD 0) line
  let before := if key.skipsStart then before.dropWhile Collation.isGap else before
  let start := min line.length (line.length - before.length + key.firstChar)
  (line.take (keyEnd separator? key line)).drop start

/-- The characters of a text that count, as they count. -/
def counted (letters : List Char) (text : Octets) : Octets :=
  let text := if letters.contains 'd' then
      text.filter fun c => c == ' ' || c == '\t' || c.isAlphanum
    else if letters.contains 'i' then text.filter Quotation.isPrintable
    else text
  if letters.contains 'f' then text.map Char.toUpper else text

/-- The order of two parts by a key. -/
def keyOrder (key : Key) (a b : Octets) : Ordering :=
  let given := key.letters.contains
  let order :=
    if given 'n' then Collation.numeric a b
    else if given 'g' then Collation.general a b
    else if given 'h' then Collation.human a b
    else if given 'M' then compare (Collation.month a) (Collation.month b)
    else
      let left := counted key.letters a
      let right := counted key.letters b
      if given 'V' then Collation.version left right else Collation.ofChars left right
  if given 'r' then order.swap else order

/-- The order of two lines by the keys. -/
def keysOrder (setting : Setting) (a b : Octets) : Ordering :=
  setting.keys.foldl (fun order key =>
    order.then (keyOrder key (keyText setting.separator? key a) (keyText setting.separator? key b)))
    .eq

/-- The order of two lines. -/
def lineOrder (setting : Setting) (a b : Octets) : Ordering :=
  let last := Collation.ofChars a b
  let last := if setting.isReversed then last.swap else last
  if setting.keys.isEmpty then last
  else if setting.isStable || setting.isUnique then keysOrder setting a b
  else (keysOrder setting a b).then last

/-- Lines in order. -/
def sorted (setting : Setting) (lines : List Octets) : List Octets :=
  let lines := lines.mergeSort fun a b => lineOrder setting a b != .gt
  if setting.isUnique then thin lines else lines
where
  /-- Only the first of lines that are alike. -/
  thin : List Octets → List Octets
    | a :: b :: rest =>
      if lineOrder setting a b == .eq then thin (a :: rest) else a :: thin (b :: rest)
    | rest => rest
  termination_by lines => lines.length

/-- Two lists of lines in order, put together. -/
def merge (setting : Setting) : List Octets → List Octets → List Octets
  | [], right => right
  | left, [] => left
  | a :: left, b :: right =>
    if lineOrder setting b a == .lt then b :: merge setting (a :: left) right
    else a :: merge setting left (b :: right)
termination_by left right => left.length + right.length

/-! ## Notation of keys -/

/-- The letters of orders. -/
def orderLetters : List Char := ['b', 'd', 'f', 'g', 'h', 'i', 'M', 'n', 'R', 'r', 'V']

/-- Ends the tool because of a key. -/
def badKey {α : Type} (cause : String) (text : Octets) : Action α :=
  stop 2 (octets (cause ++ ": invalid field specification ") ++ quoted text)

/-- A number of a key, and what follows it. -/
def keyNumber (cause : String) (text : Octets) : Action (Nat × Octets) := do
  let digits := text.takeWhile Char.isDigit
  if digits.isEmpty then
    stop 2 (octets (cause ++ ": invalid count at start of ") ++ quoted text)
  return (Integer.ofDigits 10 digits, text.drop digits.length)

/-- Reads a key. -/
def readKey (text : Octets) : Action Key := do
  let (field, rest) ← keyNumber "invalid number at field start" text
  if field = 0 then badKey "field number is zero" text
  let (char, rest) ← match rest with
    | '.' :: rest => do
      let (char, rest) ← keyNumber "invalid number after '.'" rest
      if char = 0 then badKey "character offset is zero" text
      pure (char, rest)
    | _ => pure (1, rest)
  let letters := rest.takeWhile orderLetters.contains
  let key : Key :=
    { firstField := some (field - 1)
      firstChar := char - 1
      skipsStart := letters.contains 'b'
      letters := letters.filter (· != 'b') }
  match rest.drop letters.length with
  | [] => return key
  | ',' :: rest =>
    let (field, rest) ← keyNumber "invalid number after ','" rest
    if field = 0 then badKey "field number is zero" text
    let (char, rest) ← match rest with
      | '.' :: rest => keyNumber "invalid number after '.'" rest
      | _ => pure (0, rest)
    let letters := rest.takeWhile orderLetters.contains
    if letters.length < rest.length then badKey "stray character in field spec" text
    return { key with
      lastField := some (field - 1)
      lastChar := char
      skipsEnd := letters.contains 'b'
      letters := key.letters ++ letters.filter (· != 'b') }
  | _ => badKey "stray character in field spec" text

/-- The first line that is out of order, and its number. -/
def disorder? (setting : Setting) : Nat → List Octets → Option (Nat × Octets)
  | number, a :: b :: rest =>
    let order := lineOrder setting a b
    if order == .gt || (setting.isUnique && order == .eq) then some (number + 1, b)
    else disorder? setting (number + 1) (b :: rest)
  | _, _ => none

/-- Orders of which only one can be chosen. -/
def exclusiveLetters : List Char := ['n', 'g', 'h', 'M', 'R', 'V', 'd', 'i']

/-- The letters of an order that cannot stand together, where there are such. -/
def conflict? (letters : List Char) : Option (List Char) :=
  let chosen := ['d', 'f', 'g', 'h', 'i', 'M', 'n', 'R', 'V'].filter letters.contains
  let count := (['n', 'g', 'h', 'M'].filter letters.contains).length
    + if letters.any (· ∈ ['V', 'R', 'd', 'i']) then 1 else 0
  if 1 < count then some (chosen.filter (· != 'f')) else none

end Order

open Order

/-- Prints lines in order. -/
def sort : Tool := fun _ words => do
  let (options, operands) ← optionsOf
    { letters := plainLetters "bdfghiMnRrVcCmsuz" ++ valuedLetters "kotST"
      names := [("ignore-leading-blanks", 'b'), ("dictionary-order", 'd'), ("ignore-case", 'f'),
        ("general-numeric-sort", 'g'), ("human-numeric-sort", 'h'), ("ignore-nonprinting", 'i'),
        ("month-sort", 'M'), ("numeric-sort", 'n'), ("random-sort", 'R'), ("reverse", 'r'),
        ("version-sort", 'V'), ("check", 'c'), ("merge", 'm'), ("stable", 's'), ("unique", 'u'),
        ("zero-terminated", 'z'), ("key", 'k'), ("output", 'o'), ("field-separator", 't'),
        ("buffer-size", 'S'), ("temporary-directory", 'T')]
      optional := ['c']
      status := 2 } words
  let letters := (options.map (·.1)).filter fun letter =>
    orderLetters.contains letter && letter != 'b'
  let skips := has options 'b'
  let read ← (options.filter fun option => option.1 == 'k').mapM fun option => readKey option.2
  let separator? ← match value? options 't' with
    | none => pure none
    | some [] => stop 2 (octets "empty tab")
    | some [c] => pure (some c)
    | some ['\\', '0'] => pure (some '\x00')
    | some text => stop 2 (octets "multi-character tab " ++ quoted text)
  let keys := read.map fun key =>
    if key.letters.isEmpty && !key.skipsStart && !key.skipsEnd then
      { key with letters, skipsStart := skips, skipsEnd := skips }
    else key
  let keys := if !keys.isEmpty then keys
    else if letters.any (· != 'r') || skips then [{ letters, skipsStart := skips }]
    else []
  for key in keys do
    if let some letters := conflict? key.letters then
      stop 2 (octets "options '-" ++ letters ++ octets "' are incompatible")
  let setting : Setting :=
    { keys
      separator?
      isReversed := has options 'r'
      isStable := has options 's'
      isUnique := has options 'u' }
  let mark := if has options 'z' then '\x00' else '\n'
  let isCheck := has options 'c' || has options 'C'
  if isCheck && 1 < operands.length then
    stop 2 (octets "extra operand " ++ quoted ((operands[1]?).getD [])
      ++ octets " not allowed with -c")
  let (texts, failed) ← readEach operands fun path cause => do
    let verb := if cause == .isDirectory then "read failed: " else "cannot read: "
    complain (octets verb ++ Quotation.asNeeded path ++ octets (": " ++ reasonOf cause))
  if failed then return 2
  let parts := texts.map fun (_, text) => Lines.endedBy mark text
  if isCheck then
    match disorder? setting 1 parts.flatten with
    | none => return 0
    | some (number, line) =>
      if !has options 'C' && value? options 'c' != some (octets "quiet")
          && value? options 'c' != some (octets "silent") then
        complain ((operands.headD ['-']) ++ ':' :: decimal number ++ octets ": disorder: " ++ line)
      return 1
  let lines := if has options 'm' then
      let all := parts.foldl (merge setting) []
      if setting.isUnique then sorted.thin setting all else all
    else sorted setting parts.flatten
  let text := lines.flatMap fun line => line ++ [mark]
  match value? options 'o' with
  | none =>
    Action.print text
    return 0
  | some path =>
    match ← writeFile path false text with
    | .ok () => return 0
    | .error cause =>
      stop 2 (octets "open failed: " ++ Quotation.asNeeded path ++ octets (": " ++ reasonOf cause))

namespace Order

/-- Lines in groups of neighbours that are alike. -/
def groups (isAlike : Octets → Octets → Bool) : List Octets → List (List Octets)
  | [] => []
  | line :: rest =>
    match groups isAlike rest with
    | (next :: others) :: more =>
      if isAlike line next then (line :: next :: others) :: more
      else [line] :: (next :: others) :: more
    | found => [line] :: found

/-- A line without blanks and the fields between them. -/
def skipWords : Nat → Octets → Octets
  | 0, line => line
  | count + 1, line =>
    skipWords count ((line.dropWhile Collation.isGap).dropWhile fun c => !Collation.isGap c)

/-- The number of an option, or a complaint about it. -/
def numberOf (what : String) (options : List Given) (letter : Char) : Action (Option Nat) := do
  match value? options letter with
  | none => return none
  | some text =>
    match Integer.count? text with
    | some number => return some number
    | none => stop 1 (Quotation.asNeeded text ++ octets (": invalid number of " ++ what))

end Order

/-- Prints lines without those that are like their neighbours. -/
def uniq : Tool := fun _ words => do
  let (options, operands) ← optionsOf
    { letters := plainLetters "cdDuiz" ++ valuedLetters "fsw"
      names := [("count", 'c'), ("repeated", 'd'), ("all-repeated", 'D'), ("unique", 'u'),
        ("ignore-case", 'i'), ("zero-terminated", 'z'), ("skip-fields", 'f'), ("skip-chars", 's'),
        ("check-chars", 'w')]
      optional := ['D'] } words
  let fields ← numberOf "fields to skip" options 'f'
  let chars ← numberOf "bytes to skip" options 's'
  let width ← numberOf "bytes to compare" options 'w'
  if 2 < operands.length then
    misuse 1 (octets "extra operand " ++ quoted ((operands[2]?).getD []))
  let mark := if has options 'z' then '\x00' else '\n'
  let path := operands.headD ['-']
  match ← readFile path with
  | .error cause =>
    complainFile path cause
    return 1
  | .ok text =>
    let part (line : Octets) : Octets :=
      let line := (skipWords (fields.getD 0) line).drop (chars.getD 0)
      let line := match width with
        | some width => line.take width
        | none => line
      if has options 'i' then line.map Char.toLower else line
    let found := groups (fun a b => part a == part b) (Lines.endedBy mark text)
    let kept := found.filter fun group =>
      if group.length = 1 then !has options 'd' && !has options 'D' else !has options 'u'
    let shown := kept.flatMap fun group =>
      let lead := if has options 'c' then Lines.padLeft 7 (decimal group.length) ++ [' '] else []
      if has options 'D' then group.map (lead ++ ·) else (group.take 1).map (lead ++ ·)
    let shown := shown.flatMap fun line => line ++ [mark]
    match operands[1]? with
    | none =>
      Action.print shown
      return 0
    | some target =>
      match ← writeFile target false shown with
      | .ok () => return 0
      | .error cause =>
        complainFile target cause
        return 1

namespace Order

/-- Lines of two texts in order with the columns where they stand: the first, the second, both. -/
def mergeColumns : List Octets → List Octets → List (Nat × Octets)
  | [], right => right.map fun line => (1, line)
  | left, [] => left.map fun line => (0, line)
  | a :: left, b :: right =>
    match Collation.ofChars a b with
    | .lt => (0, a) :: mergeColumns left (b :: right)
    | .gt => (1, b) :: mergeColumns (a :: left) right
    | .eq => (2, a) :: mergeColumns left right
termination_by left right => left.length + right.length

end Order

/-- Prints the lines of two texts in order in three columns. -/
def comm : Tool := fun _ words => do
  let (options, operands) ← optionsOf
    { letters := plainLetters "123zNCT" ++ valuedLetters "O"
      names := [("output-delimiter", 'O'), ("zero-terminated", 'z'), ("nocheck-order", 'N'),
        ("check-order", 'C'), ("total", 'T')] } words
  match operands with
  | [] => misuse 1 (octets "missing operand")
  | [only] => misuse 1 (octets "missing operand after " ++ quoted only)
  | _ :: _ :: extra :: _ => misuse 1 (octets "extra operand " ++ quoted extra)
  | [first, second] =>
    let mark := if has options 'z' then '\x00' else '\n'
    let read (path : Octets) : Action (List Octets) := do
      match ← readFile path with
      | .ok text => return Lines.endedBy mark text
      | .error cause => stop 1 (Quotation.asNeeded path ++ octets (": " ++ reasonOf cause))
    let left ← read first
    let right ← read second
    let separator := (value? options 'O').getD ['\t']
    let hidden := ['1', '2', '3'].map (has options)
    let merged := mergeColumns left right
    for (column, line) in merged do
      if !(hidden[column]?).getD false then
        let before := ((hidden.take column).filter fun isHidden => !isHidden).length
        Action.print ((List.replicate before separator).flatten ++ line ++ [mark])
    if has options 'T' then
      let count (column : Nat) : Octets :=
        decimal (merged.filter fun entry => entry.1 == column).length
      Action.print (separator.intercalate [count 0, count 1, count 2, octets "total"] ++ [mark])
    if has options 'N' then return 0
    let mut failed := false
    for (number, lines) in [(1, left), (2, right)] do
      if (disorder? {} 1 lines).isSome then
        complain (octets "file " ++ decimal number ++ octets " is not in sorted order")
        failed := true
    if failed then complain (octets "input is not in sorted order")
    return if failed then 1 else 0

namespace Order

/-! ## Lines with a common field -/

/-- A line of a table. -/
structure Row where
  line : Octets
  fields : List Octets
  key : Octets

/-- Which fields a joined line has: a field of the first or second line, or the common one. -/
inductive Choice where
  | common
  | field (second : Bool) (index : Nat)

/-- The fields of a line. -/
def fieldsOf (separator? : Option Char) (line : Octets) : List Octets :=
  match separator? with
  | some separator => if line.isEmpty then [] else Lines.pieces separator line
  | none => (Lines.pieces ' ' (line.map fun c => if c == '\t' then ' ' else c)).filter
      fun field => !field.isEmpty

/-- Reads a choice of fields. -/
def readChoices (text : Octets) : Option (List Choice) :=
  let parts := (Lines.pieces ',' (text.map fun c => if c == ' ' || c == '\t' then ',' else c)).filter
    fun part => !part.isEmpty
  parts.mapM fun part =>
    match part with
    | ['0'] => some .common
    | '1' :: '.' :: digits => (Integer.count? digits).map fun index => .field false (index - 1)
    | '2' :: '.' :: digits => (Integer.count? digits).map fun index => .field true (index - 1)
    | _ => none

/-- How joined lines are written. -/
structure JoinSetting where
  fold : Bool
  separator? : Option Char
  choices? : Option (List Choice)
  missing : Octets
  firstField : Nat
  secondField : Nat

/-- A joined line. -/
def joinedLine (setting : JoinSetting) (first second : Option Row) : Octets :=
  let key := ((first.or second).map (·.key)).getD []
  let others (row? : Option Row) (index : Nat) : List Octets :=
    (row?.map fun row => row.fields.eraseIdx index).getD []
  let fields := match setting.choices? with
    | none => key :: others first setting.firstField ++ others second setting.secondField
    | some choices => choices.map fun choice =>
      match choice with
      | .common => if key.isEmpty then setting.missing else key
      | .field isSecond index =>
        match (if isSecond then second else first).bind fun row => row.fields[index]? with
        | some [] | none => setting.missing
        | some field => field
  [setting.separator?.getD ' '].intercalate fields ++ ['\n']

/-- The joined lines of two tables in order: the lines of the first alone, of the second alone, and
of both. -/
def joinRows (setting : JoinSetting) : Nat → List Row → List Row → List (Nat × Octets)
  | 0, _, _ => []
  | fuel + 1, left, right =>
    let fold (key : Octets) : Octets := if setting.fold then key.map Char.toLower else key
    match left, right with
    | [], rows => rows.map fun row => (2, joinedLine setting none (some row))
    | rows, [] => rows.map fun row => (1, joinedLine setting (some row) none)
    | a :: restA, b :: restB =>
      match Collation.ofChars (fold a.key) (fold b.key) with
      | .lt => (1, joinedLine setting (some a) none) :: joinRows setting fuel restA (b :: restB)
      | .gt => (2, joinedLine setting none (some b)) :: joinRows setting fuel (a :: restA) restB
      | .eq =>
        let same (row : Row) : Bool := fold row.key == fold a.key
        let groupA := left.takeWhile same
        let groupB := right.takeWhile same
        (groupA.flatMap fun first => groupB.map fun second =>
          (0, joinedLine setting (some first) (some second)))
          ++ joinRows setting fuel (left.drop groupA.length) (right.drop groupB.length)

end Order

/-- Prints the lines of two texts that have a field in common. -/
def join : Tool := fun _ words => do
  let (options, operands) ← optionsOf
    { letters := valuedLetters "12jtavoe" ++ plainLetters "iz"
      names := [("ignore-case", 'i'), ("zero-terminated", 'z')] } words
  match operands with
  | [] => misuse 1 (octets "missing operand")
  | [only] => misuse 1 (octets "missing operand after " ++ quoted only)
  | _ :: _ :: extra :: _ => misuse 1 (octets "extra operand " ++ quoted extra)
  | [first, second] =>
    let fieldOf (letter : Char) : Action Nat := do
      match (value? options letter).or (value? options 'j') with
      | none => return 0
      | some text =>
        match Integer.count? text with
        | some 0 | none => stop 1 (octets "invalid field number: " ++ quoted text)
        | some number => return number - 1
    let choices? ← match value? options 'o' with
      | none => pure none
      | some text =>
        match readChoices text with
        | some choices => pure (some choices)
        | none => stop 1 (octets "invalid field specifier: " ++ quoted text)
    let setting : JoinSetting :=
      { fold := has options 'i'
        separator? := (value? options 't').bind List.head?
        choices?
        missing := (value? options 'e').getD []
        firstField := ← fieldOf '1'
        secondField := ← fieldOf '2' }
    let read (path : Octets) (index : Nat) : Action (List Row) := do
      match ← readFile path with
      | .ok text => return (Lines.ofText text).map fun line =>
          let fields := fieldsOf setting.separator? line
          ⟨line, fields, (fields[index]?).getD []⟩
      | .error cause => stop 1 (Quotation.asNeeded path ++ octets (": " ++ reasonOf cause))
    let left ← read first setting.firstField
    let right ← read second setting.secondField
    let among (letter : Char) (number : Octets) : Bool :=
      options.any fun option => option.1 == letter && option.2 == number
    let onlyOthers := has options 'v'
    let isShown (origin : Nat) : Bool :=
      if origin = 0 then !onlyOthers
      else among 'a' (decimal origin) || among 'v' (decimal origin)
    let joined := joinRows setting (left.length + right.length + 1) left right
    Action.print ((joined.filter fun entry => isShown entry.1).flatMap (·.2))
    let fold (key : Octets) : Octets := if setting.fold then key.map Char.toLower else key
    let mut failed := false
    for (path, rows) in [(first, left), (second, right)] do
      if let some (number, _) := disorder? {} 1 (rows.map fun row => fold row.key) then
        let line := ((rows[number - 1]?).map (·.line)).getD []
        complain (path ++ ':' :: decimal number ++ octets ": is not sorted: " ++ line)
        failed := true
    if failed then complain (octets "input is not in sorted order")
    return if failed then 1 else 0

end PromptScript.Shell.Tool
