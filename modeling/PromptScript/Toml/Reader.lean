import PromptScript.Json.Reader

/-!
# TOML documents

The values of TOML, the tables of a document while it is read, and a reader of TOML texts.  A table
is explicit once a header or a pair of braces defines it; a table that a longer name only passes
through is implicit, and dotted where that name was the name of a value.  No setting takes a date, so
there are none.  Each function of the reader takes the unread characters and gives what it read with
the characters behind it, or nothing where the text is no TOML.
-/

namespace PromptScript.Toml

/-! ## Values and tables -/

/-- A value. -/
inductive Value where
  | string (value : String)
  | integer (value : Int)
  | float (value : Float)
  | boolean (value : Bool)
  | array (items : List Value)
  | table (members : List (String × Value))
  deriving Repr, Inhabited

/-- What stands under a name while a document is read. -/
inductive Item where
  | value (value : Value)
  | table (implicit dotted : Bool) (items : List (String × Item))
  | tables (elements : List (List (String × Item)))
  deriving Inhabited

namespace Item

/-- The item of a name. -/
def lookup? (name : String) (items : List (String × Item)) : Option Item :=
  (items.find? fun entry => entry.1 == name).map (·.2)

/-- Puts an item under a name. -/
def insert (name : String) (item : Item) : List (String × Item) → List (String × Item)
  | [] => [(name, item)]
  | (other, old) :: rest =>
    if name = other then (name, item) :: rest else (other, old) :: insert name item rest

/-- Changes the table at a path.  Tables that are missing on the way are created as implicit
ones.  Names of values do not lead through explicit tables, and nothing leads through values. -/
def update? (dotted : Bool) (change : Bool → List (String × Item) → Option (List (String × Item)))
    (isDotted : Bool) : List String → List (String × Item) → Option (List (String × Item))
  | [], items => change isDotted items
  | name :: path, items =>
    match lookup? name items with
    | none => do
      let inner ← update? dotted change dotted path []
      return insert name (.table true dotted inner) items
    | some (.value _) => none
    | some (.table implicit innerDotted inner) =>
      if dotted && !implicit then none
      else do
        let changed ← update? dotted change innerDotted path inner
        return insert name (.table implicit innerDotted changed) items
    | some (.tables elements) =>
      match elements.getLast? with
      | none => none
      | some last => do
        let changed ← update? dotted change false path last
        return insert name (.tables (elements.dropLast ++ [changed])) items

/-- Gives a value to a name in a table, which must not have it yet.  A dotted name leads only to
tables that dotted names made. -/
def addValue? (path : List String) (name : String) (value : Value)
    (items : List (String × Item)) : Option (List (String × Item)) :=
  update? true (fun isDotted inner =>
    if isDotted == path.isEmpty then none
    else if (lookup? name inner).isSome then none
    else some (insert name (.value value) inner)) false path items

/-- Defines the table of a header. -/
def openTable? (path : List String) (name : String) (items : List (String × Item)) :
    Option (List (String × Item)) :=
  update? false (fun _ parent =>
    match lookup? name parent with
    | none => some (insert name (.table false false []) parent)
    | some (.table true false inner) => some (insert name (.table false false inner) parent)
    | some _ => none) false path items

/-- Adds a table to the array of a header. -/
def openElement? (path : List String) (name : String) (items : List (String × Item)) :
    Option (List (String × Item)) :=
  update? false (fun _ parent =>
    match lookup? name parent with
    | none => some (insert name (.tables [[]]) parent)
    | some (.tables elements) => some (insert name (.tables (elements ++ [[]])) parent)
    | some _ => none) false path items

mutual

/-- The value of an item. -/
def toValue : Item → Value
  | .value held => held
  | .table _ _ items => .table (membersOf items)
  | .tables elements => .array (elementsOf elements)

/-- The members of a table. -/
def membersOf : List (String × Item) → List (String × Value)
  | [] => []
  | (name, item) :: rest => (name, item.toValue) :: membersOf rest

/-- The elements of an array of tables. -/
def elementsOf : List (List (String × Item)) → List Value
  | [] => []
  | items :: rest => .table (membersOf items) :: elementsOf rest

end

end Item

/-! ## Reading -/

/-- A blank inside a line. -/
def isSpace (c : Char) : Bool :=
  c == ' ' || c == '\t'

/-- The text behind blanks. -/
def skipSpace (text : List Char) : List Char :=
  text.dropWhile isSpace

/-- Whether a character may stand in a comment. -/
def isPlain (c : Char) : Bool :=
  c == '\t' || (0x20 ≤ c.toNat && c.toNat != 0x7F)

/-- The text behind a line feed, with or without a carriage return before it. -/
def newline? : List Char → Option (List Char)
  | '\n' :: rest => some rest
  | '\r' :: '\n' :: rest => some rest
  | _ => none

/-- The text behind blanks and a comment. -/
def skipComment (text : List Char) : List Char :=
  match skipSpace text with
  | '#' :: rest => rest.dropWhile isPlain
  | rest => rest

/-- The text behind the rest of a line, in which only blanks and a comment may stand. -/
def endLine? (text : List Char) : Option (List Char) :=
  match skipComment text with
  | [] => some []
  | rest => newline? rest

/-- The text behind blanks, comments and line feeds. -/
def skipLines : Nat → List Char → List Char
  | 0, text => text
  | fuel + 1, text =>
    let rest := skipComment text
    match newline? rest with
    | some later => skipLines fuel later
    | none => rest

/-! ## Strings -/

/-- The character of hexadecimal digits. -/
def charOfHex? (digits : List Char) : Option Char := do
  let values ← digits.mapM Json.hexDigit?
  let code := values.foldl (fun value digit => value * 16 + digit) 0
  if code < 0xD800 ∨ (0xDFFF < code ∧ code < 0x110000) then some (Char.ofNat code) else none

/-- Reads an escape behind its backslash. -/
def readEscape? : List Char → Option (Char × List Char)
  | 'b' :: rest => some ('\x08', rest)
  | 't' :: rest => some ('\t', rest)
  | 'n' :: rest => some ('\n', rest)
  | 'f' :: rest => some ('\x0c', rest)
  | 'r' :: rest => some ('\r', rest)
  | '"' :: rest => some ('"', rest)
  | '\\' :: rest => some ('\\', rest)
  | 'u' :: rest =>
    if rest.length < 4 then none
    else (charOfHex? (rest.take 4)).map fun c => (c, rest.drop 4)
  | 'U' :: rest =>
    if rest.length < 8 then none
    else (charOfHex? (rest.take 8)).map fun c => (c, rest.drop 8)
  | _ => none

/-- Reads a string of one line behind its opening quote. -/
def readBasic? : Nat → List Char → Option (List Char × List Char)
  | 0, _ => none
  | _ + 1, [] => none
  | fuel + 1, c :: rest =>
    if c = '"' then some ([], rest)
    else if c = '\\' then do
      let (escaped, later) ← readEscape? rest
      let (body, last) ← readBasic? fuel later
      return (escaped :: body, last)
    else if isPlain c then do
      let (body, last) ← readBasic? fuel rest
      return (c :: body, last)
    else none

/-- Reads the quotes that end a string of several lines: one or two of them may still belong to
it. -/
def closeLines? (quote : Char) (text : List Char) : Option (List Char × List Char) :=
  let quotes := text.takeWhile (· == quote)
  if quotes.length < 3 then none
  else
    let kept := min (quotes.length - 3) 2
    some (List.replicate kept quote, text.drop (kept + 3))

/-- The text behind blanks and the ends of lines. -/
def skipSpaceAndLines : List Char → List Char
  | '\r' :: '\n' :: rest => skipSpaceAndLines rest
  | c :: rest => if isSpace c || c == '\n' then skipSpaceAndLines rest else c :: rest
  | [] => []

/-- The text behind a backslash that ends a line: blanks and line feeds are passed over. -/
def skipFold? (text : List Char) : Option (List Char) :=
  (newline? (skipSpace text)).map skipSpaceAndLines

/-- Reads a string of several lines behind its opening quotes. -/
def readBasicLines? : Nat → List Char → Option (List Char × List Char)
  | 0, _ => none
  | _ + 1, [] => none
  | fuel + 1, c :: rest =>
    match closeLines? '"' (c :: rest) with
    | some closed => some closed
    | none =>
      if c = '\\' then
        match skipFold? rest with
        | some later => readBasicLines? fuel later
        | none => do
          let (escaped, later) ← readEscape? rest
          let (body, last) ← readBasicLines? fuel later
          return (escaped :: body, last)
      else
        match newline? (c :: rest) with
        | some later => do
          let (body, last) ← readBasicLines? fuel later
          return ('\n' :: body, last)
        | none =>
          if isPlain c then do
            let (body, last) ← readBasicLines? fuel rest
            return (c :: body, last)
          else none

/-- Reads a literal string behind its opening quote. -/
def readLiteral? : List Char → Option (List Char × List Char)
  | [] => none
  | c :: rest =>
    if c = '\'' then some ([], rest)
    else if isPlain c then (readLiteral? rest).map fun (body, last) => (c :: body, last)
    else none

/-- Reads a literal string of several lines behind its opening quotes. -/
def readLiteralLines? : Nat → List Char → Option (List Char × List Char)
  | 0, _ => none
  | _ + 1, [] => none
  | fuel + 1, c :: rest =>
    match closeLines? '\'' (c :: rest) with
    | some closed => some closed
    | none =>
      match newline? (c :: rest) with
      | some later => do
        let (body, last) ← readLiteralLines? fuel later
        return ('\n' :: body, last)
      | none =>
        if isPlain c then do
          let (body, last) ← readLiteralLines? fuel rest
          return (c :: body, last)
        else none

/-- The text behind a line feed that directly follows opening quotes. -/
def dropFirstNewline (text : List Char) : List Char :=
  (newline? text).getD text

/-- Reads a string of any kind. -/
def readString? (text : List Char) : Option (String × List Char) :=
  let asString : Option (List Char × List Char) → Option (String × List Char) :=
    Option.map fun (body, rest) => (String.ofList body, rest)
  match text with
  | '"' :: '"' :: '"' :: rest =>
    asString (readBasicLines? (rest.length + 1) (dropFirstNewline rest))
  | '"' :: rest => asString (readBasic? (rest.length + 1) rest)
  | '\'' :: '\'' :: '\'' :: rest =>
    asString (readLiteralLines? (rest.length + 1) (dropFirstNewline rest))
  | '\'' :: rest => asString (readLiteral? rest)
  | _ => none

/-! ## Numbers -/

/-- Reads digits, between any two of which one underscore may stand. -/
def readDigits? (isDigit : Char → Bool) : List Char → Option (List Char × List Char)
  | [] => none
  | d :: '_' :: later =>
    if isDigit d then (readDigits? isDigit later).map fun (digits, last) => (d :: digits, last)
    else none
  | d :: rest =>
    if isDigit d then
      match readDigits? isDigit rest with
      | some (digits, last) => some (d :: digits, last)
      | none => some ([d], rest)
    else none

/-- The value of digits in a base. -/
def valueOf (base : Nat) (digits : List Char) : Nat :=
  digits.foldl (fun value d => value * base + (Json.hexDigit? d).getD 0) 0

/-- An integer of 64 bits. -/
def integer? (value : Int) : Option Value :=
  if -0x8000000000000000 ≤ value ∧ value < 0x8000000000000000 then some (.integer value) else none

/-- Reads a sign. -/
def readSign : List Char → Option Char × List Char
  | '+' :: rest => (some '+', rest)
  | '-' :: rest => (some '-', rest)
  | text => (none, text)

/-- The binary64 number nearest to `digits * 10 ^ exponent`. -/
def floatOf (digits : List Char) (exponent : Int) : Float :=
  let significand := valueOf 10 digits
  let order := exponent + digits.length
  if significand = 0 ∨ order < -400 then 0.0
  else if 400 < order ∧ 400 < exponent then 1.0 / 0.0
  else Float.ofScientific significand (exponent < 0) exponent.natAbs

/-- Reads an exponent, where there is one. -/
def readExponent? (text : List Char) : Option (Option Int × List Char) :=
  match text with
  | 'e' :: rest | 'E' :: rest => do
    let (sign, unsigned) := readSign rest
    let (digits, last) ← readDigits? Char.isDigit unsigned
    let value : Int := valueOf 10 digits
    return (some (if sign = some '-' then -value else value), last)
  | _ => some (none, text)

/-- Reads a fraction, where there is one. -/
def readFraction? (text : List Char) : Option (Option (List Char) × List Char) :=
  match text with
  | '.' :: rest => do
    let (digits, last) ← readDigits? Char.isDigit rest
    return (some digits, last)
  | _ => some (none, text)

/-- Reads a decimal number behind its sign. -/
def readDecimal? (sign : Option Char) (text : List Char) : Option (Value × List Char) := do
  let (whole, afterWhole) ←
    match text with
    | '0' :: rest => some (['0'], rest)
    | other => readDigits? Char.isDigit other
  let (fraction, afterFraction) ← readFraction? afterWhole
  let (exponent, rest) ← readExponent? afterFraction
  if fraction.isNone && exponent.isNone then
    let value : Int := valueOf 10 whole
    return (← integer? (if sign = some '-' then -value else value), rest)
  else
    let places := fraction.getD []
    let magnitude := floatOf (whole ++ places) (exponent.getD 0 - places.length)
    let value := if sign = some '-' then -magnitude else magnitude
    if value == 1.0 / 0.0 then none else return (.float value, rest)

/-- Reads a number. -/
def readNumber? (text : List Char) : Option (Value × List Char) :=
  let based (base : Nat) (isDigit : Char → Bool) (digits : List Char) : Option (Value × List Char) := do
    let (read, rest) ← readDigits? isDigit digits
    return (← integer? (valueOf base read), rest)
  match text with
  | '0' :: 'x' :: rest => based 16 (fun c => (Json.hexDigit? c).isSome) rest
  | '0' :: 'o' :: rest => based 8 (fun c => '0' ≤ c && c ≤ '7') rest
  | '0' :: 'b' :: rest => based 2 (fun c => c == '0' || c == '1') rest
  | _ =>
    let (sign, unsigned) := readSign text
    match unsigned with
    | 'i' :: 'n' :: 'f' :: rest =>
      some (.float (if sign = some '-' then -1.0 / 0.0 else 1.0 / 0.0), rest)
    | 'n' :: 'a' :: 'n' :: rest => some (.float (0.0 / 0.0), rest)
    | _ => readDecimal? sign unsigned

/-! ## Names -/

/-- Whether a character may stand in a name without quotes. -/
def isBare (c : Char) : Bool :=
  c.isAlphanum || c == '_' || c == '-'

/-- Reads one name. -/
def readName? (text : List Char) : Option (String × List Char) :=
  match text with
  | '"' :: rest =>
    (readBasic? (rest.length + 1) rest).map fun (body, last) => (String.ofList body, last)
  | '\'' :: rest => (readLiteral? rest).map fun (body, last) => (String.ofList body, last)
  | _ =>
    let name := text.takeWhile isBare
    if name.isEmpty then none else some (String.ofList name, text.drop name.length)

/-- Reads names with dots between them. -/
def readPath? : Nat → List Char → Option (List String × List Char)
  | 0, _ => none
  | fuel + 1, text => do
    let (name, behind) ← readName? (skipSpace text)
    match skipSpace behind with
    | '.' :: rest =>
      let (names, last) ← readPath? fuel rest
      return (name :: names, last)
    | rest => return ([name], rest)

/-! ## Values -/

mutual

/-- Reads a value. -/
def readValue? : Nat → List Char → Option (Value × List Char)
  | 0, _ => none
  | fuel + 1, text =>
    match text with
    | '"' :: _ | '\'' :: _ => (readString? text).map fun (value, rest) => (.string value, rest)
    | '[' :: rest => (readItems? fuel rest).map fun (items, last) => (.array items, last)
    | '\x7b' :: rest =>
      match skipSpace rest with
      | '\x7d' :: last => some (.table [], last)
      | _ =>
        (readMembers? fuel rest []).map fun (items, last) => (.table (Item.membersOf items), last)
    | 't' :: 'r' :: 'u' :: 'e' :: rest => some (.boolean true, rest)
    | 'f' :: 'a' :: 'l' :: 's' :: 'e' :: rest => some (.boolean false, rest)
    | _ => readNumber? text

/-- Reads the items of an array up to its end. -/
def readItems? : Nat → List Char → Option (List Value × List Char)
  | 0, _ => none
  | fuel + 1, text =>
    match skipLines text.length text with
    | ']' :: rest => some ([], rest)
    | start => do
      let (value, behind) ← readValue? fuel start
      match skipLines behind.length behind with
      | ',' :: rest =>
        let (values, last) ← readItems? fuel rest
        return (value :: values, last)
      | ']' :: rest => return ([value], rest)
      | _ => none

/-- Reads the members of a table in braces up to its end. -/
def readMembers? : Nat → List Char → List (String × Item) → Option (List (String × Item) × List Char)
  | 0, _, _ => none
  | fuel + 1, text, items => do
    let (path, behind) ← readPath? (text.length + 1) text
    match skipSpace behind with
    | '=' :: rest =>
      let (value, last) ← readValue? fuel (skipSpace rest)
      let added ← Item.addValue? path.dropLast (path.getLast?.getD "") value items
      match skipSpace last with
      | ',' :: more => readMembers? fuel more added
      | '\x7d' :: more => return (added, more)
      | _ => none
    | _ => none

end

/-! ## Documents -/

/-- Reads the lines of a document.  The path leads to the table of the last header. -/
def readLines? : Nat → List String → List (String × Item) → List Char →
    Option (List (String × Item))
  | 0, _, _, _ => none
  | fuel + 1, current, items, text =>
    match skipSpace text with
    | [] => some items
    | '[' :: '[' :: rest => do
      let (path, behind) ← readPath? (rest.length + 1) rest
      match skipSpace behind with
      | ']' :: ']' :: last =>
        let opened ← Item.openElement? path.dropLast (path.getLast?.getD "") items
        readLines? fuel path opened (← endLine? last)
      | _ => none
    | '[' :: rest => do
      let (path, behind) ← readPath? (rest.length + 1) rest
      match skipSpace behind with
      | ']' :: last =>
        let opened ← Item.openTable? path.dropLast (path.getLast?.getD "") items
        readLines? fuel path opened (← endLine? last)
      | _ => none
    | start =>
      match start with
      | '#' :: _ | '\n' :: _ | '\r' :: _ => do readLines? fuel current items (← endLine? start)
      | _ => do
        let (path, behind) ← readPath? (start.length + 1) start
        match skipSpace behind with
        | '=' :: rest =>
          let (value, last) ← readValue? (2 * rest.length + 2) (skipSpace rest)
          let added ← Item.update? false
            (fun _ inner => Item.addValue? path.dropLast (path.getLast?.getD "") value inner)
            false current items
          readLines? fuel current added (← endLine? last)
        | _ => none

/-- The table of a document; a byte order mark at its beginning is passed over. -/
def parse? (text : String) : Option (List (String × Value)) :=
  let chars :=
    match text.toList with
    | '\uFEFF' :: rest => rest
    | chars => chars
  (readLines? (chars.length + 1) [] [] chars).map Item.membersOf

end PromptScript.Toml
