import PromptScript.Shell.Tool.Basic

/-!
# Texts in other notations

Tools that write bytes with few characters or as numbers.
-/

namespace PromptScript.Shell.Tool

/-!
## Texts in other notations

Tools that write texts with few characters, each of which stands for some bits, and that read such
texts again.
-/

namespace Encoding

/-- A notation for bytes: characters that stand for some bits each, in groups that are filled up. -/
structure Alphabet where
  chars : List Char
  /-- The number of bits of a character. -/
  bits : Nat
  /-- The number of bytes of a group. -/
  bytes : Nat
  /-- The number of characters of a group. -/
  group : Nat

/-- The notation with 64 characters. -/
def sixtyFour : Alphabet :=
  { chars := "ABCDEFGHIJKLMNOPQRSTUVWXYZabcdefghijklmnopqrstuvwxyz0123456789+/".toList
    bits := 6
    bytes := 3
    group := 4 }

/-- The notation with 32 characters. -/
def thirtyTwo : Alphabet :=
  { chars := "ABCDEFGHIJKLMNOPQRSTUVWXYZ234567".toList
    bits := 5
    bytes := 5
    group := 8 }

/-- The number of characters that write some bytes of a group. -/
def Alphabet.charsFor (alphabet : Alphabet) (bytes : Nat) : Nat :=
  (bytes * 8 + alphabet.bits - 1) / alphabet.bits

/-- The characters of one group of bytes. -/
def Alphabet.encodeGroup (alphabet : Alphabet) (group : Octets) : Octets :=
  let padded := group ++ List.replicate (alphabet.bytes - group.length) '\x00'
  let number := padded.foldl (fun number c => number * 256 + c.toNat) 0
  let base := Nat.pow 2 alphabet.bits
  (List.range alphabet.group).map fun place =>
    if place < alphabet.charsFor group.length then
      (alphabet.chars[number / Nat.pow base (alphabet.group - 1 - place) % base]?).getD '='
    else '='

/-- Parts of a list of the given length; the last one may be shorter. -/
def chunks {α : Type} (length : Nat) : Nat → List α → List (List α)
  | 0, _ => []
  | fuel + 1, items =>
    if items.isEmpty then [] else items.take length :: chunks length fuel (items.drop length)

/-- A text in a notation. -/
def Alphabet.encode (alphabet : Alphabet) (text : Octets) : Octets :=
  (chunks alphabet.bytes (text.length + 1) text).flatMap alphabet.encodeGroup

/-- The bytes of one group of characters, and whether the group is whole. -/
def Alphabet.decodeGroup (alphabet : Alphabet) (group : Octets) : Octets × Bool :=
  let values := (group.takeWhile alphabet.chars.contains).map fun c =>
    (alphabet.chars.findIdx? (· == c)).getD 0
  let count := values.length * alphabet.bits / 8
  let number := values.foldl (fun number value => number * Nat.pow 2 alphabet.bits + value) 0
  let kept := number / Nat.pow 2 (values.length * alphabet.bits - count * 8)
  let bytes := (List.range count).map fun place =>
    Char.ofNat (kept / Nat.pow 256 (count - 1 - place) % 256)
  let isWhole := group.length == alphabet.group
    && (group.drop values.length).all (· == '=')
    && (count ≠ 0 && alphabet.charsFor count == values.length)
  (bytes, isWhole)

/-- The text that a notation writes, and whether all of it could be read. -/
def Alphabet.decode (alphabet : Alphabet) (text : Octets) : Octets × Bool :=
  go (chunks alphabet.group (text.length + 1) text)
where
  go : List Octets → Octets × Bool
    | [] => ([], true)
    | group :: rest =>
      let (bytes, isWhole) := alphabet.decodeGroup group
      if !isWhole then (bytes, false)
      else
        let (others, isRead) := go rest
        (bytes ++ others, isRead)

/-- Writes texts in a notation, or reads them again. -/
def run (alphabet : Alphabet) (words : List Octets) : Action Nat := do
  let (options, operands) ← optionsOf
    { letters := plainLetters "di" ++ valuedLetters "w"
      names := [("decode", 'd'), ("ignore-garbage", 'i'), ("wrap", 'w')] } words
  if 1 < operands.length then
    misuse 1 (octets "extra operand " ++ quoted ((operands[1]?).getD []))
  let width ← match value? options 'w' with
    | none => pure 76
    | some text =>
      match Integer.count? text with
      | some width => pure width
      | none => stop 1 (octets "invalid wrap size: " ++ quoted text)
  let path := operands.headD ['-']
  match ← readFile path with
  | .error cause =>
    let lead := if cause == .isDirectory then octets "read error" else Quotation.asNeeded path
    stop 1 (lead ++ octets (": " ++ reasonOf cause))
  | .ok text =>
    if has options 'd' then
      let kept := text.filter fun c =>
        if has options 'i' then alphabet.chars.contains c || c == '=' else c != '\n'
      let (decoded, isRead) := alphabet.decode kept
      Action.print decoded
      if !isRead then stop 1 (octets "invalid input")
      return 0
    else
      let encoded := alphabet.encode text
      Action.print (if width = 0 then encoded
        else (chunks width (encoded.length + 1) encoded).flatMap fun line => line ++ ['\n'])
      return 0

end Encoding

/-- Writes texts with 64 characters. -/
def base64 : Tool := fun _ words => Encoding.run Encoding.sixtyFour words

/-- Writes texts with 32 characters. -/
def base32 : Tool := fun _ words => Encoding.run Encoding.thirtyTwo words

/-!
## Dumps

The tool that prints the bytes of texts as numbers and characters, in blocks behind their places.
-/

namespace Dump

/-- How bytes are shown. -/
inductive Shape where
  | named
  | char
  | signed
  | unsigned
  | octal
  | hexadecimal
  deriving DecidableEq

/-- One way to show a block. -/
structure Form where
  shape : Shape
  /-- The number of bytes of an item. -/
  size : Nat
  /-- Whether the characters of the block are shown at its end. -/
  showsText : Bool := false
  deriving DecidableEq

/-- The width of an item. -/
def Form.width (form : Form) : Nat :=
  match form.shape with
  | .named | .char => 3
  | .signed => match form.size with
    | 1 => 4
    | 2 => 6
    | 4 => 11
    | _ => 20
  | .unsigned => match form.size with
    | 1 => 3
    | 2 => 5
    | 4 => 10
    | _ => 20
  | .octal => match form.size with
    | 1 => 3
    | 2 => 6
    | 4 => 11
    | _ => 22
  | .hexadecimal => 2 * form.size

/-- The names of the characters that cannot be seen. -/
def charNames : List String :=
  ["nul", "soh", "stx", "etx", "eot", "enq", "ack", "bel", "bs", "ht", "nl", "vt", "ff", "cr", "so",
    "si", "dle", "dc1", "dc2", "dc3", "dc4", "nak", "syn", "etb", "can", "em", "sub", "esc", "fs",
    "gs", "rs", "us", "sp"]

/-- An item of a block, without the blanks before it. -/
def Form.item (form : Form) (bytes : Octets) : Octets :=
  let value := bytes.foldr (fun c value => value * 256 + c.toNat) 0
  let based (base : Nat) : Octets :=
    let digits := Nat.toDigits base value
    List.replicate (form.width - digits.length) '0' ++ digits
  match form.shape with
  | .named =>
    let code := value % 128
    if code = 127 then octets "del"
    else match charNames[code]? with
      | some name => octets name
      | none => [Char.ofNat code]
  | .char =>
    let c := Char.ofNat value
    if c == '\x00' then ['\\', '0']
    else match Quotation.escapeLetter? c with
      | some letter => ['\\', letter]
      | none => if Quotation.isPrintable c then [c] else Quotation.octalCode c
  | .signed =>
    let bound := Nat.pow 256 form.size
    Integer.text (if bound ≤ 2 * value then (value : Int) - bound else value)
  | .unsigned => decimal value
  | .octal => based 8
  | .hexadecimal => based 16

/-- A line with a block in one form. -/
def Form.line (form : Form) (blockSize lineWidth : Nat) (block : Octets) : Octets :=
  let count := blockSize / form.size
  let padding := lineWidth - form.width * count
  let items := Encoding.chunks form.size (block.length + 1) block
  let gap (index : Nat) : Nat :=
    padding * (count - index) / count - padding * (count - index - 1) / count
  let body := items.zipIdx.flatMap fun (item, index) =>
    Lines.padLeft (gap index + form.width) (form.item item)
  if !form.showsText then body
  else
    Lines.padRight lineWidth body ++ octets "  >"
      ++ block.map (fun c => if Quotation.isPrintable c then c else '.') ++ ['<']

/-- How places are written. -/
inductive Radix where
  | decimal
  | octal
  | hexadecimal
  | none
  deriving DecidableEq

/-- A place at the beginning of a line. -/
def Radix.show (radix : Radix) (place : Nat) : Octets :=
  let based (base width : Nat) : Octets :=
    let digits := Nat.toDigits base place
    List.replicate (width - digits.length) '0' ++ digits
  match radix with
  | decimal => based 10 7
  | octal => based 8 7
  | hexadecimal => based 16 6
  | none => []

/-- Reads forms; a text that names none gives the character that is wrong. -/
def readForms : Nat → Octets → Except Char (List Form)
  | 0, _ => .ok []
  | _, [] => .ok []
  | fuel + 1, letter :: rest =>
    let finish (shape : Shape) (size : Nat) (rest : Octets) : Except Char (List Form) :=
      let showsText := rest.head? == some 'z'
      (readForms fuel (if showsText then rest.drop 1 else rest)).map fun forms =>
        { shape, size, showsText } :: forms
    let sized (shape : Shape) : Except Char (List Form) :=
      match rest with
      | 'C' :: rest => finish shape 1 rest
      | 'S' :: rest => finish shape 2 rest
      | 'I' :: rest => finish shape 4 rest
      | 'L' :: rest => finish shape 8 rest
      | _ =>
        let digits := rest.takeWhile Char.isDigit
        let size := if digits.isEmpty then 4 else Integer.ofDigits 10 digits
        if size ∈ [1, 2, 4, 8] then finish shape size (rest.drop digits.length)
        else .error letter
    match letter with
    | 'a' => finish .named 1 rest
    | 'c' => finish .char 1 rest
    | 'd' => sized .signed
    | 'u' => sized .unsigned
    | 'o' => sized .octal
    | 'x' => sized .hexadecimal
    | _ => .error letter

/-- The form that a letter stands for. -/
def formOf? (letter : Char) : Option Form :=
  match letter with
  | 'a' => some { shape := .named, size := 1 }
  | 'b' => some { shape := .octal, size := 1 }
  | 'c' => some { shape := .char, size := 1 }
  | 'd' => some { shape := .unsigned, size := 2 }
  | 'i' => some { shape := .signed, size := 4 }
  | 'l' => some { shape := .signed, size := 8 }
  | 'o' => some { shape := .octal, size := 2 }
  | 's' => some { shape := .signed, size := 2 }
  | 'x' => some { shape := .hexadecimal, size := 2 }
  | _ => none

/-- The lines of a text. -/
def lines (radix : Radix) (forms : List Form) (blockSize : Nat) (showsAll : Bool) :
    (place : Nat) → (before? : Option Octets) → (isSkipping : Bool) → List Octets → Octets
  | place, _, _, [] =>
    if radix == .none then [] else radix.show place ++ ['\n']
  | place, before?, isSkipping, block :: rest =>
    let next := place + block.length
    if !showsAll && before? == some block && block.length == blockSize then
      (if isSkipping then [] else ['*', '\n'])
        ++ lines radix forms blockSize showsAll next before? true rest
    else
      let lineWidth := ((forms.map fun form => (form.width + 1) * (blockSize / form.size)).max?).getD 0
      let shownPlace := radix.show place
      let shown := forms.zipIdx.flatMap fun (form, index) =>
        (if index = 0 then shownPlace else List.replicate shownPlace.length ' ')
          ++ form.line blockSize lineWidth block ++ ['\n']
      shown ++ lines radix forms blockSize showsAll next (some block) false rest

end Dump

open Dump

/-- Prints the bytes of texts. -/
def od : Tool := fun _ words => do
  let words := words.map fun word => if word == ['-', 'w'] then octets "-w32" else word
  let (options, operands) ← optionsOf
    { letters := valuedLetters "AtjNw" ++ plainLetters "vabcdilosx"
      names := [("address-radix", 'A'), ("format", 't'), ("skip-bytes", 'j'), ("read-bytes", 'N'),
        ("width", 'w'), ("output-duplicates", 'v')] } words
  let radix ← match (value? options 'A').getD ['o'] with
    | 'd' :: _ => pure Radix.decimal
    | 'o' :: _ => pure Radix.octal
    | 'x' :: _ => pure Radix.hexadecimal
    | 'n' :: _ => pure Radix.none
    | other =>
      stop 1 (octets "invalid output address radix '" ++ other.take 1
        ++ octets "'; it must be one character from [doxn]")
  let mut forms : List Form := []
  for (letter, value) in options do
    if letter == 't' then
      match readForms (value.length + 1) value with
      | .ok read => forms := forms ++ read
      | .error c =>
        stop 1 (octets "invalid character " ++ quoted [c] ++ octets " in type string "
          ++ quoted value)
    else if let some form := formOf? letter then forms := forms ++ [form]
  let chosen := if forms.isEmpty then [{ shape := .octal, size := 2 }] else forms
  let number (letter : Char) : Action (Option Nat) := do
    match value? options letter with
    | none => return none
    | some text =>
      match Integer.leading? true text with
      | some reading =>
        match sizeOf? ('1' :: reading.rest) with
        | some factor => return some (reading.value.toNat * (if reading.rest.isEmpty then 1 else factor))
        | none => stop 1 (octets ("invalid -" ++ letter.toString ++ " argument ") ++ quoted text)
      | none => stop 1 (octets ("invalid -" ++ letter.toString ++ " argument ") ++ quoted text)
  let skipped := (← number 'j').getD 0
  let limit? ← number 'N'
  let width := (← number 'w').getD 16
  let unit := ((chosen.map (·.size)).max?).getD 1
  let blockSize := if width = 0 || width % unit ≠ 0 then unit else width
  let (texts, failed) ← readInputs operands
  if texts.isEmpty then return 1
  let whole := texts.flatMap (·.2)
  if whole.length < skipped then stop 1 (octets "cannot skip past end of combined input")
  let text := whole.drop skipped
  let text := match limit? with
    | some limit => text.take limit
    | none => text
  let blocks := Encoding.chunks blockSize (text.length + 1) text
  Action.print (lines radix chosen blockSize (has options 'v') skipped none false blocks)
  return if failed then 1 else 0

end PromptScript.Shell.Tool
