import PromptScript.Shell.Tool.Notation
import PromptScript.Text.Digest

/-!
# Checksums

Tools that print the fingerprints of files, and that check files against a list of fingerprints.
A file name with a backslash or a line end is written with escapes, and a backslash stands before
its line.
-/

namespace PromptScript.Shell.Tool

open PromptScript.Text

namespace Checksum

/-- A way to make fingerprints, with the name that lists show. -/
structure Method where
  name : String
  /-- The number of bytes of a fingerprint. -/
  size : Nat
  digest : Bytes → Bytes

/-- The fingerprint of four words. -/
def md5 : Method := ⟨"MD5", 16, Digest.four⟩

/-- The fingerprint of five words. -/
def sha1 : Method := ⟨"SHA1", 20, Digest.five⟩

/-- The first bytes of a fingerprint of eight short words. -/
def sha224 : Method :=
  ⟨"SHA224", 28, fun text => (Digest.EightWords.narrow.digest
    (Digest.EightWords.narrow.otherStart) text).take 28⟩

/-- The fingerprint of eight short words. -/
def sha256 : Method :=
  ⟨"SHA256", 32, fun text => Digest.EightWords.narrow.digest
    Digest.EightWords.narrow.start text⟩

/-- The first bytes of a fingerprint of eight long words. -/
def sha384 : Method :=
  ⟨"SHA384", 48, fun text => (Digest.EightWords.wide.digest
    (Digest.EightWords.wide.otherStart) text).take 48⟩

/-- The fingerprint of eight long words. -/
def sha512 : Method :=
  ⟨"SHA512", 64, fun text => Digest.EightWords.wide.digest Digest.EightWords.wide.start text⟩

/-- The digits of some bytes. -/
def digits (bytes : Bytes) : Octets :=
  bytes.flatMap fun byte =>
    [Nat.digitChar (byte.toNat / 16), Nat.digitChar (byte.toNat % 16)]

/-- The fingerprint of a text, written with digits. -/
def Method.print (method : Method) (text : Octets) : Octets :=
  digits (method.digest (toBytes text))

/-- Whether a file name is written with escapes. -/
def needsEscape (path : Octets) : Bool :=
  path.any fun c => c == '\\' || c == '\n' || c == '\r'

/-- A file name with escapes. -/
def escape (path : Octets) : Octets :=
  path.flatMap fun c => match c with
    | '\\' => ['\\', '\\']
    | '\n' => ['\\', 'n']
    | '\r' => ['\\', 'r']
    | c => [c]

/-- Reads escapes again. -/
def unescape? : Octets → Option Octets
  | [] => some []
  | '\\' :: '\\' :: rest => (unescape? rest).map ('\\' :: ·)
  | '\\' :: 'n' :: rest => (unescape? rest).map ('\n' :: ·)
  | '\\' :: 'r' :: rest => (unescape? rest).map ('\r' :: ·)
  | '\\' :: _ => none
  | c :: rest => (unescape? rest).map (c :: ·)

/-- Reading takes back what writing does. -/
theorem unescape?_escape (path : Octets) : unescape? (escape path) = some path := by
  induction path with
  | nil => rfl
  | cons c rest ih =>
    have split : escape (c :: rest) = escape [c] ++ escape rest := by simp [escape]
    rw [split]
    by_cases h : c = '\\'
    · subst h; simp [escape, unescape?] at ih ⊢; exact ih
    by_cases hn : c = '\n'
    · subst hn; simp [escape, unescape?] at ih ⊢; exact ih
    by_cases hr : c = '\r'
    · subst hr; simp [escape, unescape?] at ih ⊢; exact ih
    have plain : escape [c] = [c] := by simp [escape]
    rw [plain, List.singleton_append, unescape?, ih]
    · rfl
    all_goals simp_all

/-- How fingerprints are listed. -/
structure Style where
  isTagged : Bool := false
  isBinary : Bool := false
  /-- What stands at the end of a line. -/
  mark : Char := '\n'

/-- A line of a list. -/
def Style.line (style : Style) (method : Method) (path text : Octets) : Octets :=
  let escapes := style.mark == '\n' && needsEscape path
  let shown := if escapes then escape path else path
  let sum := method.print text
  (if escapes then ['\\'] else [])
    ++ (if style.isTagged then octets (method.name ++ " (") ++ shown ++ octets ") = " ++ sum
      else sum ++ octets (if style.isBinary then " *" else "  ") ++ shown)
    ++ [style.mark]

/-- A line of a list that is read: the digits and the file. -/
structure Entry where
  sum : Octets
  path : Octets

/-- Whether a character is a digit to the base 16. -/
def isDigit (c : Char) : Bool :=
  c.isDigit || ('a' ≤ c && c ≤ 'f') || ('A' ≤ c && c ≤ 'F')

/-- Whether a character parts the pieces of a line. -/
def isGap (c : Char) : Bool :=
  c == ' ' || c == '\t'

/-- The file name of an entry. -/
def pathOf? (isEscaped : Bool) (path : Octets) : Option Octets :=
  if isEscaped then unescape? path else some path

/-- Reads a line that begins with a tag, behind the opening bracket. -/
def readTagged? (method : Method) (isEscaped : Bool) (rest : Octets) : Option Entry :=
  let behind := (rest.reverse.takeWhile (· != ')')).reverse
  if behind.length = rest.length then none
  else
    match behind.dropWhile isGap with
    | '=' :: sum =>
      let sum := sum.dropWhile isGap
      if sum.length = 2 * method.size && sum.all isDigit then
        (pathOf? isEscaped (rest.take (rest.length - behind.length - 1))).map (Entry.mk sum)
      else none
    | _ => none

/-- Reads a line of a list.  The flag says whether lines have only one blank behind the digits, where
that is settled; so it is by the first line. -/
def readEntry? (method : Method) (isShort? : Option Bool) (line : Octets) :
    Option (Entry × Option Bool) :=
  let line := line.dropWhile isGap
  let (isEscaped, line) := match line with
    | '\\' :: rest => (true, rest)
    | _ => (false, line)
  let tag := method.name.toList
  if tag.isPrefixOf line then
    let behind := line.drop tag.length
    let behind := if behind.head? == some ' ' then behind.drop 1 else behind
    match behind with
    | '(' :: rest => (readTagged? method isEscaped rest).map fun entry => (entry, isShort?)
    | _ => none
  else if line.length < 2 * method.size + 2 then none
  else
    let sum := line.takeWhile isDigit
    if sum.length ≠ 2 * method.size then none
    else
      match line.drop sum.length with
      | gap :: rest =>
        if !isGap gap then none
        else
          let looksShort := rest.length == 1 || !(rest.head? == some ' ' || rest.head? == some '*')
          if looksShort && isShort? == some false then none
          else
            let isShort := looksShort || isShort? == some true
            (pathOf? isEscaped (if isShort then rest else rest.drop 1)).map fun path =>
              (⟨sum, path⟩, some isShort)
      | [] => none

/-- How files are checked. -/
structure Checking where
  isSilent : Bool := false
  isQuiet : Bool := false
  warns : Bool := false
  isStrict : Bool := false
  skipsMissing : Bool := false

/-- What a check counted. -/
structure Tally where
  proper : Nat := 0
  improper : Nat := 0
  unread : Nat := 0
  different : Nat := 0
  equal : Nat := 0
  isShort? : Option Bool := none

/-- A message about a number of things. -/
def warnCount (count : Nat) (one many : String) : Action Unit := do
  if count = 1 then complain (octets "WARNING: 1 " ++ octets one)
  else if 1 < count then
    complain (octets "WARNING: " ++ decimal count ++ octets (" " ++ many))

/-- Checks the file of one line. -/
def checkEntry (method : Method) (how : Checking) (entry : Entry) (tally : Tally) :
    Action Tally := do
  let say (verdict : String) : Action Unit := do
    let escapes := needsEscape entry.path
    Action.print ((if escapes then ['\\'] else [])
      ++ (if escapes then escape entry.path else entry.path) ++ octets (": " ++ verdict ++ "\n"))
  let tally := { tally with proper := tally.proper + 1 }
  match ← readFile entry.path with
  | .error cause =>
    if how.skipsMissing && cause == .notFound then return tally
    complainFile entry.path cause
    if !how.isSilent then say "FAILED open or read"
    return { tally with unread := tally.unread + 1 }
  | .ok text =>
    if method.print text == entry.sum.map Char.toLower then
      if !how.isSilent && !how.isQuiet then say "OK"
      return { tally with equal := tally.equal + 1 }
    else
      if !how.isSilent then say "FAILED"
      return { tally with different := tally.different + 1 }

/-- Checks the files of a list, and says whether all is well. -/
def check (method : Method) (how : Checking) (operand : Octets) : Action Bool := do
  let isInput := operand == ['-']
  let name := if isInput then octets "'standard input'" else Quotation.asNeeded operand
  match ← readFile operand with
  | .error cause =>
    complainFile operand cause
    return false
  | .ok text =>
    let mut tally : Tally := {}
    for (line, place) in (Lines.ofText text).zipIdx do
      let line := if line.getLast? == some '\r' then line.dropLast else line
      if line.head? == some '#' || line.isEmpty then continue
      match readEntry? method tally.isShort? line with
      | some (entry, isShort?) =>
        tally := { tally with isShort? }
        if isInput && entry.path == ['-'] then
          tally := { tally with improper := tally.improper + 1 }
        else tally ← checkEntry method how entry tally
      | none =>
        if how.warns then
          complain (name ++ octets ": " ++ decimal (place + 1)
            ++ octets (": improperly formatted " ++ method.name ++ " checksum line"))
        tally := { tally with improper := tally.improper + 1 }
    if tally.proper = 0 then
      complain (name ++ octets ": no properly formatted checksum lines found")
    else if !how.isSilent then
      warnCount tally.improper "line is improperly formatted" "lines are improperly formatted"
      warnCount tally.unread "listed file could not be read" "listed files could not be read"
      warnCount tally.different "computed checksum did NOT match"
        "computed checksums did NOT match"
      if how.skipsMissing && tally.equal = 0 then complain (name ++ octets ": no file was verified")
    return tally.proper ≠ 0 && tally.equal ≠ 0 && tally.different = 0 && tally.unread = 0
      && !(how.isStrict && tally.improper ≠ 0)

/-- The options of the tools. -/
def accepted : Accepted :=
  { letters := plainLetters "bctwz"
    names := [("binary", 'b'), ("check", 'c'), ("text", 't'), ("warn", 'w'), ("zero", 'z'),
      ("tag", 'T'), ("quiet", 'Q'), ("status", 'S'), ("strict", 'G'), ("ignore-missing", 'I')] }

/-- Prints or checks the fingerprints of some files. -/
def run (method : Method) (options : List Given) (operands : List Octets) : Action Nat := do
  let checks := has options 'c'
  let operands := if operands.isEmpty then [['-']] else operands
  let last := (options.filter fun option => option.1 == 'b' || option.1 == 't'
    || option.1 == 'T').getLast?.map (·.1)
  if has options 'T' && last == some 't' then
    misuse 1 (octets "--tag does not support --text mode")
  if checks then
    if has options 'T' then
      misuse 1 (octets "the --tag option is meaningless when verifying checksums")
    if has options 'z' then
      misuse 1 (octets "the --zero option is not supported when verifying checksums")
    if has options 'b' || has options 't' then
      misuse 1
        (octets "the --binary and --text options are meaningless when verifying checksums")
    let mut failed := false
    for operand in operands do
      let how : Checking :=
        { isSilent := has options 'S', isQuiet := has options 'Q', warns := has options 'w',
          isStrict := has options 'G', skipsMissing := has options 'I' }
      if !(← check method how operand) then failed := true
    return if failed then 1 else 0
  for (letter, name) in [('I', "ignore-missing"), ('S', "status"), ('w', "warn"), ('Q', "quiet"),
      ('G', "strict")] do
    if has options letter then
      misuse 1 (octets ("the --" ++ name ++ " option is meaningful only when verifying checksums"))
  let style : Style :=
    { isTagged := has options 'T'
      isBinary := last == some 'b'
      mark := if has options 'z' then '\x00' else '\n' }
  let mut failed := false
  for operand in operands do
    match ← readFile operand with
    | .ok text => Action.print (style.line method operand text)
    | .error cause =>
      complainFile operand cause
      failed := true
  return if failed then 1 else 0

/-- A tool that makes fingerprints in one way. -/
def tool (method : Method) : Tool := fun _ words => do
  let (options, operands) ← optionsOf accepted words
  run method options operands

/-- Prints sums of some files by a way to write the sum and size of one. -/
def printSums (mark : Char) (write : Octets → Octets) (operands : List Octets) : Action Nat := do
  let mut failed := false
  for operand in if operands.isEmpty then [['-']] else operands do
    match ← readFile operand with
    | .ok text =>
      let shown := if operands.isEmpty then [] else ' ' :: operand
      Action.print (write text ++ shown ++ [mark])
    | .error cause =>
      complainFile operand cause
      failed := true
  return if failed then 1 else 0

/-- The turned sum of a text, and its size in blocks of 1024 bytes. -/
def writeTurned (text : Octets) : Octets :=
  let sum := decimal (Digest.turnedSum (toBytes text))
  List.replicate (5 - sum.length) '0' ++ sum ++ ' '
    :: Lines.padLeft 5 (decimal ((text.length + 1023) / 1024))

/-- The plain sum of a text, and its size in blocks of 512 bytes. -/
def writePlain (text : Octets) : Octets :=
  decimal (Digest.plainSum (toBytes text)) ++ ' ' :: decimal ((text.length + 511) / 512)

/-- The cyclic sum of a text, and its size. -/
def writeCyclic (text : Octets) : Octets :=
  decimal (Digest.cyclicSum (toBytes text)) ++ ' ' :: decimal text.length

/-- The methods by the names that options give them. -/
def methods : List (String × Method) :=
  [("md5", md5), ("sha1", sha1), ("sha224", sha224), ("sha256", sha256), ("sha384", sha384),
    ("sha512", sha512)]

end Checksum

open Checksum

/-- Prints turned or plain sums of files. -/
def sum : Tool := fun _ words => do
  let (options, operands) ← optionsOf
    { letters := plainLetters "rs", names := [("sysv", 's')] } words
  let isPlain := (options.getLast?.map (·.1)) == some 's'
  printSums '\n' (if isPlain then writePlain else writeTurned) operands

/-- Prints cyclic sums of files, or their fingerprints. -/
def cksum : Tool := fun _ words => do
  let (options, operands) ← optionsOf
    { accepted with
      letters := ('a', true) :: accepted.letters
      names := ("algorithm", 'a') :: ("untagged", 'U') :: accepted.names } words
  let mark := if has options 'z' then '\x00' else '\n'
  match (value? options 'a').map display with
  | none | some "crc" =>
    if has options 'c' then
      misuse 1 (octets "--check is not supported with --algorithm=\x7bbsd,sysv,crc\x7d")
    printSums mark writeCyclic operands
  | some "bsd" => printSums mark writeTurned operands
  | some "sysv" => printSums mark writePlain operands
  | some name =>
    match methods.lookup name with
    | some method =>
      let kept := options.filter fun option => option.1 != 'U' && option.1 != 'a'
      let isTagged := !has options 'U' && !has options 'c'
      run method (if isTagged then ('T', []) :: kept else kept) operands
    | none =>
      complain (octets "invalid argument '" ++ octets name ++ octets "' for '--algorithm'")
      Action.complain (octets "Valid arguments are:\n"
        ++ ["bsd", "sysv", "crc", "md5", "sha1", "sha224", "sha256", "sha384", "sha512", "blake2b",
          "sm3"].flatMap fun name => octets ("  - '" ++ name ++ "'\n"))
      tryHelp
      return 1

end PromptScript.Shell.Tool
