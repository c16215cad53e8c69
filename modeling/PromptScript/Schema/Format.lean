import PromptScript.Text.Basic
import PromptScript.Text.Category
import PromptScript.Text.Property
import PromptScript.Text.WritingSystem
import PromptScript.Uri.Basic
import PromptScript.Uri.Reader

/-!
# Formats

The formats of texts that a schema can ask for, but for addresses, which are read elsewhere.
-/

namespace PromptScript.Schema.Format

/-!
## Names of hosts and mailboxes

A host is named by labels with points between them.  International names may hold letters beyond
ASCII, but for some that depend on their neighbours.  A mailbox is a local part and a host.
-/

open Text

/-- Whether a label is made of letters, digits and inner hyphens. -/
def isLabel (label : List Char) : Bool :=
  !label.isEmpty && label.length ≤ 63 && label.head? != some '-' && label.getLast? != some '-'
    && label.all fun c => c.isAlphanum || c == '-'

/-- Whether a text names a host. -/
def isHostname (text : List Char) : Bool :=
  text.length ≤ 255 && (splitAt '.' text).all isLabel

/-- Characters that no international name holds. -/
def neverInNames : List Nat :=
  [0x0640, 0x07FA, 0x302E, 0x302F, 0x3031, 0x3032, 0x3033, 0x3034, 0x3035, 0x303B]

/-- The signs that mute the vowel of a letter, behind which letters may be joined. -/
def viramas : List Nat :=
  [0x094D, 0x09CD, 0x0A4D, 0x0ACD, 0x0B4D, 0x0BCD, 0x0C4D, 0x0CCD, 0x0D3B, 0x0D3C, 0x0D4D, 0x0DCA,
    0x0E3A, 0x0EBA, 0x0F84, 0x1039, 0x103A, 0x1714, 0x1734, 0x17D2, 0x1A60, 0x1B44, 0x1BAA, 0x1BAB,
    0x1BF2, 0x1BF3, 0x2D7F, 0xA806, 0xA8C4, 0xA953, 0xA9C0, 0xAAF6, 0xABED]

/-- Whether a character belongs to the writing system with a code. -/
def isWrittenIn (code : String) (c : Char) : Bool :=
  writingOf c == ⟨code⟩

/-- Whether a character may stand between its neighbours. -/
def fitsBetween (before : Option Char) (c : Char) (after : Option Char) : Bool :=
  match c.toNat with
  | 0x200D => before.any fun b => viramas.contains b.toNat
  | 0x00B7 => before == some 'l' && after == some 'l'
  | 0x0375 => after.any (isWrittenIn "Grek")
  | 0x05F3 | 0x05F4 => before.any (isWrittenIn "Hebr")
  | code => !neverInNames.contains code

/-- Whether every character of a text may stand between its neighbours. -/
def allFit (before : Option Char) : List Char → Bool
  | [] => true
  | c :: rest => fitsBetween before c rest.head? && allFit (some c) rest

/-- Whether a character can be written in an international name. -/
def isNameChar (c : Char) : Bool :=
  if c.toNat < 128 then c.isAlphanum || c == '-'
  else
    match categoryOf c with
    | .control | .unassigned | .privateUse | .surrogate | .spaceSeparator | .lineSeparator
    | .paragraphSeparator => false
    | _ => true

/-- Whether a label is made of characters for international names; it begins with no mark and has
no two hyphens at its third place. -/
def isInternationalLabel (label : List Char) : Bool :=
  !label.isEmpty && label.length ≤ 63 && label.head? != some '-' && label.getLast? != some '-'
    && !label.head?.any (fun c => (categoryOf c).isMark)
    && ((label.drop 2).take 2 != ['-', '-'] || (label.all (·.toNat < 128) && label.take 2 == ['x', 'n']))
    && label.all isNameChar

/-- Whether a text names a host, be it with letters beyond ASCII. -/
def isInternationalHostname (text : List Char) : Bool :=
  let points : List Nat := [0x3002, 0xFF0E, 0xFF61]
  let plain := text.map fun c => if points.contains c.toNat then '.' else c
  let holds (code low high : Nat) := low ≤ code && code ≤ high
  let anyIn (low high : Nat) := text.any fun c => holds c.toNat low high
  let middleDot := text.any (·.toNat == 0x30FB)
  let eastern := text.any fun c => c.toNat != 0x30FB
    && (isWrittenIn "Hira" c || isWrittenIn "Kana" c || isWrittenIn "Hani" c)
  allFit none text && (!middleDot || eastern)
    && !(anyIn 0x0660 0x0669 && anyIn 0x06F0 0x06F9)
    && (splitAt '.' plain).all isInternationalLabel

/-- Whether a character is a letter or a numeral. -/
def isLetterOrNumeral (c : Char) : Bool :=
  Property.isAlphabetic c
    || [Category.decimalNumber, .letterNumber, .otherNumber].contains (categoryOf c)

/-- Whether a character may stand in an unquoted part of a mailbox. -/
def inAtom (c : Char) : Bool :=
  128 ≤ c.toNat || c.isAlphanum || "!#$%&'*+-/=?^_`\x7b|\x7d~".toList.contains c

/-- Whether a text is quoted content: blanks and visible characters, where a backslash takes the
next one as it is. -/
def isQuotedContent : List Char → Bool
  | [] => true
  | '\\' :: c :: rest => '!' ≤ c && c ≤ '~' && isQuotedContent rest
  | c :: rest =>
    (c == ' ' || c == '\t' || c == '!' || ('#' ≤ c && c ≤ '[') || (']' ≤ c && c ≤ '~')
      || 128 ≤ c.toNat) && isQuotedContent rest

/-- Whether a text is the local part of a mailbox. -/
def isLocalPart (text : List Char) : Bool :=
  if text.isEmpty || 64 < byteLength text then false
  else if text.head? == some '"' && text.getLast? == some '"' then
    2 < text.length && isQuotedContent (text.drop 1).dropLast
  else (splitAt '.' text).all fun atom => !atom.isEmpty && atom.all inAtom

/-- Whether a text is one label of the host of a mailbox. -/
def isMailLabel (label : List Char) : Bool :=
  label.head?.any isLetterOrNumeral && label.getLast?.any isLetterOrNumeral
    && byteLength label ≤ 63 && label.all inAtom

/-- The number of a host in brackets. -/
def isLiteralHost (text : List Char) : Bool :=
  match dropLead? "IPv6:".toList text with
  | some number => Uri.isVersionSix number
  | none => Uri.isVersionFour text

/-- Whether a text is the host of a mailbox, where names of hosts are checked by the given test. -/
def isMailHost (isHost : List Char → Bool) (text : List Char) : Bool :=
  if 254 < byteLength text then false
  else if text.head? == some '[' && text.getLast? == some ']' && 1 < text.length then
    isLiteralHost (text.drop 1).dropLast
  else (splitAt '.' text).all isMailLabel && isHost text

/-- The texts before and behind the last occurrence of a character. -/
def cutAtLast? (mark : Char) (text : List Char) : Option (List Char × List Char) :=
  (cutAt? mark text.reverse).map fun (after, before) => (before.reverse, after.reverse)

/-- The mailbox of a text, which may stand in angles behind a name. -/
def bareMailbox? (text : List Char) : Option (List Char) :=
  match cutAtText? ['<', ' '] text.reverse with
  | none => some text
  | some (behind, _) =>
    match (dropAround behind.reverse).reverse with
    | '>' :: inner => some inner.reverse
    | _ => none

/-- Whether a text is a mailbox, where names of hosts are checked by the given test. -/
def isMailbox (isHost : List Char → Bool) (text : List Char) : Bool :=
  match (bareMailbox? text).bind (cutAtLast? '@') with
  | some (localPart, host) => isLocalPart localPart && isMailHost isHost host
  | none => false

end PromptScript.Schema.Format

namespace PromptScript.Schema.Format

/-!
## Written dates, times, pointers and templates

Days of the calendar and times of the day with a distance from universal time; a minute has a
sixty-first second only at the end of a day of universal time.  Pointers into a value from its root
or from a place in it, and addresses with gaps to be filled.
-/

/-- The number that decimal digits write. -/
def decimal (digits : List Char) : Nat :=
  digits.foldl (fun value d => value * 10 + (d.toNat - 48)) 0

/-- The number that exactly so many digits write. -/
def digits? (count : Nat) (text : List Char) : Option Nat :=
  if text.length == count && text.all Char.isDigit then some (decimal text) else none

/-- The number of days of a month. -/
def daysOf (year month : Nat) : Nat :=
  if month == 2 then
    if year % 4 == 0 && (year % 100 != 0 || year % 400 == 0) then 29 else 28
  else if [4, 6, 9, 11].contains month then 30
  else 31

/-- Whether a text is a day of the calendar. -/
def isDate (text : List Char) : Bool :=
  match Text.splitAt '-' text with
  | [year, month, day] =>
    match digits? 4 year, digits? 2 month, digits? 2 day with
    | some year, some month, some day =>
      1 ≤ month && month ≤ 12 && 1 ≤ day && day ≤ daysOf year month
    | _, _, _ => false
  | _ => false

/-- The number of minutes of hours and minutes with a colon between them. -/
def minutes? (text : List Char) : Option Nat :=
  match Text.splitAt ':' text with
  | [hour, minute] =>
    match digits? 2 hour, digits? 2 minute with
    | some hour, some minute => if hour < 24 && minute < 60 then some (hour * 60 + minute) else none
    | _, _ => none
  | _ => none

/-- The number of minutes to add to a time to come to universal time, up to whole days. -/
def distance? : List Char → Option Nat
  | ['Z'] | ['z'] => some 0
  | '+' :: rest => (minutes? rest).map fun minutes => 1440 - minutes
  | '-' :: rest => minutes? rest
  | _ => none

/-- A text without a point and digits at its beginning. -/
def dropFraction? : List Char → Option (List Char)
  | '.' :: rest =>
    let digits := rest.takeWhile Char.isDigit
    if digits.isEmpty then none else some (rest.drop digits.length)
  | text => some text

/-- Whether a text is a time of the day with its distance from universal time. -/
def isTime (text : List Char) : Bool :=
  match text.drop 5 with
  | ':' :: rest =>
    match minutes? (text.take 5), digits? 2 (rest.take 2),
        (dropFraction? (rest.drop 2)).bind distance? with
    | some minutes, some second, some distance =>
      second < 60 || (second == 60 && (minutes + distance) % 1440 == 1439)
    | _, _, _ => false
  | _ => false

/-- Whether a text is a day and a time with a letter T between them. -/
def isMoment (text : List Char) : Bool :=
  let day := text.takeWhile fun c => c != 'T' && c != 't'
  match text.drop day.length with
  | _ :: time => isDate day && isTime time
  | [] => false

/-- Whether every tilde of a text is followed by a zero or a one. -/
def areTildesPaired : List Char → Bool
  | '~' :: c :: rest => (c == '0' || c == '1') && areTildesPaired rest
  | ['~'] => false
  | _ :: rest => areTildesPaired rest
  | [] => true

/-- Whether a text is a pointer from the root of a value. -/
def isPointer (text : List Char) : Bool :=
  text.isEmpty || (text.head? == some '/' && areTildesPaired text)

/-- Whether a text is a pointer from a place: a number of steps up, and a pointer from there or a
mark that asks for the name of the place. -/
def isRelativePointer (text : List Char) : Bool :=
  let steps := text.takeWhile Char.isDigit
  let rest := text.drop steps.length
  !steps.isEmpty && (steps.length == 1 || steps.head? != some '0')
    && (rest == ['#'] || isPointer rest)

/-- Whether a character is a digit of an encoded octet in a template. -/
def isLowerHex (c : Char) : Bool :=
  c.isDigit || ('a' ≤ c && c ≤ 'f')

/-- The text behind the longest name of a gap, and whether there was one. -/
def dropGapName (found : Bool) : List Char → Bool × List Char
  | '%' :: a :: b :: rest =>
    if isLowerHex a && isLowerHex b then dropGapName true rest else (found, '%' :: a :: b :: rest)
  | c :: rest =>
    if c.isDigit || ('a' ≤ c && c ≤ 'z') || c == '_' then dropGapName true rest
    else (found, c :: rest)
  | [] => (found, [])

/-- Whether a text is a name of a gap with a length or a mark for lists behind it. -/
def isGapName (text : List Char) : Bool :=
  match dropGapName false text with
  | (false, _) => false
  | (true, []) | (true, ['*']) => true
  | (true, ':' :: digits) =>
    digits.head?.any (fun d => '1' ≤ d && d ≤ '9') && digits.length ≤ 4 && digits.all Char.isDigit
  | _ => false

/-- Whether a text is what stands between the braces of a gap. -/
def isGap (text : List Char) : Bool :=
  let names := match text with
    | c :: rest => if "+#./;?&=,!@|".toList.contains c then rest else text
    | [] => []
  (Text.splitAt ',' names).all isGapName

/-- Whether a character may stand in a template outside of its gaps. -/
def inTemplate (c : Char) : Bool :=
  ' ' < c && !("\"'<>%\\^`\x7b|\x7d".toList.contains c)

/-- Whether a text is an address with gaps.  Inside of a gap its text is kept in reverse. -/
def isTemplateFrom : Option (List Char) → List Char → Bool
  | none, '%' :: a :: b :: rest => isLowerHex a && isLowerHex b && isTemplateFrom none rest
  | none, c :: rest =>
    if c == '\x7b' then isTemplateFrom (some []) rest else inTemplate c && isTemplateFrom none rest
  | some gap, c :: rest =>
    if c == '\x7d' then isGap gap.reverse && isTemplateFrom none rest
    else isTemplateFrom (some (c :: gap)) rest
  | none, [] => true
  | some _, [] => false

/-- Whether a text is an address with gaps to be filled. -/
def isTemplate (text : List Char) : Bool :=
  isTemplateFrom none text

end PromptScript.Schema.Format
