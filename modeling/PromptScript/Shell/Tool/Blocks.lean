import PromptScript.Shell.Tool.Basic

/-!
# Blocks

The tool that copies a text block by block.  It counts the blocks that it read and wrote, the full
ones apart from those that were cut short.
-/

namespace PromptScript.Shell.Tool

namespace Blocks

/-- What is copied, and how. -/
structure Copy where
  source? : Option Octets := none
  target? : Option Octets := none
  /-- The length of the blocks that are read. -/
  taken : Nat := 512
  /-- The length of the blocks that are written. -/
  given : Nat := 512
  /-- Whether blocks are written as they are read. -/
  isDirect : Bool := false
  count? : Option Nat := none
  skipped : Nat := 0
  /-- The number of blocks of the target that are passed over. -/
  passed : Nat := 0
  changes : List String := []
  status : String := ""

/-- The number that a product of counts writes; zero where it may not be used. -/
def size? (text : Octets) : Option Nat :=
  (Lines.pieces 'x' text).foldl (fun product piece => do
    let factor ← match piece.reverse with
      | 'c' :: digits => sizeOf? digits.reverse
      | 'w' :: digits => (sizeOf? digits.reverse).map (2 * ·)
      | _ => sizeOf? piece
    return (← product) * factor) (some 1)

/-- A number of an operand. -/
def sizeFor (least : Nat) (text : Octets) : Action Nat := do
  match size? text with
  | some size =>
    if size < least then stop 1 (octets "invalid number: " ++ quoted text)
    return size
  | none => stop 1 (octets "invalid number: " ++ quoted text)

/-- The names of changes. -/
def changeNames : List String :=
  ["ascii", "ebcdic", "ibm", "block", "unblock", "lcase", "ucase", "sparse", "swab", "sync", "excl",
    "nocreat", "notrunc", "noerror", "fdatasync", "fsync"]

/-- The names of flags, which change nothing here. -/
def flagNames : List String :=
  ["append", "direct", "directory", "dsync", "sync", "fullblock", "nonblock", "noatime", "nocache",
    "noctty", "nofollow", "count_bytes", "skip_bytes", "seek_bytes"]

/-- The copy with one more operand. -/
def Copy.with (copy : Copy) (word : Octets) : Action Copy := do
  let key := String.ofList (word.takeWhile (· != '='))
  let value := word.drop (key.length + 1)
  let names (what : String) (known : List String) : Action (List String) :=
    (Lines.pieces ',' value).mapM fun piece => do
      if !known.contains (display piece) then
        misuse 1 (octets ("invalid " ++ what ++ ": ") ++ quoted piece)
      return display piece
  if !word.contains '=' then
    misuse 1 (octets "unrecognized operand " ++ quoted word)
  match key with
  | "if" => return { copy with source? := some value }
  | "of" => return { copy with target? := some value }
  | "bs" => do
    let size ← sizeFor 1 value
    return { copy with taken := size, given := size, isDirect := true }
  | "ibs" => return { copy with taken := ← sizeFor 1 value }
  | "obs" => return { copy with given := ← sizeFor 1 value }
  | "cbs" => return copy
  | "count" => return { copy with count? := some (← sizeFor 0 value) }
  | "skip" | "iseek" => return { copy with skipped := ← sizeFor 0 value }
  | "seek" | "oseek" => return { copy with passed := ← sizeFor 0 value }
  | "conv" => return { copy with changes := copy.changes ++ (← names "conversion" changeNames) }
  | "iflag" => do
    let _ ← names "input flag" flagNames
    return copy
  | "oflag" => do
    let _ ← names "output flag" flagNames
    return copy
  | "status" => do
    let _ ← names "status level" ["none", "noxfer", "progress"]
    return { copy with status := display value }
  | _ => misuse 1 (octets "unrecognized operand " ++ quoted word)

/-- Exchanges the characters of pairs. -/
def swapped : Octets → Octets
  | a :: b :: rest => b :: a :: swapped rest
  | rest => rest

/-- A text with the changes of a copy. -/
def Copy.change (copy : Copy) (text : Octets) : Octets :=
  let filled := if copy.changes.contains "sync" then
      text ++ List.replicate ((copy.taken - text.length % copy.taken) % copy.taken) '\x00'
    else text
  let turned := if copy.changes.contains "swab" then swapped filled else filled
  if copy.changes.contains "ucase" then turned.map Char.toUpper
  else if copy.changes.contains "lcase" then turned.map Char.toLower
  else turned

/-- How many blocks of a length a text has, and whether one more is cut short. -/
def blockCounts (length : Nat) (text : Octets) : Octets :=
  decimal (text.length / length) ++ '+' :: decimal (if text.length % length = 0 then 0 else 1)

/-- The text that a copy copies. -/
def Copy.read (copy : Copy) : Action (Except FileError Octets) := do
  let wanted? := copy.count?.map fun count => (copy.skipped + count) * copy.taken
  let cut (text : Octets) : Octets × Octets :=
    match wanted? with
    | some wanted => text.splitAt wanted
    | none => (text, [])
  let found ← match copy.source? with
    | some path =>
      if isEndless path && wanted?.isSome then
        pure (Except.ok (Action.zerosFor fun text => (cut text).2.isEmpty))
      else readFile path
    | none => do
      match wanted? with
      | some 0 => pure (Except.ok [])
      | some _ => pure (Except.ok (← Action.takeSome 0 cut))
      | none => pure (Except.ok (← Action.readAll))
  return found.map fun text => (cut text).1.drop (copy.skipped * copy.taken)

/-- Writes the text of a copy; the result says whether that was possible. -/
def Copy.write (copy : Copy) (text : Octets) : Action Bool := do
  match copy.target? with
  | none =>
    Action.print text
    return true
  | some path =>
    let before := match (← get).tree.read (display path) with
      | .ok bytes => ofBytes bytes
      | .error _ => []
    let start := copy.passed * copy.given
    let lead := before.take start ++ List.replicate (start - before.length) '\x00'
    let tail := if copy.changes.contains "notrunc" then before.drop (start + text.length) else []
    match ← writeFile path false (lead ++ text ++ tail) with
    | .ok () => return true
    | .error cause =>
      complain (octets "failed to open " ++ quoted path ++ octets (": " ++ reasonOf cause))
      return false

/-- What is reported about a copy. -/
def Copy.report (copy : Copy) (source target : Octets) : Octets :=
  let taken := blockCounts copy.taken source
  let given := if copy.isDirect && !copy.changes.contains "sync" then taken
    else blockCounts copy.given target
  taken ++ octets " records in\n" ++ given ++ octets " records out\n"
    ++ if copy.status == "noxfer" then []
      else decimal target.length ++ octets " bytes copied, 0.0001 s, 0.0 kB/s\n"

end Blocks

open Blocks

/-- Copies a text in blocks. -/
def dd : Tool := fun _ words => do
  let (_, operands) ← optionsOf {} words
  let mut copy : Copy := {}
  for word in operands do
    copy ← copy.with word
  match ← copy.read with
  | .error .isDirectory =>
    complain (octets "error reading " ++ quoted (copy.source?.getD []) ++ octets ": Is a directory")
    if copy.status != "none" then Action.complain (copy.report [] [])
    return 1
  | .error cause =>
    stop 1 (octets "failed to open " ++ quoted (copy.source?.getD [])
      ++ octets (": " ++ reasonOf cause))
  | .ok text =>
    let changed := copy.change text
    if !(← copy.write changed) then return 1
    if copy.status != "none" then Action.complain (copy.report text changed)
    return 0

end PromptScript.Shell.Tool
