import PromptScript.Pattern.CharSet
import PromptScript.Shell.Tool.Basic

/-!
# Letters for letters

The tool that puts characters in the place of others, takes characters away, and lets runs of one
character shrink.
-/

namespace PromptScript.Shell.Tool

namespace Letters

/-- A part of a list of characters. -/
inductive Item where
  | chars (members : Octets)
  /-- The members of a named class. -/
  | named (name : String) (members : Octets)
  /-- A character that is repeated, as often as needed where no count is given. -/
  | many (c : Char) (count? : Option Nat)

/-- Why a text is no list of characters. -/
inductive Fault where
  | reversed (low high : Octets)
  | badClass (name : Octets)
  | badCount (text : Octets)

/-- The wording of a fault. -/
def Fault.message : Fault → Octets
  | reversed low high =>
    octets "range-endpoints of '" ++ low ++ '-' :: high
      ++ octets "' are in reverse collating sequence order"
  | badClass name => octets "invalid character class " ++ quoted name
  | badCount text =>
    octets "invalid repeat count " ++ quoted text ++ octets " in [c*n] construct"

/-- All characters, in order. -/
def alphabet : Octets := (List.range 256).map Char.ofNat

/-- A character that may be written with an escape, how it is written, and what follows it. -/
def readChar : Octets → Option (Char × Bool × Octets)
  | [] => none
  | ['\\'] => some ('\\', false, [])
  | '\\' :: c :: rest =>
    let digits := Printf.octalDigits 3 (c :: rest)
    if digits.isEmpty then some ((Printf.escapeOf? c).getD c, true, rest)
    else
      let digits := if 256 ≤ Integer.ofDigits 8 digits then digits.take 2 else digits
      some (Printf.octalChar digits, true, (c :: rest).drop digits.length)
  | c :: rest => some (c, false, rest)

/-- The construct in brackets at the beginning of a text, and what follows it. -/
def bracket? (text : Octets) : Except Fault (Option (Item × Octets)) :=
  let named (mark : Char) (rest : Octets) : Option (Octets × Octets) :=
    ((List.range rest.length).find? fun place =>
      0 < place && rest[place]? == some mark && rest[place + 1]? == some ']').map fun place =>
        (rest.take place, rest.drop (place + 2))
  let repeated : Except Fault (Option (Item × Octets)) :=
    match readChar (text.drop 1) with
    | some (c, _, '*' :: rest) =>
      let count := rest.takeWhile (· != ']')
      match rest.drop count.length with
      | [] => .ok none
      | _ :: after =>
        if count.isEmpty then .ok (some (.many c none, after))
        else if count.all Char.isDigit then
          let base := if count.head? == some '0' then 8 else 10
          let number := Integer.ofDigits base count
          .ok (some (.many c (if number = 0 then none else some number), after))
        else .error (.badCount count)
    | _ => .ok none
  match text with
  | '[' :: ':' :: rest =>
    match named ':' rest with
    | some (name, after) =>
      match Pattern.CharSet.named? (String.ofList name) with
      | some set => .ok (some (.named (String.ofList name) (alphabet.filter set.contains), after))
      | none => .error (.badClass name)
    | none => repeated
  | '[' :: '=' :: rest =>
    match named '=' rest with
    | some ([c], after) => .ok (some (.chars [c], after))
    | _ => repeated
  | '[' :: _ => repeated
  | _ => .ok none

/-- Reads a list of characters. -/
def readItems : Nat → Octets → Except Fault (List Item)
  | 0, _ => .ok []
  | fuel + 1, text => do
    match ← bracket? text with
    | some (item, rest) => return item :: (← readItems fuel rest)
    | none =>
      match readChar text with
      | none => return []
      | some (low, _, rest) =>
        match rest with
        | '-' :: later =>
          match readChar later with
          | some (high, _, rest) =>
            if high < low then
              throw (.reversed (shown low) (shown high))
            let members := alphabet.filter fun c => low ≤ c && c ≤ high
            return .chars members :: (← readItems fuel rest)
          | none => return .chars [low] :: (← readItems fuel rest)
        | _ => return .chars [low] :: (← readItems fuel rest)
where
  /-- A character as messages show it. -/
  shown (c : Char) : Octets :=
    if Quotation.isPrintable c then [c] else '\\' :: Quotation.octalCode c

/-- The characters of a list that must have a given length where it can. -/
def spread (length : Nat) (items : List Item) : Octets :=
  let fixed := items.foldl (fun total item => total + match item with
    | .chars members | .named _ members => members.length
    | .many _ count? => count?.getD 0) 0
  items.flatMap fun item => match item with
    | .chars members | .named _ members => members
    | .many c count? => List.replicate (count?.getD (length - fixed)) c

/-- The places of the classes of small and capital letters, where a list is spread out. -/
def casePlaces (length : Nat) (items : List Item) : List Nat :=
  items.zipIdx.filterMap fun (item, index) =>
    match item with
    | .named name _ =>
      if name == "upper" || name == "lower" then some (spread length (items.take index)).length
      else none
    | _ => none

/-- Whether a list has a class that is no class of small or capital letters. -/
def hasOtherClass (items : List Item) : Bool :=
  items.any fun item => match item with
    | .named name _ => name != "upper" && name != "lower"
    | _ => false

/-- Whether a text ends in a backslash that escapes nothing. -/
def endsOpen (text : Octets) : Bool :=
  (text.reverse.takeWhile (· == '\\')).length % 2 = 1

/-- The list with runs of its characters shrunk to one. -/
def squeeze (isMember : Char → Bool) : Octets → Octets
  | [] => []
  | c :: rest =>
    if isMember c then c :: go c rest else c :: squeeze isMember rest
where
  /-- What follows a character that is left out. -/
  go (last : Char) : Octets → Octets
    | [] => []
    | c :: rest =>
      if c = last then go last rest
      else if isMember c then c :: go c rest
      else c :: squeeze isMember rest

/-- The character that each of `left` is replaced by, the last one of several. -/
def pairing (left right : Octets) : List (Char × Char) :=
  (left.zip right).reverse

end Letters

open Letters

/-- Replaces, deletes and squeezes characters. -/
def tr : Tool := fun _ words => do
  let (options, operands) ← optionsOf
    { letters := plainLetters "cCdst"
      names := [("complement", 'c'), ("delete", 'd'), ("squeeze-repeats", 's'),
        ("truncate-set1", 't')]
      mixes := false } words
  let deletes := has options 'd'
  let squeezes := has options 's'
  let least := if deletes == squeezes then 2 else 1
  let most := if deletes && !squeezes then 1 else 2
  let hint (text : String) : Action Unit := Action.complain (octets text)
  match operands with
  | [] => misuse 1 (octets "missing operand")
  | first :: others =>
    if operands.length < least then
      complain (octets "missing operand after " ++ quoted (operands.getLast?.getD []))
      hint (if squeezes then
          "Two strings must be given when both deleting and squeezing repeats.\n"
        else "Two strings must be given when translating.\n")
      tryHelp
      return 1
    if most < operands.length then
      complain (octets "extra operand " ++ quoted ((operands[most]?).getD []))
      if operands.length == 2 then
        hint "Only one string may be given when deleting without squeezing repeats.\n"
      tryHelp
      return 1
    let read (text : Octets) : Action (List Item) := do
      if endsOpen text then
        complain (octets "warning: an unescaped backslash at end of string is not portable")
      match readItems (text.length + 1) text with
      | .ok items => return items
      | .error fault => stop 1 fault.message
    let firstItems ← read first
    let secondItems ← match others with
      | second :: _ => (do return some (← read second) : Action (Option (List Item)))
      | [] => pure none
    let listed := spread 0 firstItems
    let members :=
      if has options 'c' || has options 'C' then alphabet.filter fun c => !listed.contains c
      else listed
    let text ← Action.readAll
    let text := if deletes then text.filter fun c => !members.contains c else text
    match secondItems with
    | none =>
      Action.print (if squeezes then squeeze members.contains text else text)
      return 0
    | some items =>
      if deletes then
        let right := spread 0 items
        Action.print (squeeze right.contains text)
        return 0
      if hasOtherClass items then
        stop 1 (octets ("when translating, the only character classes that may appear in\n"
          ++ "string2 are 'upper' and 'lower'"))
      let places := casePlaces 0 firstItems
      if !(casePlaces members.length items).all places.contains then
        stop 1 (octets "misaligned [:upper:] and/or [:lower:] construct")
      let right := spread members.length items
      if right.isEmpty && !has options 't' then
        stop 1 (octets "when not truncating set1, string2 must be non-empty")
      let filled := match right.getLast? with
        | some last =>
          if has options 't' then right
          else right ++ List.replicate (members.length - right.length) last
        | none => []
      let pairs := pairing members filled
      let text := text.map fun c => (pairs.lookup c).getD c
      Action.print (if squeezes then squeeze right.contains text else text)
      return 0

end PromptScript.Shell.Tool
