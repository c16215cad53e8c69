import PromptScript.Uri.Basic

/-!
# Reading references to resources

References are read from the left, part by part.  Each part takes the longest run of the characters
that it may hold; a percent sign in it needs two hexadecimal digits.  What no part takes is a fault
at its place.  International references may hold characters beyond ASCII, too.
-/

namespace PromptScript.Uri

/-- Why a text is no reference, and at which place. -/
inductive ReadFault where
  | badOctet (index : Nat)
  | unexpected (index : Nat)
  deriving DecidableEq, Repr

/-- The wording of a fault. -/
def ReadFault.message : ReadFault → String
  | badOctet index => "invalid percent-encoded octet at index " ++ toString index
  | unexpected index => "unexpected character at index " ++ toString index

/-- Which characters beyond ASCII a reference may hold. -/
inductive Alphabet where
  | ascii
  | international
  deriving DecidableEq, Repr

/-- Whether a code point is in one of the planes behind the first, but for the first and last
code points of the plane. -/
def isInPlanes (code : Nat) : Bool :=
  0x10000 ≤ code && code < 0xF0000 && code % 0x10000 < 0xFFFE
    && !(0xE0000 ≤ code && code < 0xE1000)

/-- Whether a character beyond ASCII may stand in any part. -/
def isForeign : Alphabet → Char → Bool
  | .ascii, _ => false
  | .international, c =>
    let code := c.toNat
    (0xA0 ≤ code && code ≤ 0xD7FF) || (0xF900 ≤ code && code ≤ 0xFDCF)
      || (0xFDF0 ≤ code && code ≤ 0xFFEF) || isInPlanes code

/-- Whether a character beyond ASCII may stand in a query. -/
def isPrivate : Alphabet → Char → Bool
  | .ascii, _ => false
  | .international, c =>
    let code := c.toNat
    (0xE000 ≤ code && code ≤ 0xF8FF) || (0xF0000 ≤ code && code % 0x10000 < 0xFFFE)

/-- Whether a character parts the pieces of a part. -/
def isSubDelimiter (c : Char) : Bool :=
  ['!', '$', '&', '\'', '(', ')', '*', '+', ',', ';', '='].contains c

/-- Whether a character may stand in a name of a host. -/
def inName (alphabet : Alphabet) (c : Char) : Bool :=
  isUnreserved c || isSubDelimiter c || isForeign alphabet c

/-- Whether a character may stand in an authority. -/
def inAuthority (alphabet : Alphabet) (c : Char) : Bool :=
  inName alphabet c || c == ':'

/-- Whether a character may stand in the first segment of a relative path. -/
def inFirstSegment (alphabet : Alphabet) (c : Char) : Bool :=
  inName alphabet c || c == '@'

/-- Whether a character may stand in a path. -/
def inPath (alphabet : Alphabet) (c : Char) : Bool :=
  inName alphabet c || c == ':' || c == '@' || c == '/'

/-- Whether a character may stand in a fragment. -/
def inFragment (alphabet : Alphabet) (c : Char) : Bool :=
  inPath alphabet c || c == '?'

/-- Whether a character may stand in a query. -/
def inQuery (alphabet : Alphabet) (c : Char) : Bool :=
  inFragment alphabet c || isPrivate alphabet c

/-- Whether a character may stand in a scheme. -/
def inScheme (c : Char) : Bool :=
  c.isAlphanum || c == '+' || c == '-' || c == '.'

/-- The rest of a text, and the place where it begins. -/
structure Spot where
  index : Nat
  rest : List Char
  deriving DecidableEq, Repr

/-- The spot behind some characters. -/
def Spot.behind (spot : Spot) (taken : List Char) : Spot :=
  ⟨spot.index + taken.length, spot.rest.drop taken.length⟩

/-- The longest run of allowed and encoded characters. -/
def takeRun (allowed : Char → Bool) : Nat → List Char → Except ReadFault (List Char)
  | index, '%' :: a :: b :: rest =>
    if (hexValue? a).isSome && (hexValue? b).isSome then do
      return '%' :: a :: b :: (← takeRun allowed (index + 3) rest)
    else .error (.badOctet index)
  | index, c :: rest =>
    if c == '%' then .error (.badOctet index)
    else if allowed c then do return c :: (← takeRun allowed (index + 1) rest)
    else .ok []
  | _, [] => .ok []

/-- The longest run of allowed and encoded characters at a spot, and the spot behind it. -/
def Spot.take (allowed : Char → Bool) (spot : Spot) : Except ReadFault (List Char × Spot) := do
  let taken ← takeRun allowed spot.index spot.rest
  return (taken, spot.behind taken)

/-! ## Numbers of hosts -/

/-- The number that at most three digits write, without a leading zero. -/
def octet? (digits : List Char) : Option Nat :=
  if digits.isEmpty || 3 < digits.length || !digits.all Char.isDigit then none
  else if 1 < digits.length && digits.head? == some '0' then none
  else
    let value := digits.foldl (fun value d => value * 10 + (d.toNat - 48)) 0
    if value < 256 then some value else none

/-- Whether a text is four numbers below 256 with points between them. -/
def isVersionFour (text : List Char) : Bool :=
  let pieces := Text.splitAt '.' text
  pieces.length == 4 && pieces.all fun piece => (octet? piece).isSome

/-- Whether a text is a group of one to four hexadecimal digits. -/
def isGroup (text : List Char) : Bool :=
  !text.isEmpty && text.length ≤ 4 && text.all fun c => (hexValue? c).isSome

/-- The number of groups that pieces between colons make, the last of which may be four decimal
numbers. -/
def groupCount? : List (List Char) → Option Nat
  | [] => some 0
  | [last] => if isGroup last then some 1 else if isVersionFour last then some 2 else none
  | piece :: rest => if isGroup piece then (groupCount? rest).map (· + 1) else none

/-- The number of groups between colons; an empty text has none. -/
def groupsIn? (text : List Char) : Option Nat :=
  if text.isEmpty then some 0 else groupCount? (Text.splitAt ':' text)

/-- Whether a text is eight groups, or fewer with two colons in place of the others. -/
def isVersionSix (text : List Char) : Bool :=
  match Text.cutAtText? [':', ':'] text with
  | some (before, after) =>
    let plain := !before.contains '.'
    match groupsIn? before, groupsIn? after with
    | some first, some last => plain && first + last < 8
    | _, _ => false
  | none => groupsIn? text == some 8

/-- Whether a text is a version and an address of a kind that is not known yet. -/
def isFutureHost : List Char → Bool
  | 'v' :: rest | 'V' :: rest =>
    match Text.cutAt? '.' rest with
    | some (version, address) =>
      !version.isEmpty && version.all (fun c => (hexValue? c).isSome)
        && !address.isEmpty && address.all (inAuthority .ascii)
    | none => false
  | _ => false

/-! ## The parts -/

/-- Reads a host in brackets; the spot stands behind the opening one. -/
def readBracketed (spot : Spot) : Except ReadFault (List Char × Spot) :=
  let inner := spot.rest.takeWhile (· != ']')
  if (isVersionSix inner || isFutureHost inner) && inner.length < spot.rest.length then
    .ok ('[' :: inner ++ [']'], spot.behind (inner ++ [']']))
  else .error (.unexpected spot.index)

/-- Reads a port where there is one. -/
def readPort (spot : Spot) : List Char × Spot :=
  match spot.rest with
  | ':' :: rest =>
    let port := ':' :: rest.takeWhile Char.isDigit
    (port, spot.behind port)
  | _ => ([], spot)

/-- Reads a host and a port. -/
def readHost (alphabet : Alphabet) (spot : Spot) : Except ReadFault (List Char × Spot) := do
  let (host, behind) ← match spot.rest with
    | '[' :: rest => readBracketed ⟨spot.index + 1, rest⟩
    | _ => spot.take (inName alphabet)
  let (port, behind) := readPort behind
  return (host ++ port, behind)

/-- The first fault of a host and a port in one run of characters. -/
def portFault? (start : Nat) (run : List Char) : Option ReadFault :=
  match run.count ':' with
  | 0 => none
  | 1 =>
    let host := run.takeWhile (· != ':')
    let digits := (run.drop (host.length + 1)).takeWhile Char.isDigit
    if host.length + 1 + digits.length == run.length then none
    else some (.unexpected (start + host.length + 1 + digits.length))
  | _ => some (.unexpected (start + run.length - 1 - (run.reverse.takeWhile (· != ':')).length))

/-- Reads an authority; the spot stands behind the two slashes. -/
def readAuthority (alphabet : Alphabet) (spot : Spot) : Except ReadFault (List Char × Spot) := do
  let (run, behind) ← spot.take (inAuthority alphabet)
  match behind.rest with
  | '@' :: rest =>
    let (host, behind) ← readHost alphabet ⟨behind.index + 1, rest⟩
    return (run ++ '@' :: host, behind)
  | _ =>
    if run.isEmpty then readHost alphabet spot
    else
      match portFault? spot.index run with
      | some fault => .error fault
      | none => return (run, behind)

/-- Reads a part behind a mark where there is one. -/
def readLed (mark : Char) (allowed : Char → Bool) (spot : Spot) :
    Except ReadFault (Option String × Spot) :=
  match spot.rest with
  | c :: rest =>
    if c == mark then do
      let (taken, behind) ← Spot.take allowed ⟨spot.index + 1, rest⟩
      return (some (String.ofList taken), behind)
    else .ok (none, spot)
  | [] => .ok (none, spot)

/-- Reads a query and a fragment, with which a reference ends. -/
def readEnd (alphabet : Alphabet) (scheme authority : Option String) (path : List Char)
    (spot : Spot) : Except ReadFault Uri := do
  let (query, spot) ← readLed '?' (inQuery alphabet) spot
  let (fragment, spot) ← readLed '#' (inFragment alphabet) spot
  if spot.rest.isEmpty then return ⟨scheme, authority, String.ofList path, query, fragment⟩
  else .error (.unexpected spot.index)

/-- Reads what follows a scheme, or a reference without one that begins with two slashes. -/
def readHierarchy (alphabet : Alphabet) (scheme : Option String) (spot : Spot) :
    Except ReadFault Uri :=
  match spot.rest with
  | '/' :: '/' :: rest => do
    let (authority, spot) ← readAuthority alphabet ⟨spot.index + 2, rest⟩
    let (path, behind) ← spot.take (inPath alphabet)
    if path.isEmpty || path.head? == some '/' then
      readEnd alphabet scheme (some (String.ofList authority)) path behind
    else .error (.unexpected spot.index)
  | _ => do
    let (path, behind) ← spot.take (inPath alphabet)
    readEnd alphabet scheme none path behind

/-- Reads a reference. -/
def read (alphabet : Alphabet) (text : String) : Except ReadFault Uri :=
  let start : Spot := ⟨0, text.toList⟩
  let scheme := start.rest.takeWhile inScheme
  match start.rest.drop scheme.length with
  | ':' :: rest =>
    if scheme.head?.any Char.isAlpha then
      readHierarchy alphabet (some (String.ofList scheme)) ⟨scheme.length + 1, rest⟩
    else .error (.unexpected 0)
  | _ =>
    if scheme.isEmpty && start.rest.take 2 == ['/', '/'] then readHierarchy alphabet none start
    else do
      let (first, spot) ← start.take (inFirstSegment alphabet)
      if spot.rest.head? == some ':' then .error (.unexpected spot.index)
      else
        let (more, behind) ← spot.take (inPath alphabet)
        readEnd alphabet none none (first ++ more) behind

/-- Whether a text is a reference. -/
def isReference (alphabet : Alphabet) (text : String) : Bool :=
  (read alphabet text).isOk

/-- Whether a text is a reference with a scheme. -/
def isAbsolute (alphabet : Alphabet) (text : String) : Bool :=
  match read alphabet text with
  | .ok uri => uri.scheme.isSome
  | .error _ => false

end PromptScript.Uri
