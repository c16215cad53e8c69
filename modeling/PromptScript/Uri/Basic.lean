import PromptScript.Text.Basic

/-!
# References to resources

A reference names a resource, or a place in it, by up to five parts: scheme, authority, path, query
and fragment.  A reference is resolved against the address of the document it stands in, and an
address has one normal form, by which addresses are compared.
-/

namespace PromptScript

/-- The parts of a reference to a resource. -/
structure Uri where
  scheme : Option String
  authority : Option String
  path : String
  query : Option String
  fragment : Option String
  deriving DecidableEq, Repr, Inhabited

namespace Uri

/-- The text of a part with the mark that leads it. -/
def led (mark : String) : Option String → String
  | some part => mark ++ part
  | none => ""

/-- The text of a reference. -/
def render (uri : Uri) : String :=
  (match uri.scheme with
    | some scheme => scheme ++ ":"
    | none => "")
    ++ led "//" uri.authority ++ uri.path ++ led "?" uri.query ++ led "#" uri.fragment

/-- The reference to the whole resource. -/
def withoutFragment (uri : Uri) : Uri :=
  { uri with fragment := none }

/-- The segments of a path from its last dots on, in reverse: a dot stays where it is, two dots
take back one segment. -/
def withoutDots (kept : List (List Char)) : List (List Char) → List (List Char)
  | [] => kept.reverse
  | [['.']] => ([] :: kept).reverse
  | [['.', '.']] => ([] :: kept.drop 1).reverse
  | ['.'] :: rest => withoutDots kept rest
  | ['.', '.'] :: rest => withoutDots (kept.drop 1) rest
  | segment :: rest => withoutDots (segment :: kept) rest

/-- The path without segments of one or two dots. -/
def removeDots (path : String) : String :=
  match path.toList with
  | '/' :: rest =>
    let segments := withoutDots [] (Text.splitAt '/' rest)
    String.ofList ('/' :: (['/'].intercalate segments))
  | _ => path

/-- The path that a relative path means beside a base. -/
def mergedPath (base : Uri) (path : String) : String :=
  if base.authority.isSome && base.path.isEmpty then "/" ++ path
  else
    let before := (base.path.toList.reverse.dropWhile (· != '/')).reverse
    String.ofList before ++ path

/-- Why a reference cannot be resolved against a base. -/
inductive ResolveFault where
  | baseWithFragment
  | opaqueBase
  deriving DecidableEq, Repr

/-- The wording of a fault. -/
def ResolveFault.message : ResolveFault → String
  | baseWithFragment => "base URI/IRI with fragment"
  | opaqueBase =>
    "relative reference must be empty or start with '#' when resolved against "
      ++ "authority-less base with rootless path"

/-- Whether nothing can be found beside the resource of an address. -/
def isOpaque (base : Uri) : Bool :=
  base.authority.isNone && !base.path.startsWith "/"

/-- The reference without its scheme, resolved against a base. -/
def resolveRelative (reference base : Uri) : Uri :=
  match reference.authority with
  | some _ =>
    { reference with scheme := base.scheme, path := removeDots reference.path }
  | none =>
    if reference.path.isEmpty then
      { base with query := reference.query.orElse fun _ => base.query, fragment := reference.fragment }
    else
      let path := if reference.path.startsWith "/" then reference.path
        else mergedPath base reference.path
      { base with path := removeDots path, query := reference.query, fragment := reference.fragment }

/-- The address that a reference means in a document with a base address. -/
def resolve (reference base : Uri) : Except ResolveFault Uri :=
  if base.fragment.isSome then .error .baseWithFragment
  else if reference.scheme.isSome then .ok { reference with path := removeDots reference.path }
  else
    let inPlace := reference.authority.isNone && reference.path.isEmpty && reference.query.isNone
    if base.isOpaque && !inPlace then .error .opaqueBase
    else .ok (resolveRelative reference base)

/-- Whether a character may stand in a reference without being encoded. -/
def isUnreserved (c : Char) : Bool :=
  c.isAlphanum || ['-', '.', '_', '~'].contains c

/-- The value of a hexadecimal digit. -/
def hexValue? (c : Char) : Option Nat :=
  if c.isDigit then some (c.toNat - 48)
  else if 'a' ≤ c && c ≤ 'f' then some (c.toNat - 87)
  else if 'A' ≤ c && c ≤ 'F' then some (c.toNat - 55)
  else none

/-- The text where encoded characters that need no encoding are written plainly, and the digits of
the others in upper case. -/
def normalCodes : List Char → List Char
  | '%' :: a :: b :: rest =>
    match hexValue? a, hexValue? b with
    | some high, some low =>
      let c := Char.ofNat (high * 16 + low)
      if isUnreserved c then c :: normalCodes rest
      else '%' :: a.toUpper :: b.toUpper :: normalCodes rest
    | _, _ => '%' :: normalCodes (a :: b :: rest)
  | c :: rest => c :: normalCodes rest
  | [] => []

/-- The text in lower case, but for the digits of encoded characters. -/
def lowerHost : List Char → List Char
  | '%' :: a :: b :: rest => '%' :: a :: b :: lowerHost rest
  | c :: rest => c.toLower :: lowerHost rest
  | [] => []

/-- The port that a scheme means without naming one. -/
def usualPort : String → List Char
  | "http" | "ws" => ['8', '0']
  | "https" | "wss" => ['4', '4', '3']
  | _ => []

/-- The host without a port that need not be named. -/
def withoutUsualPort (scheme : String) (host : List Char) : List Char :=
  let digits := host.reverse.takeWhile Char.isDigit
  match host.reverse.drop digits.length with
  | ':' :: before =>
    if digits.isEmpty || digits.reverse == usualPort scheme then before.reverse else host
  | _ => host

/-- The normal form of an authority: the host is in lower case. -/
def normalAuthority (scheme authority : String) : String :=
  let text := normalCodes authority.toList
  String.ofList <| match Text.cutAt? '@' text with
    | some (user, host) => user ++ '@' :: withoutUsualPort scheme (lowerHost host)
    | none => withoutUsualPort scheme (lowerHost text)

/-- The normal form of an address. -/
def normalize (uri : Uri) : Uri :=
  let scheme := uri.scheme.map String.toLower
  let path := String.ofList (normalCodes uri.path.toList)
  { scheme
    authority := uri.authority.map (normalAuthority (scheme.getD ""))
    path := if scheme.isSome then removeDots path else path
    query := uri.query.map fun query => String.ofList (normalCodes query.toList)
    fragment := uri.fragment.map fun part => String.ofList (normalCodes part.toList) }

theorem resolve_of_fragment (reference : Uri) {base : Uri} (marked : base.fragment.isSome = true) :
    reference.resolve base = .error .baseWithFragment := by
  simp [resolve, marked]

theorem withoutFragment_idem (uri : Uri) : uri.withoutFragment.withoutFragment = uri.withoutFragment :=
  rfl

end Uri

end PromptScript
