import PromptScript.Text.Basic

/-!
# Path texts

Paths as they are written: names between slashes.  A path is absolute where it begins with a
slash.  Two texts are the same path where they have the same components, so empty names and the
name `.` count only at the beginning of a relative path.
-/

namespace PromptScript

/-- One component of a path.  The order of the constructors is the order of components. -/
inductive PathPart where
  | root
  | here
  | up
  | name (name : String)
  deriving DecidableEq, Repr

namespace PathPart

/-- The written form of a component. -/
def text : PathPart → String
  | root => "/"
  | here => "."
  | up => ".."
  | name word => word

/-- Whether one component stands before another. -/
def before : PathPart → PathPart → Bool
  | root, root => false
  | root, _ => true
  | here, root | here, here => false
  | here, _ => true
  | up, name _ => true
  | up, _ => false
  | name a, name b => a < b
  | name _, _ => false

end PathPart

namespace Path

/-- Whether a path begins at the root. -/
def isAbsolute (path : String) : Bool :=
  path.toList.head? == some '/'

/-- The texts between the slashes of a path. -/
def pieces (path : String) : List String :=
  (Text.splitAt '/' path.toList).map String.ofList

/-- The component of a piece; none for an empty one and for the name `.`. -/
def partOfPiece? (piece : String) : Option PathPart :=
  if piece = "" ∨ piece = "." then none
  else if piece = ".." then some .up
  else some (.name piece)

/-- The components of a path. -/
def parts (path : String) : List PathPart :=
  let all := pieces path
  let lead : List PathPart :=
    if isAbsolute path then [.root] else if all.head? = some "." then [.here] else []
  lead ++ all.filterMap partOfPiece?

/-- Whether the components of one path stand before those of another. -/
def partsBefore : List PathPart → List PathPart → Bool
  | [], [] => false
  | [], _ :: _ => true
  | _ :: _, [] => false
  | a :: left, b :: right => if a = b then partsBefore left right else a.before b

/-- The second path as seen from the first: the second one alone where it is absolute. -/
def join (base path : String) : String :=
  if isAbsolute path then path
  else if base.isEmpty then path
  else if base.toList.getLast? = some '/' then base ++ path
  else base ++ "/" ++ path

/-- Pieces without those at the end that are no components of their own. -/
def dropIdle (pieces : List String) : List String :=
  let idle : String → Bool := fun piece => piece = "" || piece = "."
  match pieces with
  | [] => []
  | first :: rest => first :: (rest.reverse.dropWhile idle).reverse

/-- The path without its last component. -/
def parent? (path : String) : Option String :=
  match (dropIdle (pieces path)).reverse with
  | [] => none
  | [only] => if only = "" then none else some ""
  | _ :: before =>
    match dropIdle before.reverse with
    | [""] => some "/"
    | kept => some ("/".intercalate kept)

/-- The last component where it is a name. -/
def fileName? (path : String) : Option String :=
  match (parts path).getLast? with
  | some (.name name) => some name
  | _ => none

/-- A name cut at its last dot, unless nothing stands before the dot. -/
def cutExtension? (name : String) : Option (String × String) :=
  match Text.cutAt? '.' name.toList.reverse with
  | some (last, first) =>
    if first.isEmpty then none
    else some (String.ofList first.reverse, String.ofList last.reverse)
  | none => none

/-- The text behind the last dot of the file name. -/
def extension? (path : String) : Option String :=
  (fileName? path).bind fun name => (cutExtension? name).map (·.2)

end Path

end PromptScript
