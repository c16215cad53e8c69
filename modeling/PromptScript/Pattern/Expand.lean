import PromptScript.Files.Tree
import PromptScript.Pattern.Glob

/-!
# Expanding patterns to paths

The existing paths that a pattern names, as seen from a base directory.  A component `**` stands
for any number of directories that are not hidden, a component without glob characters for
itself, and every other component for the names it matches; a hidden name is matched only by a
component that begins with a dot.

A group `{a,b}` in a pattern stands for its alternatives.  Groups may be nested, and the leftmost
group varies slowest.  Where the first opening brace has no partner the pattern stands for itself.
-/

namespace PromptScript.Pattern

/-- The text before the brace that closes the open groups, of which `depth` lie inside the
outermost, and the text behind it. -/
def closeGroup? (depth : Nat) : List Char → Option (List Char × List Char)
  | [] => none
  | c :: rest =>
    if c = '\x7b' then (closeGroup? (depth + 1) rest).map fun (body, post) => (c :: body, post)
    else if c = '\x7d' then
      match depth with
      | 0 => some ([], rest)
      | outer + 1 => (closeGroup? outer rest).map fun (body, post) => (c :: body, post)
    else (closeGroup? depth rest).map fun (body, post) => (c :: body, post)

/-- The first group of a pattern: the text before it, the text between its braces and the text
behind it. -/
def firstGroup? : List Char → Option (List Char × List Char × List Char)
  | [] => none
  | c :: rest =>
    if c = '\x7b' then (closeGroup? 0 rest).map fun (body, post) => ([], body, post)
    else (firstGroup? rest).map fun (pre, body, post) => (c :: pre, body, post)

/-- The alternatives of a group: the pieces between the commas that lie in no inner group. -/
def alternatives (depth : Nat) : List Char → List (List Char)
  | [] => [[]]
  | c :: rest =>
    if c = ',' ∧ depth = 0 then [] :: alternatives depth rest
    else
      let inner := if c = '\x7b' then depth + 1 else if c = '\x7d' then depth - 1 else depth
      match alternatives inner rest with
      | piece :: pieces => (c :: piece) :: pieces
      | [] => [[c]]

theorem eq_of_closeGroup? {depth : Nat} {text body post : List Char}
    (closed : closeGroup? depth text = some (body, post)) : text = body ++ '\x7d' :: post := by
  fun_induction closeGroup? depth text generalizing body post with
  | case1 => simp at closed
  | case3 _ rest => simp_all
  | case2 _ _ ih | case4 _ _ _ ih | case5 _ _ _ _ _ ih =>
    simp only [Option.map_eq_some_iff, Prod.exists, Prod.mk.injEq] at closed
    obtain ⟨inside, after, found, rfl, rfl⟩ := closed
    simp [ih found]

theorem eq_of_firstGroup? {text pre body post : List Char}
    (group : firstGroup? text = some (pre, body, post)) :
    text = pre ++ '\x7b' :: (body ++ '\x7d' :: post) := by
  fun_induction firstGroup? text generalizing pre body post with
  | case1 => simp at group
  | case2 rest =>
    simp only [Option.map_eq_some_iff, Prod.exists, Prod.mk.injEq] at group
    obtain ⟨inside, after, closed, rfl, rfl, rfl⟩ := group
    simp [eq_of_closeGroup? closed]
  | case3 c rest _ ih =>
    simp only [Option.map_eq_some_iff, Prod.exists, Prod.mk.injEq] at group
    obtain ⟨before, inside, after, found, rfl, rfl, rfl⟩ := group
    simp [ih found]

theorem length_le_of_mem_alternatives {depth : Nat} {body piece : List Char}
    (member : piece ∈ alternatives depth body) : piece.length ≤ body.length := by
  fun_induction alternatives depth body generalizing piece <;> grind

/-- The patterns without groups that a pattern stands for, in order. -/
def expandGroups (pattern : List Char) : List (List Char) :=
  match _h : firstGroup? pattern with
  | none => [pattern]
  | some (pre, body, post) =>
    (alternatives 0 body).attach.flatMap fun ⟨piece, _⟩ => expandGroups (pre ++ piece ++ post)
termination_by pattern.length
decreasing_by
  rename_i member
  have shape := congrArg List.length (eq_of_firstGroup? _h)
  have short := length_le_of_mem_alternatives member
  simp only [List.length_append, List.length_cons] at shape ⊢
  omega

/-- `expandGroups` on strings. -/
def expandBraces (pattern : String) : List String :=
  (expandGroups pattern.toList).map String.ofList

/-! ## Paths -/

/-- The path of names below a base directory. -/
def pathBelow (base : String) (names : List String) : String :=
  names.foldl Path.join base

/-- Whether a name begins with a dot. -/
def isHidden (name : String) : Bool :=
  name.toList.head? == some '.'

/-- The names of the directories below a path that are not hidden. -/
def openDirectories (tree : FileTree) (path : String) : List String :=
  match tree.resolve path with
  | .ok location =>
    (tree.namesAt location).filter fun name =>
      tree.isDirectoryAt (location ++ [name]) && !isHidden name
  | .error _ => []

/-- The names in a directory that a component matches. -/
def matchingNames (tree : FileTree) (path component : String) : List String :=
  match tree.list path with
  | .ok names =>
    names.filter fun name =>
      (!isHidden name || isHidden component) && globMatch component name
  | .error _ => []

/-- The lists of names below the base, beginning with `names`, that exist and match the
components behind them.  The fuel bounds the number of components and of directories that they go
down through. -/
def walk (tree : FileTree) (base : String) : Nat → List String → List String → List (List String)
  | 0, _, _ => []
  | _ + 1, names, [] => if tree.existsAt (pathBelow base names) then [names] else []
  | fuel + 1, names, component :: rest =>
    if component = "**" then
      walk tree base fuel names rest ++
        (openDirectories tree (pathBelow base names)).flatMap fun name =>
          walk tree base fuel (names ++ [name]) (component :: rest)
    else if !containsGlob component.toList then walk tree base fuel (names ++ [component]) rest
    else
      (matchingNames tree (pathBelow base names) component).flatMap fun name =>
        walk tree base fuel (names ++ [name]) rest

/-- The number of directories inside one another in a tree, at most. -/
def depth (tree : FileTree) : Nat :=
  (tree.entries.map (·.1.length)).foldl max 0

/-- The directory where a pattern without groups begins, and its components. -/
def splitBase (base pattern : String) : String × List String :=
  let names := (Path.parts pattern).filterMap fun part =>
    match part with
    | .root | .here => none
    | .up => some ".."
    | .name name => some name
  (if Path.isAbsolute pattern then "/" else base, names)

/-- The existing paths that a pattern without groups names.  Every component goes down through at
most all levels of the tree. -/
def expandOne (tree : FileTree) (base pattern : String) : List String :=
  let (start, components) := splitBase base pattern
  let fuel := components.length * (depth tree + 1) + 2
  (walk tree start fuel [] components).map (pathBelow start)

/-- Paths without those that have the same components as the one before. -/
def dropRepeated : List String → List String
  | [] => []
  | [path] => [path]
  | first :: second :: rest =>
    if Path.parts first = Path.parts second then dropRepeated (first :: rest)
    else first :: dropRepeated (second :: rest)

/-- The existing paths that a pattern names, in order, each once. -/
def expand (tree : FileTree) (pattern base : String) : List String :=
  let found := (expandBraces pattern).flatMap (expandOne tree base)
  dropRepeated
    (found.mergeSort fun a b => !Path.partsBefore (Path.parts b) (Path.parts a))

end PromptScript.Pattern
