import PromptScript.Shell.Builtin.Places
import PromptScript.Shell.Tool.Basic

/-!
# Paths as texts

Tools that print parts of paths, and where paths lead.
-/

namespace PromptScript.Shell.Tool

/-- The path without its last name, as tools show it. -/
def directoryName (path : Octets) : Octets :=
  let bare := (path.reverse.dropWhile (· == '/')).reverse
  if bare.isEmpty then if path.isEmpty then ['.'] else ['/']
  else
    let lead := (bare.reverse.dropWhile (· != '/')).reverse
    let trimmed := (lead.reverse.dropWhile (· == '/')).reverse
    if lead.isEmpty then ['.'] else if trimmed.isEmpty then ['/'] else trimmed

/-- A name without an ending, unless it has nothing else. -/
def withoutEnding (ending name : Octets) : Octets :=
  if ending.isSuffixOf name && ending.length < name.length then
    name.take (name.length - ending.length)
  else name

/-- Prints the last names of paths. -/
def basename : Tool := fun _ words => do
  let (options, operands) ← optionsOf
    { letters := plainLetters "az" ++ valuedLetters "s"
      names := [("multiple", 'a'), ("suffix", 's'), ("zero", 'z')]
      mixes := false } words
  let mark := if has options 'z' then '\x00' else '\n'
  let isMany := has options 'a' || has options 's'
  match operands with
  | [] => misuse 1 (octets "missing operand")
  | _ =>
    if !isMany && 2 < operands.length then
      misuse 1 (octets "extra operand " ++ quoted ((operands[2]?).getD []))
    let ending := if isMany then (value? options 's').getD [] else (operands[1]?).getD []
    for path in if isMany then operands else operands.take 1 do
      Action.print (withoutEnding ending (baseName path) ++ [mark])
    return 0

/-- Prints paths without their last names. -/
def dirname : Tool := fun _ words => do
  let (options, operands) ← optionsOf
    { letters := plainLetters "z", names := [("zero", 'z')] } words
  if operands.isEmpty then misuse 1 (octets "missing operand")
  for path in operands do
    Action.print (directoryName path ++ [if has options 'z' then '\x00' else '\n'])
  return 0

/-- How much of a path must stand in the tree. -/
inductive Presence where
  | all
  | allButLast
  | none
  deriving DecidableEq

/-- The names from the root to what a path names, as far as must be. -/
def canonical (tree : FileTree) (presence : Presence) (path : Octets) :
    Except FileError Location :=
  let name := display path
  match presence with
  | .all => tree.resolve name
  | .allButLast => do
    match tree.resolve name with
    | .ok location => return location
    | .error .notFound => tree.target (display (((path.reverse.dropWhile (· == '/')).reverse)))
    | .error cause => throw cause
  | .none =>
    if path.isEmpty then .error .notFound
    else .ok ((Path.pieces name).foldl (fun location piece =>
      if piece = "" ∨ piece = "." then location
      else if piece = ".." then location.dropLast
      else location ++ [piece]) (tree.origin name))

/-- Prints where paths lead. -/
def realpath : Tool := fun _ words => do
  let (options, operands) ← optionsOf
    { letters := plainLetters "emqsLPz"
      names := [("canonicalize-existing", 'e'), ("canonicalize-missing", 'm'), ("quiet", 'q'),
        ("no-symlinks", 's'), ("zero", 'z')] } words
  if operands.isEmpty then misuse 1 (octets "missing operand")
  let presence : Presence :=
    if has options 'e' then .all else if has options 'm' then .none else .allButLast
  let mut failed := false
  for path in operands do
    match canonical (← get).tree presence path with
    | .ok location => Action.print (Builtin.pathOf location ++ ['\n'])
    | .error cause =>
      if !has options 'q' then complainFile path cause
      failed := true
  return if failed then 1 else 0

/-- Prints where links lead; there are no links, so only whole paths have an answer. -/
def readlink : Tool := fun _ words => do
  let (options, operands) ← optionsOf
    { letters := plainLetters "femnqsvz"
      names := [("canonicalize", 'f'), ("canonicalize-existing", 'e'),
        ("canonicalize-missing", 'm'), ("no-newline", 'n'), ("quiet", 'q'), ("silent", 's'),
        ("verbose", 'v'), ("zero", 'z')] } words
  if operands.isEmpty then misuse 1 (octets "missing operand")
  let mut failed := false
  for path in operands do
    let presence? : Option Presence :=
      if has options 'e' then some .all
      else if has options 'm' then some .none
      else if has options 'f' then some .allButLast
      else none
    match presence? with
    | none => failed := true
    | some presence =>
      match canonical (← get).tree presence path with
      | .ok location =>
        Action.print (Builtin.pathOf location ++ if has options 'n' then [] else ['\n'])
      | .error _ => failed := true
  return if failed then 1 else 0

end PromptScript.Shell.Tool
