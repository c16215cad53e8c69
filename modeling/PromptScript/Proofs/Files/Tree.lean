import Mathlib.Data.List.Induction
import PromptScript.Files.Tree
import PromptScript.Proofs.Attempt
import PromptScript.Proofs.Files.Path

/-!
# Changes of a file tree

A tree is well formed where every entry stands in a directory.  In such a tree a path leads, if
anywhere, to the location that its names alone determine, and what an operation does depends on the
entry at that location.  So a change at a few locations leaves the files at all others, and every
path that could be followed before.
-/

namespace PromptScript

namespace FileTree

variable {tree after last : FileTree} {location place : Location} {entry : Entry} {file : File}
  {name : String} {content : Text.Bytes}

/-! ## Entries -/

theorem get?_put (hplace : place ≠ []) :
    (tree.put place entry).get? location =
      if location = place then some entry else tree.get? location := by
  by_cases hroot : location = []
  · rw [hroot, if_neg (Ne.symm hplace)]
    rfl
  by_cases hsame : location = place
  · simp [get?, put, hsame, hplace]
  · have hother : (place == location) = false := beq_false_of_ne (Ne.symm hsame)
    simp only [get?, put, List.isEmpty_iff, hroot, hsame, if_false, List.find?_cons, hother]
    rw [List.find?_filter]
    congr 2
    funext old
    by_cases hold : old.1 = location <;> simp [hold, hsame]

theorem get?_erase (hplace : place ≠ []) :
    (tree.erase place).get? location =
      if place <+: location then none else tree.get? location := by
  by_cases hroot : location = []
  · rw [hroot, if_neg (by rwa [List.prefix_nil])]
    rfl
  · simp only [get?, erase, List.isEmpty_iff, hroot, if_false, List.find?_filter]
    split
    next hstands =>
      rw [Option.map_eq_none_iff, List.find?_eq_none]
      intro old _ hold
      simp only [Bool.not_eq_true', beq_iff_eq, decide_eq_true_eq] at hold
      rw [hold.2, List.isPrefixOf_iff_prefix.mpr hstands] at hold
      exact Bool.noConfusion hold.1
    next hstands =>
      congr 2
      funext old
      by_cases hold : old.1 = location
      · have hkept : place.isPrefixOf location = false := by
          rwa [← Bool.not_eq_true, List.isPrefixOf_iff_prefix]
        simp [hold, hkept]
      · simp [hold]

/-- The file at a location. -/
def file? (tree : FileTree) (location : Location) : Option File :=
  match tree.get? location with
  | some (.file file) => some file
  | _ => none

theorem file?_eq_some_iff : tree.file? location = some file ↔ tree.get? location = some (.file file) := by
  unfold file?
  split
  next found hfound => simp [hfound]
  next hnone => exact ⟨fun hfile => (nomatch hfile), fun hfile => absurd hfile (hnone file)⟩

theorem file?_eq_none_of_get? (hnone : tree.get? location = none) : tree.file? location = none := by
  rw [file?, hnone]

theorem file?_eq_none_of_directory (hdirectory : tree.get? location = some .directory) :
    tree.file? location = none := by
  rw [file?, hdirectory]

/-! ## Well-formed trees -/

/-- Whether the working directory is a directory, and every entry stands in one. -/
structure WellFormed (tree : FileTree) : Prop where
  workingDirectory : tree.get? tree.workingDirectory = some .directory
  above {location : Location} {name : String} {entry : Entry}
    (hentry : tree.get? (location ++ [name]) = some entry) : tree.get? location = some .directory

namespace WellFormed

theorem dropLast (hwellFormed : tree.WellFormed) (hdirectory : tree.get? location = some .directory) :
    tree.get? location.dropLast = some .directory := by
  rcases List.eq_nil_or_concat' location with rfl | ⟨above, name, rfl⟩
  · exact hdirectory
  · rw [List.dropLast_concat]
    exact hwellFormed.above hdirectory

/-- What stands below an entry stands below a directory. -/
theorem directory_of_append (hwellFormed : tree.WellFormed) {below : Location} (hbelow : below ≠ [])
    (hentry : tree.get? (place ++ below) = some entry) : tree.get? place = some .directory := by
  induction below using List.reverseRecOn generalizing entry with
  | nil => exact absurd rfl hbelow
  | append_singleton above name ih =>
      rw [← List.append_assoc] at hentry
      have habove := hwellFormed.above hentry
      by_cases hempty : above = []
      · rwa [hempty, List.append_nil] at habove
      · exact ih hempty habove

/-- Nothing stands below what is no directory. -/
theorem get?_of_prefix (hwellFormed : tree.WellFormed) (hplace : tree.get? place ≠ some .directory)
    (hstands : place <+: location) (hother : location ≠ place) : tree.get? location = none := by
  obtain ⟨below, rfl⟩ := hstands
  cases hentry : tree.get? (place ++ below) with
  | none => rfl
  | some entry =>
      have hbelow : below ≠ [] := by
        rintro rfl
        exact hother (List.append_nil place)
      exact absurd (hwellFormed.directory_of_append hbelow hentry) hplace

theorem get?_erase_file (hwellFormed : tree.WellFormed) (hplace : tree.get? place = some (.file file)) :
    (tree.erase place).get? location = if location = place then none else tree.get? location := by
  have hroot : place ≠ [] := by
    rintro rfl
    exact nomatch hplace
  rw [get?_erase hroot]
  by_cases hsame : location = place
  · rw [hsame, if_pos (List.prefix_refl place), if_pos rfl]
  · rw [if_neg hsame]
    split
    next hstands =>
      refine (hwellFormed.get?_of_prefix ?_ hstands hsame).symm
      rw [hplace]
      simp
    next => rfl

end WellFormed

/-! ## Changes at places -/

/-- Whether a tree is well formed and differs from an earlier one, except for directories that it has
beyond, at most in the files at some places. -/
structure Follows (places : List Location) (tree after : FileTree) : Prop where
  wellFormed : after.WellFormed
  workingDirectory : after.workingDirectory = tree.workingDirectory
  directories {location : Location} (hdirectory : tree.get? location = some .directory) :
    after.get? location = some .directory
  files {location : Location} (hlocation : location ∉ places) :
    after.file? location = tree.file? location

namespace Follows

variable {places more : List Location}

theorem refl (hwellFormed : tree.WellFormed) (places : List Location) : Follows places tree tree :=
  ⟨hwellFormed, rfl, id, fun _ => rfl⟩

theorem trans (hfirst : Follows places tree after) (hsecond : Follows places after last) :
    Follows places tree last where
  wellFormed := hsecond.wellFormed
  workingDirectory := hsecond.workingDirectory.trans hfirst.workingDirectory
  directories := fun hdirectory => hsecond.directories (hfirst.directories hdirectory)
  files := fun hlocation => (hsecond.files hlocation).trans (hfirst.files hlocation)

theorem mono (hfollows : Follows places tree after) (hmore : places ⊆ more) :
    Follows more tree after :=
  { hfollows with files := fun hlocation => hfollows.files fun hplace => hlocation (hmore hplace) }

theorem file?_eq (hfollows : Follows [place] tree after) (hother : location ≠ place) :
    after.file? location = tree.file? location := by
  apply hfollows.files
  rwa [List.mem_singleton]

/-- A place where the files are the same need not be named. -/
theorem drop (hfollows : Follows (place :: places) tree after)
    (hsame : after.file? place = tree.file? place) : Follows places tree after :=
  { hfollows with
    files := by
      intro location hlocation
      by_cases hplace : location = place
      · rwa [hplace]
      · exact hfollows.files (List.not_mem_cons_of_ne_of_not_mem hplace hlocation) }

/-- An entry is put into a directory, where it replaces no other directory. -/
theorem put (hwellFormed : tree.WellFormed) (habove : tree.get? location = some .directory)
    (hplace : tree.get? (location ++ [name]) = some .directory → entry = .directory) :
    Follows [location ++ [name]] tree (tree.put (location ++ [name]) entry) := by
  have hentries : ∀ other, (tree.put (location ++ [name]) entry).get? other =
      if other = location ++ [name] then some entry else tree.get? other :=
    fun other => get?_put (by simp)
  have hdirectories : ∀ other, tree.get? other = some .directory →
      (tree.put (location ++ [name]) entry).get? other = some .directory := by
    intro other hother
    rw [hentries]
    split
    next hsame =>
      rw [hsame] at hother
      rw [hplace hother]
    next => exact hother
  refine ⟨⟨hdirectories _ hwellFormed.workingDirectory, ?_⟩, rfl, hdirectories _, ?_⟩
  · intro other last found hfound
    rw [hentries] at hfound
    split at hfound
    next hsame =>
      obtain ⟨rfl, -⟩ := List.append_inj' hsame rfl
      exact hdirectories _ habove
    next => exact hdirectories _ (hwellFormed.above hfound)
  · intro other hother
    rw [file?, file?, hentries, if_neg (fun hsame => hother (List.mem_singleton.mpr hsame))]

theorem erase_file (hwellFormed : tree.WellFormed) (hplace : tree.get? place = some (.file file)) :
    Follows [place] tree (tree.erase place) := by
  have hdirectories : ∀ other, tree.get? other = some .directory →
      (tree.erase place).get? other = some .directory := by
    intro other hother
    rw [hwellFormed.get?_erase_file hplace, if_neg, hother]
    rintro rfl
    rw [hplace] at hother
    exact nomatch hother
  refine ⟨⟨hdirectories _ hwellFormed.workingDirectory, ?_⟩, rfl, hdirectories _, ?_⟩
  · intro other last entry hentry
    rw [hwellFormed.get?_erase_file hplace] at hentry
    split at hentry
    next => exact nomatch hentry
    next => exact hdirectories _ (hwellFormed.above hentry)
  · intro other hother
    rw [file?, file?, hwellFormed.get?_erase_file hplace,
      if_neg (fun hsame => hother (List.mem_singleton.mpr hsame))]

end Follows

/-! ## Following names -/

/-- The location to which one name leads from a location, if it can be followed. -/
def turn (location : Location) (name : String) : Location :=
  if name = "" ∨ name = "." then location
  else if name = ".." then location.dropLast
  else location ++ [name]

theorem turn_of_named {name : String} (hname : name ≠ "" ∧ name ≠ "." ∧ name ≠ "..") :
    turn location name = location ++ [name] := by
  simp [turn, hname]

/-- One name is followed from a directory, which holds an entry of it unless the name leads to the
directory itself or to the one above. -/
theorem follow_cons_iff {name : String} {rest : List String} :
    tree.follow location (name :: rest) = .ok place ↔
      tree.get? location = some .directory ∧
        (name ≠ "" ∧ name ≠ "." ∧ name ≠ ".." →
          name.utf8ByteSize ≤ 255 ∧ (tree.get? (turn location name)).isSome) ∧
        tree.follow (turn location name) rest = .ok place := by
  rw [follow]
  split
  next hnone => simp [hnone]
  next hfile => simp [hfile]
  next hdirectory =>
    by_cases hidle : name = "" ∨ name = "."
    · have hunnamed : ¬(name ≠ "" ∧ name ≠ "." ∧ name ≠ "..") := by tauto
      simp [turn, hidle, hunnamed, hdirectory]
    · by_cases hup : name = ".."
      · simp [turn, hup, hdirectory]
      · have hnamed : name ≠ "" ∧ name ≠ "." ∧ name ≠ ".." := by tauto
        simp only [if_neg hidle, if_neg hup, turn_of_named hnamed]
        split
        next hlong => simp [hnamed, Nat.not_le.mpr hlong]
        next hshort =>
          cases hentry : tree.get? (location ++ [name]) with
          | none => simp [hnamed]
          | some entry => simp [hnamed, hdirectory, Nat.not_lt.mp hshort]

theorem follow_append_iff {first second : List String} :
    tree.follow location (first ++ second) = .ok place ↔
      ∃ middle, tree.follow location first = .ok middle ∧ tree.follow middle second = .ok place := by
  induction first generalizing location with
  | nil => simp [follow]
  | cons name rest ih =>
      simp only [List.cons_append, follow_cons_iff, ih]
      constructor
      · rintro ⟨hdirectory, hname, middle, hrest, hsecond⟩
        exact ⟨middle, ⟨hdirectory, hname, hrest⟩, hsecond⟩
      · rintro ⟨middle, ⟨hdirectory, hname, hrest⟩, hsecond⟩
        exact ⟨hdirectory, hname, middle, hrest, hsecond⟩

theorem follow_eq_foldl {names : List String} (hfollow : tree.follow location names = .ok place) :
    place = names.foldl turn location := by
  induction names generalizing location with
  | nil =>
      cases hfollow
      rfl
  | cons name rest ih => exact ih (follow_cons_iff.mp hfollow).2.2

/-- Names that lead to a directory can still be followed where all directories stay. -/
theorem follow_mono {names : List String}
    (hdirectories : ∀ other, tree.get? other = some .directory → after.get? other = some .directory)
    (hfollow : tree.follow location names = .ok place) (hplace : tree.get? place = some .directory) :
    tree.get? location = some .directory ∧ after.follow location names = .ok place := by
  induction names generalizing location with
  | nil =>
      cases hfollow
      exact ⟨hplace, rfl⟩
  | cons name rest ih =>
      obtain ⟨hdirectory, hname, hrest⟩ := follow_cons_iff.mp hfollow
      -- what a name leads to on the way to a directory is a directory too
      obtain ⟨hnext, hfollowed⟩ := ih hrest
      refine ⟨hdirectory, follow_cons_iff.mpr ⟨hdirectories _ hdirectory, ?_, hfollowed⟩⟩
      intro hnamed
      rw [hdirectories _ hnext]
      exact ⟨(hname hnamed).1, rfl⟩

/-! ## Files in a directory -/

/-- The location to which a path leads, if it can be followed. -/
def home (tree : FileTree) (path : String) : Location :=
  (Path.pieces path).foldl turn (tree.origin path)

theorem foldl_lead (location : Location) (path : String) :
    (Path.lead path).foldl turn location = (Path.pieces path).foldl turn location := by
  rcases Path.pieces_eq_lead path with hpieces | ⟨hpieces, -⟩
  · rw [hpieces, List.foldl_append]
    rfl
  · rw [hpieces]

/-- Whether a path leads to a directory. -/
structure Opens (tree : FileTree) (path : String) : Prop where
  written : '\x00' ∉ path.toList
  follows : tree.follow (tree.origin path) (Path.lead path) = .ok (tree.home path)
  directory : tree.get? (tree.home path) = some .directory

section Directory

variable {path : String} {places : List Location}

theorem Follows.home_eq (hfollows : Follows places tree after) (path : String) :
    after.home path = tree.home path := by
  rw [home, home, origin, origin, hfollows.workingDirectory]

theorem Follows.opens (hfollows : Follows places tree after) (hopens : tree.Opens path) :
    after.Opens path where
  written := hopens.written
  follows := by
    have horigin : after.origin path = tree.origin path := by
      rw [origin, origin, hfollows.workingDirectory]
    rw [horigin, hfollows.home_eq]
    exact (follow_mono (fun _ => hfollows.directories) hopens.follows hopens.directory).2
  directory := by
    rw [hfollows.home_eq]
    exact hfollows.directories hopens.directory

theorem checkPath_join_iff (hpiece : Path.IsPiece name) :
    checkPath (Path.join path name) = .ok () ↔ '\x00' ∉ path.toList ∧ '\x00' ∉ name.toList := by
  simp only [checkPath, Path.join_ne_empty hpiece, List.contains_iff_mem,
    Path.nul_mem_join_iff hpiece, ← not_or]
  split
  next hnul => simp [hnul]
  next hplain => simp [hplain]

theorem origin_join (tree : FileTree) (hpiece : Path.IsPiece name) :
    tree.origin (Path.join path name) = tree.origin path := by
  rw [origin, origin, Path.isAbsolute_join hpiece]

theorem eq_home_of_follow (hfollow : tree.follow (tree.origin path) (Path.lead path) = .ok place) :
    place = tree.home path := by
  rw [follow_eq_foldl hfollow, foldl_lead, home]

/-- Where a file in a directory can be written. -/
theorem target_join_iff (hname : Path.IsName name) :
    tree.target (Path.join path name) = .ok place ↔
      tree.Opens path ∧ name.utf8ByteSize ≤ 255 ∧ place = tree.home path ++ [name] := by
  have hlast : (Path.lead path ++ [name]).getLast?.getD "" = name := by simp
  have hplain : ¬(name = "" ∨ name = "." ∨ name = "..") := by
    have hnamed := hname.named
    tauto
  simp only [target, Path.pieces_join hname.isPiece, hlast, if_neg hplain, List.dropLast_concat,
    origin_join tree hname.isPiece, Attempt.bind_eq_ok_iff]
  constructor
  · rintro ⟨⟨⟩, hcheck, parent, hfollow, hparent⟩
    obtain rfl := eq_home_of_follow hfollow
    split at hparent
    next => simp at hparent
    next hdirectory =>
      simp only [Bool.not_eq_true', Bool.not_eq_false, isDirectoryAt, beq_iff_eq] at hdirectory
      split at hparent
      next => simp at hparent
      next hshort =>
        cases hparent
        have hwritten := ((checkPath_join_iff hname.isPiece).mp hcheck).1
        exact ⟨⟨hwritten, hfollow, hdirectory⟩, Nat.not_lt.mp hshort, rfl⟩
  · rintro ⟨hopens, hshort, rfl⟩
    have hcheck := (checkPath_join_iff hname.isPiece).mpr ⟨hopens.written, hname.written⟩
    refine ⟨(), hcheck, tree.home path, hopens.follows, ?_⟩
    simp [isDirectoryAt, hopens.directory, Nat.not_lt.mpr hshort]

/-- Where a piece behind a path leads: a name to an entry in the directory, and every other piece
back to the directory or to the one above. -/
theorem resolve_piece_iff (hpiece : Path.IsPiece name) :
    tree.resolve (Path.join path name) = .ok place ↔
      tree.Opens path ∧ '\x00' ∉ name.toList ∧
        (name ≠ "" ∧ name ≠ "." ∧ name ≠ ".." →
          name.utf8ByteSize ≤ 255 ∧ (tree.get? (turn (tree.home path) name)).isSome) ∧
        place = turn (tree.home path) name := by
  simp only [resolve, Path.pieces_join hpiece, origin_join tree hpiece, Attempt.bind_eq_ok_iff,
    follow_append_iff, follow_cons_iff, checkPath_join_iff hpiece]
  constructor
  · rintro ⟨⟨⟩, ⟨hpath, hwritten⟩, parent, hlead, hdirectory, hentry, hplace⟩
    obtain rfl := eq_home_of_follow hlead
    cases hplace
    exact ⟨⟨hpath, hlead, hdirectory⟩, hwritten, hentry, rfl⟩
  · rintro ⟨hopens, hwritten, hentry, rfl⟩
    exact ⟨(), ⟨hopens.written, hwritten⟩, tree.home path, hopens.follows, hopens.directory, hentry,
      rfl⟩

/-- Where a file in a directory is found. -/
theorem resolve_join_iff (hname : Path.IsName name) :
    tree.resolve (Path.join path name) = .ok place ↔
      tree.Opens path ∧ name.utf8ByteSize ≤ 255 ∧ (tree.get? (tree.home path ++ [name])).isSome ∧
        place = tree.home path ++ [name] := by
  rw [resolve_piece_iff hname.isPiece, turn_of_named hname.named,
    forall_prop_of_true hname.named, and_iff_right hname.written, and_assoc]

/-! ## Operations on files in a directory -/

theorem file?_put (hplace : place ≠ []) (file : File) :
    (tree.put place (.file file)).file? place = some file :=
  file?_eq_some_iff.mpr (by rw [get?_put hplace, if_pos rfl])

/-- A file that is created was not there before. -/
theorem create_join (hwellFormed : tree.WellFormed) (hname : Path.IsName name)
    (hcreate : tree.create (Path.join path name) content = .ok after) :
    tree.Opens path ∧ name.utf8ByteSize ≤ 255 ∧ tree.file? (tree.home path ++ [name]) = none ∧
      Follows [tree.home path ++ [name]] tree after ∧
      after.file? (tree.home path ++ [name]) = some ⟨content, false, tree.clock⟩ := by
  rw [create, Attempt.bind_eq_ok_iff] at hcreate
  obtain ⟨place, htarget, hcreate⟩ := hcreate
  obtain ⟨hopens, hshort, rfl⟩ := (target_join_iff hname).mp htarget
  split at hcreate
  next => simp at hcreate
  next hnone =>
    cases hcreate
    refine ⟨hopens, hshort, file?_eq_none_of_get? hnone, ?_, file?_put (by simp) _⟩
    exact .put hwellFormed hopens.directory fun hdirectory => by rw [hnone] at hdirectory; cases hdirectory

theorem write_join (hwellFormed : tree.WellFormed) (hname : Path.IsName name)
    (hwrite : tree.write (Path.join path name) content = .ok after) :
    Follows [tree.home path ++ [name]] tree after ∧
      ∃ file, after.file? (tree.home path ++ [name]) = some file ∧ file.content = content := by
  rw [write, Attempt.bind_eq_ok_iff] at hwrite
  obtain ⟨place, htarget, hwrite⟩ := hwrite
  obtain ⟨hopens, -, rfl⟩ := (target_join_iff hname).mp htarget
  split at hwrite
  next => simp at hwrite
  next old hold =>
    cases hwrite
    refine ⟨.put hwellFormed hopens.directory fun hdirectory => ?_, _, file?_put (by simp) _, rfl⟩
    rw [hold] at hdirectory
    cases hdirectory
  next hnone =>
    cases hwrite
    refine ⟨.put hwellFormed hopens.directory fun hdirectory => ?_, _, file?_put (by simp) _, rfl⟩
    rw [hnone] at hdirectory
    cases hdirectory

theorem removeFile_join_iff (hname : Path.IsName name) :
    tree.removeFile (Path.join path name) = .ok after ↔
      tree.Opens path ∧ name.utf8ByteSize ≤ 255 ∧
        (∃ file, tree.get? (tree.home path ++ [name]) = some (.file file)) ∧
        after = tree.erase (tree.home path ++ [name]) := by
  simp only [removeFile, Attempt.bind_eq_ok_iff, resolve_join_iff hname]
  constructor
  · rintro ⟨place, ⟨hopens, hshort, hsome, rfl⟩, hremove⟩
    obtain ⟨entry, hentry⟩ := Option.isSome_iff_exists.mp hsome
    cases entry with
    | directory => simp [isDirectoryAt, hentry] at hremove
    | file file =>
        simp only [isDirectoryAt, hentry] at hremove
        cases hremove
        exact ⟨hopens, hshort, ⟨file, hentry⟩, rfl⟩
  · rintro ⟨hopens, hshort, ⟨file, hfile⟩, rfl⟩
    refine ⟨_, ⟨hopens, hshort, by rw [hfile]; rfl, rfl⟩, ?_⟩
    simp only [isDirectoryAt, hfile]
    rfl

/-- A file that gets another name in its directory is found there. -/
theorem rename_join {other : String} (hwellFormed : tree.WellFormed) (hname : Path.IsName name)
    (hother : Path.IsName other)
    (hrename : tree.rename (Path.join path name) (Path.join path other) = .ok after) :
    tree.Opens path ∧ other.utf8ByteSize ≤ 255 ∧
      Follows [tree.home path ++ [name], tree.home path ++ [other]] tree after ∧
      ∃ file, tree.file? (tree.home path ++ [name]) = some file ∧
        after.file? (tree.home path ++ [other]) = some file := by
  simp only [rename, Attempt.bind_eq_ok_iff] at hrename
  obtain ⟨old, hresolve, new, htarget, hrename⟩ := hrename
  obtain ⟨hopens, -, -, rfl⟩ := (resolve_join_iff hname).mp hresolve
  obtain ⟨-, hshort, rfl⟩ := (target_join_iff hother).mp htarget
  split at hrename
  next => simp at hrename
  next file hfile hplain =>
    cases hrename
    have herased := Follows.erase_file hwellFormed hfile
    have hdirectory := (herased.opens hopens).directory
    rw [herased.home_eq] at hdirectory
    have hplace : (tree.erase (tree.home path ++ [name])).get? (tree.home path ++ [other]) =
        some .directory → Entry.file file = .directory := by
      intro hfound
      rw [hwellFormed.get?_erase_file hfile] at hfound
      split at hfound
      next => cases hfound
      next => exact absurd hfound hplain
    refine ⟨hopens, hshort, ?_, file, file?_eq_some_iff.mpr hfile, file?_put (by simp) file⟩
    refine (herased.mono ?_).trans ((Follows.put herased.wellFormed hdirectory hplace).mono ?_)
    · simp
    · simp
  next => simp at hrename

theorem lookup_join_iff (hname : Path.IsName name) :
    tree.lookup (Path.join path name) = .ok entry ↔
      tree.Opens path ∧ name.utf8ByteSize ≤ 255 ∧
        tree.get? (tree.home path ++ [name]) = some entry := by
  simp only [lookup, Attempt.bind_eq_ok_iff, resolve_join_iff hname]
  constructor
  · rintro ⟨place, ⟨hopens, hshort, -, rfl⟩, hentry⟩
    split at hentry
    next found hfound =>
      cases hentry
      exact ⟨hopens, hshort, hfound⟩
    next => simp at hentry
  · rintro ⟨hopens, hshort, hentry⟩
    exact ⟨_, ⟨hopens, hshort, by rw [hentry]; rfl, rfl⟩, by rw [hentry]; rfl⟩

/-- The text of a file in a directory. -/
theorem readText_join_iff {text : String} (hname : Path.IsName name) :
    tree.readText (Path.join path name) = .ok text ↔
      tree.Opens path ∧ name.utf8ByteSize ≤ 255 ∧
        ∃ file, tree.file? (tree.home path ++ [name]) = some file ∧
          Text.ofBytes? file.content = some text := by
  simp only [readText, read, Attempt.bind_eq_ok_iff, lookup_join_iff hname, file?_eq_some_iff]
  constructor
  · rintro ⟨bytes, ⟨entry, ⟨hopens, hshort, hentry⟩, hbytes⟩, htext⟩
    cases entry with
    | directory => simp at hbytes
    | file file =>
        cases hbytes
        refine ⟨hopens, hshort, file, hentry, ?_⟩
        split at htext
        next found hfound =>
          cases htext
          exact hfound
        next => simp at htext
  · rintro ⟨hopens, hshort, file, hfile, htext⟩
    exact ⟨file.content, ⟨_, ⟨hopens, hshort, hfile⟩, rfl⟩, by rw [htext]; rfl⟩

/-! ## Directories -/

theorem createDirectoriesAt_follows {names : List String} (hwellFormed : tree.WellFormed)
    (habove : tree.get? location = some .directory)
    (hcreate : tree.createDirectoriesAt location names = .ok after) : Follows [] tree after := by
  induction names generalizing tree location with
  | nil =>
      cases hcreate
      exact .refl hwellFormed []
  | cons name rest ih =>
      rw [createDirectoriesAt] at hcreate
      split at hcreate
      next => exact ih hwellFormed habove hcreate
      next =>
        split at hcreate
        next => exact ih hwellFormed (hwellFormed.dropLast habove) hcreate
        next =>
          split at hcreate
          next => exact nomatch hcreate
          next =>
            simp only at hcreate
            split at hcreate
            next hdirectory => exact ih hwellFormed hdirectory hcreate
            next => split at hcreate <;> cases hcreate
            next hnone =>
              have hput : Follows [location ++ [name]] tree (tree.put (location ++ [name]) .directory) :=
                .put hwellFormed habove fun _ => rfl
              have hnew : (tree.put (location ++ [name]) .directory).get? (location ++ [name]) =
                  some .directory := by
                rw [get?_put (by simp), if_pos rfl]
              refine (hput.drop ?_).trans (ih hput.wellFormed hnew hcreate)
              rw [file?_eq_none_of_directory hnew, file?_eq_none_of_get? hnone]

theorem createDirectories_follows (hwellFormed : tree.WellFormed)
    (hcreate : tree.createDirectories path = .ok after) : Follows [] tree after := by
  rw [createDirectories] at hcreate
  split at hcreate
  next =>
    cases hcreate
    exact .refl hwellFormed []
  next =>
    split at hcreate
    next => exact nomatch hcreate
    next =>
      refine createDirectoriesAt_follows hwellFormed ?_ hcreate
      rw [origin]
      split
      next => rfl
      next => exact hwellFormed.workingDirectory

end Directory

end FileTree
end PromptScript
