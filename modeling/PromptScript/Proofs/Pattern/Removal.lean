import PromptScript.Proofs.Files.Places
import PromptScript.Proofs.Pattern.Expand

/-!
# Removing files

Some files of a tree are taken away at once.  Directories stay, and so does every path that leads to
what is left; to take more files away afterwards is the same as to take all of them away at once.

As all directories stay, a walk goes the same ways, and a pattern names in what is left what it
named before, but for the files that are gone.
-/

namespace PromptScript.FileTree

variable {tree after : FileTree} {gone more : Location → Bool} {location place : Location}
  {path name : String} {file : File}

/-! ## Trees without some of their files -/

/-- The tree without the files at some locations. -/
def without (tree : FileTree) (gone : Location → Bool) : FileTree :=
  { tree with
    entries := tree.entries.filter fun entry => (tree.file? entry.1).isNone || !gone entry.1 }

/-- Whether a path leads to a location. -/
def leadsTo (tree : FileTree) (path : String) (location : Location) : Bool :=
  (tree.resolve path).toOption == some location

theorem leadsTo_iff : tree.leadsTo path location = true ↔ tree.resolve path = .ok location := by
  rw [leadsTo, beq_iff_eq]
  cases tree.resolve path <;> simp [Except.toOption]

theorem get?_without :
    (tree.without gone).get? location =
      if (tree.file? location).isSome ∧ gone location = true then none
      else tree.get? location := by
  by_cases hroot : location = []
  · rw [hroot, if_neg fun hfile => Bool.false_ne_true hfile.1]
    rfl
  · simp only [get?, without, List.isEmpty_iff, hroot, if_false, List.find?_filter]
    split
    next hgone =>
      rw [Option.map_eq_none_iff, List.find?_eq_none]
      intro old _ hold
      simp only [decide_eq_true_eq, beq_iff_eq] at hold
      obtain ⟨hstays, rfl⟩ := hold
      rw [hgone.2, Bool.not_true, Bool.or_false, Option.isNone_iff_eq_none] at hstays
      rw [hstays] at hgone
      exact absurd hgone.1 Bool.false_ne_true
    next hkept =>
      congr 2
      funext old
      by_cases hold : old.1 = location
      · have hstays : ((tree.file? location).isNone || !gone location) = true := by
          cases hfile : tree.file? location <;> simp_all
        simp [hold, hstays]
      · simp [hold]

theorem file?_without :
    (tree.without gone).file? location =
      if gone location = true then none else tree.file? location := by
  rw [file?, get?_without]
  by_cases hgone : gone location = true
  · cases hfile : tree.file? location with
    | some file => simp [hgone]
    | none =>
        rw [if_neg (by simp), if_pos hgone]
        exact hfile
  · rw [if_neg (by simp [hgone]), if_neg hgone, file?]

/-- What is to be taken away and is no directory is gone. -/
theorem get?_without_of_gone (hgone : gone location = true)
    (hplain : tree.get? location ≠ some .directory) : (tree.without gone).get? location = none := by
  rw [get?_without]
  split
  next => rfl
  next hkept =>
    rw [and_iff_left hgone, file?] at hkept
    cases hentry : tree.get? location with
    | none => rfl
    | some entry => cases entry <;> simp_all

theorem directory_without_iff :
    (tree.without gone).get? location = some .directory ↔ tree.get? location = some .directory := by
  rw [get?_without]
  split
  next hgone =>
    constructor
    · intro hdirectory
      cases hdirectory
    · intro hdirectory
      rw [file?_eq_none_of_directory hdirectory] at hgone
      exact absurd hgone.1 Bool.false_ne_true
  next => exact Iff.rfl

theorem isSome_without_of_directory (hdirectory : tree.get? location = some .directory) :
    ((tree.without gone).get? location).isSome :=
  Option.isSome_of_eq_some (directory_without_iff.mpr hdirectory)

theorem isSome_of_without (hsome : ((tree.without gone).get? location).isSome) :
    (tree.get? location).isSome := by
  rw [get?_without] at hsome
  split at hsome
  next => exact absurd hsome Bool.false_ne_true
  next => exact hsome

theorem WellFormed.without (hwellFormed : tree.WellFormed) (gone : Location → Bool) :
    (tree.without gone).WellFormed where
  workingDirectory := directory_without_iff.mpr hwellFormed.workingDirectory
  above := by
    intro location name entry hentry
    have hsome := isSome_of_without (Option.isSome_of_eq_some hentry)
    obtain ⟨old, hold⟩ := Option.isSome_iff_exists.mp hsome
    exact directory_without_iff.mpr (hwellFormed.above hold)

theorem Sound.without (hsound : tree.Sound) (gone : Location → Bool) :
    (tree.without gone).Sound :=
  ⟨hsound.toWellFormed.without gone, fun hentry => hsound.named (isSome_of_without hentry)⟩

/-! ## Paths in what is left -/

theorem follow_without_iff {names : List String} (hwellFormed : tree.WellFormed)
    (hlocation : ((tree.without gone).get? location).isSome) :
    (tree.without gone).follow location names = .ok place ↔
      tree.follow location names = .ok place ∧ ((tree.without gone).get? place).isSome := by
  induction names generalizing location with
  | nil =>
      refine ⟨?_, And.left⟩
      rintro ⟨⟩
      exact ⟨rfl, hlocation⟩
  | cons name rest ih =>
      rw [follow_cons_iff, follow_cons_iff, directory_without_iff]
      constructor
      · rintro ⟨hdirectory, hname, hrest⟩
        have hturn := isSome_turn (hwellFormed.without gone) (directory_without_iff.mpr hdirectory)
          fun hnamed => (hname hnamed).2
        obtain ⟨hrest, hplace⟩ := (ih hturn).mp hrest
        exact ⟨⟨hdirectory, fun hnamed => ⟨(hname hnamed).1, isSome_of_without hturn⟩, hrest⟩,
          hplace⟩
      · rintro ⟨⟨hdirectory, hname, hrest⟩, hplace⟩
        -- what is followed further is a directory, and the directories are still there
        have hturn : ((tree.without gone).get? (turn location name)).isSome := by
          cases rest with
          | nil =>
              cases hrest
              exact hplace
          | cons next rest =>
              exact isSome_without_of_directory (follow_cons_iff.mp hrest).1
        exact ⟨hdirectory, fun hnamed => ⟨(hname hnamed).1, hturn⟩, (ih hturn).mpr ⟨hrest, hplace⟩⟩

/-- A path leads where it led before, if something is left there. -/
theorem resolve_without_iff (hwellFormed : tree.WellFormed) :
    (tree.without gone).resolve path = .ok place ↔
      tree.resolve path = .ok place ∧ ((tree.without gone).get? place).isSome := by
  have horigin : ((tree.without gone).get? (tree.origin path)).isSome :=
    isSome_without_of_directory (origin_directory hwellFormed path)
  have hsame : (tree.without gone).origin path = tree.origin path := rfl
  rw [resolve_eq_ok_iff, resolve_eq_ok_iff, hsame, follow_without_iff hwellFormed horigin,
    and_assoc]

theorem leadsTo_without (hwellFormed : tree.WellFormed)
    (hleft : ((tree.without gone).get? location).isSome) (path : String) :
    (tree.without gone).leadsTo path location = tree.leadsTo path location := by
  rw [Bool.eq_iff_iff, leadsTo_iff, leadsTo_iff, resolve_without_iff hwellFormed,
    and_iff_left hleft]

theorem opens_without_iff (hwellFormed : tree.WellFormed) :
    (tree.without gone).Opens path ↔ tree.Opens path := by
  have horigin : ((tree.without gone).get? (tree.origin path)).isSome :=
    isSome_without_of_directory (origin_directory hwellFormed path)
  constructor
  · intro hopens
    exact ⟨hopens.written, ((follow_without_iff hwellFormed horigin).mp hopens.follows).1,
      directory_without_iff.mp hopens.directory⟩
  · intro hopens
    exact ⟨hopens.written, (follow_without_iff hwellFormed horigin).mpr
      ⟨hopens.follows, isSome_without_of_directory hopens.directory⟩,
      directory_without_iff.mpr hopens.directory⟩

theorem isSome_without_iff : ((tree.without gone).get? location).isSome ↔
    (tree.get? location).isSome ∧ ((tree.file? location).isNone || !gone location) = true := by
  rw [get?_without]
  cases tree.file? location <;> cases gone location <;> simp

/-- In a directory the names of what is left stand in the order in which they stood. -/
theorem namesAt_without (tree : FileTree) (gone : Location → Bool) (location : Location) :
    (tree.without gone).namesAt location = (tree.namesAt location).filter fun name =>
      ((tree.without gone).get? (location ++ [name])).isSome := by
  refine List.Perm.eq_of_pairwise (fun _ _ _ _ => String.le_antisymm) (namesAt_sorted _ _)
    ((namesAt_sorted tree location).filter _) ?_
  refine (List.mergeSort_perm _ _).trans
    (.trans (.of_eq ?_) ((List.mergeSort_perm _ _).filter _).symm)
  change List.filterMap _ (tree.entries.filter fun entry =>
    (tree.file? entry.1).isNone || !gone entry.1) = _
  rw [List.filterMap_filter, List.filter_filterMap]
  refine List.filterMap_congr fun entry hentry => ?_
  have hsome : (tree.get? entry.1).isSome := isSome_get?_iff.mpr (.inr ⟨entry, hentry, rfl⟩)
  by_cases hinside : entry.1.dropLast = location
  · cases hname : entry.1.getLast? with
    | none => simp
    | some name =>
        obtain ⟨above, hplace⟩ := List.getLast?_eq_some_iff.mp hname
        rw [hplace, List.dropLast_concat] at hinside
        subst hinside
        have hstays : ((tree.without gone).get? (above ++ [name])).isSome =
            ((tree.file? entry.1).isNone || !gone entry.1) := by
          rw [Bool.eq_iff_iff, ← hplace, isSome_without_iff, and_iff_right hsome]
        rw [hplace] at hstays ⊢
        simp [Option.filter, hstays]
  · simp [hinside]

/-- A file that is left has the text that it had. -/
theorem readText_join_without_iff {text : String} (hwellFormed : tree.WellFormed)
    (hname : Path.IsName name) (hstays : gone (tree.home path ++ [name]) = false) :
    (tree.without gone).readText (Path.join path name) = .ok text ↔
      tree.readText (Path.join path name) = .ok text := by
  have hhome : (tree.without gone).home path = tree.home path := rfl
  simp only [readText_join_iff hname, opens_without_iff hwellFormed, hhome, file?_without, hstays]
  simp

/-! ## One removal after another -/

theorem without_congr
    (hsame : ∀ location, (tree.file? location).isSome → gone location = more location) :
    tree.without gone = tree.without more := by
  rw [without, without]
  congr 1
  refine List.filter_congr fun entry _ => ?_
  cases hfile : tree.file? entry.1 with
  | none => rfl
  | some file => rw [hsame entry.1 (Option.isSome_of_eq_some hfile)]

theorem without_without (tree : FileTree) (gone more : Location → Bool) :
    (tree.without gone).without more =
      tree.without fun location => gone location || more location := by
  have hfile : ∀ location, ((tree.without gone).file? location).isNone =
      (gone location || (tree.file? location).isNone) := by
    intro location
    rw [file?_without]
    cases gone location <;> simp
  change { tree.without gone with
    entries := (tree.without gone).entries.filter fun entry =>
      ((tree.without gone).file? entry.1).isNone || !more entry.1 } = _
  simp only [hfile]
  simp only [without, List.filter_filter]
  congr 1
  refine List.filter_congr fun entry _ => ?_
  cases (tree.file? entry.1).isNone <;> cases gone entry.1 <;> simp

/-- What is taken away from what is left can be taken away at once. -/
theorem without_append {all : Location → Bool}
    (hleft : ∀ location, ((tree.without gone).get? location).isSome →
      more location = all location) :
    (tree.without gone).without more =
      tree.without fun location => gone location || all location := by
  rw [without_without]
  refine without_congr fun location hfile => ?_
  cases hgone : gone location with
  | true => rfl
  | false =>
      refine hleft location ?_
      rw [get?_without, if_neg (by simp [hgone])]
      obtain ⟨file, hfile⟩ := Option.isSome_iff_exists.mp hfile
      exact Option.isSome_of_eq_some (file?_eq_some_iff.mp hfile)

theorem without_of_none (hnone : ∀ location, (tree.file? location).isSome → gone location = false) :
    tree.without gone = tree := by
  have hall : tree.entries.filter (fun entry => (tree.file? entry.1).isNone || !false) =
      tree.entries :=
    List.filter_eq_self.mpr fun entry _ => Bool.or_true _
  rw [without_congr hnone, without, hall]

/-- To erase a file is to take it away from the tree. -/
theorem erase_eq_without (hwellFormed : tree.WellFormed)
    (hfile : tree.file? place = some file) :
    tree.erase place = tree.without fun location => location == place := by
  rw [erase, without]
  congr 1
  refine List.filter_congr fun entry hentry => ?_
  have hsome : (tree.get? entry.1).isSome := isSome_get?_iff.mpr (.inr ⟨entry, hentry, rfl⟩)
  by_cases hsame : entry.1 = place
  · simp [hsame, hfile]
  · have hapart : place.isPrefixOf entry.1 = false := by
      rw [← Bool.not_eq_true, List.isPrefixOf_iff_prefix]
      intro hbelow
      have hplace : tree.get? place ≠ some .directory := by
        rw [file?_eq_some_iff.mp hfile]
        simp
      rw [hwellFormed.get?_of_prefix hplace hbelow hsame] at hsome
      exact absurd hsome Bool.false_ne_true
    simp [hsame, hapart]

end PromptScript.FileTree

namespace PromptScript.Pattern

variable {tree : FileTree} {start path component name pattern base : String}
  {names components result : List String} {gone : Location → Bool} {location : Location}

/-! ## Walks through what is left -/

theorem openDirectories_without (hwellFormed : tree.WellFormed) :
    name ∈ openDirectories (tree.without gone) path ↔ name ∈ openDirectories tree path := by
  simp only [mem_openDirectories_iff, FileTree.directory_without_iff,
    FileTree.resolve_without_iff hwellFormed]
  constructor
  · rintro ⟨location, ⟨hresolve, -⟩, hname⟩
    exact ⟨location, hresolve, hname⟩
  · rintro ⟨location, hresolve, hname⟩
    have habove := hwellFormed.above hname.1
    exact ⟨location, ⟨hresolve, FileTree.isSome_without_of_directory habove⟩, hname⟩

theorem matchingNames_without (hwellFormed : tree.WellFormed) :
    name ∈ matchingNames (tree.without gone) path component ↔
      name ∈ matchingNames tree path component ∧
        ((tree.without gone).get? (tree.home path ++ [name])).isSome := by
  simp only [mem_matchingNames_iff, FileTree.directory_without_iff,
    FileTree.resolve_without_iff hwellFormed]
  constructor
  · rintro ⟨location, ⟨hresolve, -⟩, hdirectory, hsome, hadmits⟩
    rw [← FileTree.eq_home_of_resolve hresolve]
    exact ⟨⟨location, hresolve, hdirectory, FileTree.isSome_of_without hsome, hadmits⟩, hsome⟩
  · rintro ⟨⟨location, hresolve, hdirectory, -, hadmits⟩, hsome⟩
    rw [← FileTree.eq_home_of_resolve hresolve] at hsome
    exact ⟨location, ⟨hresolve, FileTree.isSome_without_of_directory hdirectory⟩, hdirectory, hsome,
      hadmits⟩

theorem Reaches.of_without (hwellFormed : tree.WellFormed)
    (hreaches : Reaches (tree.without gone) start names components result) :
    Reaches tree start names components result := by
  induction hreaches with
  | stop hexists =>
      rw [FileTree.existsAt_iff, FileTree.resolve_without_iff hwellFormed] at hexists
      exact .stop (FileTree.existsAt_of_resolve hexists.1)
  | skip _ ih => exact .skip ih
  | down hname _ ih => exact .down ((openDirectories_without hwellFormed).mp hname) ih
  | plain hplain _ ih => exact .plain hplain ih
  | glob hdeep hglob hname _ ih =>
      exact .glob hdeep hglob ((matchingNames_without hwellFormed).mp hname).1 ih

/-- A walk through what is left finds what it found before, if it is still there: what is gone was
on the way to nothing else. -/
theorem Reaches.without (hsound : tree.Sound)
    (hcomponents : ∀ component ∈ components, Path.IsPiece component)
    (hreaches : Reaches tree start names components result)
    (hexists : (tree.without gone).existsAt (pathBelow start result) = true) :
    Reaches (tree.without gone) start names components result := by
  have hwellFormed := hsound.toWellFormed
  induction hreaches with
  | stop => exact .stop hexists
  | skip _ ih => exact .skip (ih (List.forall_mem_of_forall_mem_cons hcomponents) hexists)
  | down hname _ ih =>
      exact .down ((openDirectories_without hwellFormed).mpr hname) (ih hcomponents hexists)
  | plain hplain _ ih =>
      exact .plain hplain (ih (List.forall_mem_of_forall_mem_cons hcomponents) hexists)
  | glob hdeep hglob hname hrest ih =>
      have hlater := List.forall_mem_of_forall_mem_cons hcomponents
      refine .glob hdeep hglob ((matchingNames_without hwellFormed).mpr ⟨hname, ?_⟩)
        (ih hlater hexists)
      -- the entry of the name is the result itself or a directory on the way to it
      obtain ⟨more, rfl, hmore⟩ := hrest.exists_append hsound hlater
      have hpiece := isName_of_mem_matchingNames hsound hname
      have hsome := isSome_home_of_append (hwellFormed.without gone) hmore hexists
      rwa [pathBelow_concat, FileTree.home_join hpiece.isPiece,
        FileTree.turn_of_named hpiece.named] at hsome

theorem reaches_without_iff (hsound : tree.Sound)
    (hcomponents : ∀ component ∈ components, Path.IsPiece component) :
    Reaches (tree.without gone) start names components result ↔
      Reaches tree start names components result ∧
        (tree.without gone).existsAt (pathBelow start result) = true := by
  constructor
  · intro hreaches
    exact ⟨hreaches.of_without hsound.toWellFormed, hreaches.existsAt⟩
  · rintro ⟨hreaches, hexists⟩
    exact hreaches.without hsound hcomponents hexists

/-! ## What patterns name -/

/-- A pattern names an entry where one of its alternatives does. -/
theorem exists_mem_expand_iff (hsound : tree.Sound) :
    (∃ path ∈ expand tree pattern base, tree.resolve path = .ok location) ↔
      ∃ alternative ∈ expandBraces pattern, ∃ path ∈ expandOne tree base alternative,
        tree.resolve path = .ok location := by
  constructor
  · rintro ⟨path, hpath, hresolve⟩
    obtain ⟨alternative, halternative, hfound⟩ := exists_expandOne_of_mem_expand hpath
    exact ⟨alternative, halternative, path, hfound, hresolve⟩
  · rintro ⟨alternative, halternative, path, hpath, hresolve⟩
    obtain ⟨kept, hkept, hparts⟩ := exists_expand_of_mem_expandOne halternative hpath
    obtain ⟨other, -, hone⟩ := exists_expandOne_of_mem_expand hkept
    obtain ⟨names, hreaches, rfl⟩ := (mem_expandOne_iff hsound).mp hone
    refine ⟨_, hkept, ?_⟩
    rw [FileTree.existsAt_iff.mp hreaches.existsAt, FileTree.home_eq_of_parts hparts,
      ← FileTree.eq_home_of_resolve hresolve]

/-- What is left is named by the same patterns as before. -/
theorem exists_mem_expand_without (hsound : tree.Sound)
    (hleft : ((tree.without gone).get? location).isSome) :
    (∃ path ∈ expand (tree.without gone) pattern base,
        (tree.without gone).resolve path = .ok location) ↔
      ∃ path ∈ expand tree pattern base, tree.resolve path = .ok location := by
  rw [exists_mem_expand_iff hsound, exists_mem_expand_iff (hsound.without gone)]
  refine exists_congr fun alternative => and_congr_right fun _ => exists_congr fun path => ?_
  rw [mem_expandOne_iff hsound, mem_expandOne_iff (hsound.without gone),
    FileTree.resolve_without_iff hsound.toWellFormed, and_iff_left hleft]
  refine and_congr_left fun hresolve => exists_congr fun names => and_congr_left fun hpath => ?_
  rw [reaches_without_iff hsound fun component => isPiece_of_mem_splitBase, hpath]
  have hstays : (tree.without gone).resolve path = .ok location :=
    (FileTree.resolve_without_iff hsound.toWellFormed).mpr ⟨hresolve, hleft⟩
  exact and_iff_left (FileTree.existsAt_of_resolve hstays)

end PromptScript.Pattern
