import PromptScript.Proofs.Files.Tree

/-!
# Places in a file tree

A path that can be followed leads to the place that its components determine, and something stands
there.  A tree is sound where its entries have names that paths can hold: then the names in a
directory are those behind which a path leads to an entry.
-/

namespace PromptScript

namespace FileTree

variable {tree : FileTree} {location place : Location} {path name : String}

/-- Whether a tree is well formed and its entries have names that paths can hold. -/
structure Sound (tree : FileTree) : Prop extends tree.WellFormed where
  named {location : Location} {name : String}
    (hentry : (tree.get? (location ++ [name])).isSome) : Path.IsName name ∧ name.utf8ByteSize ≤ 255

theorem isSome_get?_iff :
    (tree.get? place).isSome ↔ place = [] ∨ ∃ entry ∈ tree.entries, entry.1 = place := by
  rw [get?]
  split
  next hempty => simp [List.isEmpty_iff.mp hempty]
  next hsome =>
    rw [List.isEmpty_iff] at hsome
    simp [hsome]

/-- Whether a tree is sound can be read off its entries. -/
theorem sound_iff :
    tree.Sound ↔ tree.get? tree.workingDirectory = some .directory ∧
      ∀ entry ∈ tree.entries, ∀ name ∈ entry.1.getLast?,
        tree.get? entry.1.dropLast = some .directory ∧
          Path.IsName name ∧ name.utf8ByteSize ≤ 255 := by
  constructor
  · intro hsound
    refine ⟨hsound.workingDirectory, fun entry hentry name hname => ?_⟩
    obtain ⟨above, hplace⟩ := List.getLast?_eq_some_iff.mp hname
    have hsome : (tree.get? (above ++ [name])).isSome :=
      isSome_get?_iff.mpr (.inr ⟨entry, hentry, hplace⟩)
    obtain ⟨found, hfound⟩ := Option.isSome_iff_exists.mp hsome
    rw [hplace, List.dropLast_concat]
    exact ⟨hsound.above hfound, hsound.named hsome⟩
  · rintro ⟨hworking, hentries⟩
    have hplaced : ∀ {location : Location} {name : String},
        (tree.get? (location ++ [name])).isSome →
        tree.get? location = some .directory ∧ Path.IsName name ∧ name.utf8ByteSize ≤ 255 := by
      intro location name hsome
      rcases isSome_get?_iff.mp hsome with hroot | ⟨entry, hentry, hplace⟩
      · simp at hroot
      · have hchecked := hentries entry hentry name (by simp [hplace])
        rwa [hplace, List.dropLast_concat] at hchecked
    exact ⟨⟨hworking, fun hentry => (hplaced (Option.isSome_of_eq_some hentry)).1⟩,
      fun hsome => (hplaced hsome).2⟩

instance (tree : FileTree) : Decidable tree.Sound :=
  decidable_of_iff _ sound_iff.symm

theorem mem_namesAt_iff :
    name ∈ tree.namesAt location ↔ (tree.get? (location ++ [name])).isSome := by
  have hsplit : ∀ place : Location,
      place.dropLast = location ∧ place.getLast? = some name ↔ place = location ++ [name] := by
    intro place
    rw [List.getLast?_eq_some_iff]
    constructor
    · rintro ⟨hlocation, above, rfl⟩
      rw [← hlocation, List.dropLast_concat]
    · rintro rfl
      exact ⟨List.dropLast_concat, location, rfl⟩
  simp [namesAt, isSome_get?_iff, List.mem_filterMap, hsplit]

theorem namesAt_sorted (tree : FileTree) (location : Location) :
    (tree.namesAt location).Pairwise (· ≤ ·) := by
  rw [namesAt]
  refine (List.pairwise_mergeSort ?_ ?_ _).imp ?_
  · intro first second third hfirst hsecond
    simp only [Bool.not_eq_true', decide_eq_false_iff_not, String.not_lt] at hfirst hsecond ⊢
    exact String.le_trans hfirst hsecond
  · intro first second
    simp only [Bool.or_eq_true, Bool.not_eq_true', decide_eq_false_iff_not, String.not_lt]
    exact String.le_total first second
  · intro first second hordered
    simp only [Bool.not_eq_true', decide_eq_false_iff_not, String.not_lt] at hordered
    exact hordered

theorem isDirectoryAt_iff :
    tree.isDirectoryAt place = true ↔ tree.get? place = some .directory := by
  rw [isDirectoryAt, beq_iff_eq]

/-- Above an entry there is a directory. -/
theorem WellFormed.directory_above (hwellFormed : tree.WellFormed) {more : Location}
    (hsome : (tree.get? (location ++ name :: more)).isSome) :
    tree.get? location = some .directory := by
  obtain ⟨entry, hentry⟩ := Option.isSome_iff_exists.mp hsome
  exact hwellFormed.directory_of_append (List.cons_ne_nil name more) hentry

theorem WellFormed.isSome_above (hwellFormed : tree.WellFormed) {more : Location}
    (hsome : (tree.get? (location ++ more)).isSome) : (tree.get? location).isSome := by
  cases more with
  | nil => rwa [List.append_nil] at hsome
  | cons name more => exact Option.isSome_of_eq_some (hwellFormed.directory_above hsome)

theorem Sound.isName_of_mem (hsound : tree.Sound) {names : List String}
    (hsome : (tree.get? (location ++ names)).isSome) (hname : name ∈ names) : Path.IsName name := by
  obtain ⟨before, behind, rfl⟩ := List.append_of_mem hname
  rw [← List.append_assoc, List.append_cons] at hsome
  exact (hsound.named (hsound.isSome_above hsome)).1

/-! ## Paths that can be followed -/

theorem resolve_eq_ok_iff :
    tree.resolve path = .ok place ↔
      checkPath path = .ok () ∧ tree.follow (tree.origin path) (Path.pieces path) = .ok place := by
  simp only [resolve, Attempt.bind_eq_ok_iff]
  refine ⟨?_, fun hpath => ⟨(), hpath⟩⟩
  rintro ⟨⟨⟩, hpath⟩
  exact hpath

theorem checkPath_eq_ok_iff : checkPath path = .ok () ↔ '\x00' ∉ path.toList ∧ path ≠ "" := by
  rw [checkPath]
  split
  next hnul =>
    rw [List.contains_iff_mem] at hnul
    simp [hnul]
  next hplain =>
    rw [List.contains_iff_mem] at hplain
    split
    next hempty => simp [String.isEmpty_iff.mp hempty]
    next hsome =>
      rw [String.isEmpty_iff] at hsome
      simp [hplain, hsome]

theorem eq_home_of_resolve (hresolve : tree.resolve path = .ok place) : place = tree.home path :=
  follow_eq_foldl (resolve_eq_ok_iff.mp hresolve).2

theorem existsAt_of_resolve (hresolve : tree.resolve path = .ok place) :
    tree.existsAt path = true := by
  rw [existsAt, hresolve]
  rfl

theorem existsAt_iff : tree.existsAt path = true ↔ tree.resolve path = .ok (tree.home path) := by
  refine ⟨fun hexists => ?_, existsAt_of_resolve⟩
  cases hresolve : tree.resolve path with
  | error =>
      rw [existsAt, hresolve] at hexists
      exact absurd hexists Bool.false_ne_true
  | ok place => rw [eq_home_of_resolve hresolve]

/-- A path that leads to a directory can be followed further. -/
theorem opens_of_resolve (hresolve : tree.resolve path = .ok place)
    (hdirectory : tree.get? place = some .directory) : tree.Opens path := by
  obtain rfl := eq_home_of_resolve hresolve
  obtain ⟨hcheck, hfollow⟩ := resolve_eq_ok_iff.mp hresolve
  refine ⟨(checkPath_eq_ok_iff.mp hcheck).1, ?_, hdirectory⟩
  rcases Path.pieces_eq_lead path with hpieces | ⟨hpieces, -⟩
  · rw [hpieces] at hfollow
    obtain ⟨middle, hlead, -⟩ := follow_append_iff.mp hfollow
    rwa [eq_home_of_follow hlead] at hlead
  · rwa [hpieces] at hfollow

theorem Opens.resolve (hopens : tree.Opens path) (hpath : path ≠ "") :
    tree.resolve path = .ok (tree.home path) := by
  refine resolve_eq_ok_iff.mpr ⟨checkPath_eq_ok_iff.mpr ⟨hopens.written, hpath⟩, ?_⟩
  rcases Path.pieces_eq_lead path with hpieces | ⟨hpieces, -⟩
  · rw [hpieces]
    have hlast : tree.follow (tree.home path) [""] = .ok (tree.home path) :=
      follow_cons_iff.mpr ⟨hopens.directory, by simp, rfl⟩
    exact follow_append_iff.mpr ⟨_, hopens.follows, hlast⟩
  · rw [hpieces]
    exact hopens.follows

/-- Something stands where a name that can be followed leads. -/
theorem isSome_turn (hwellFormed : tree.WellFormed)
    (hdirectory : tree.get? location = some .directory)
    (hname : name ≠ "" ∧ name ≠ "." ∧ name ≠ ".." → (tree.get? (turn location name)).isSome) :
    (tree.get? (turn location name)).isSome := by
  by_cases hnamed : name ≠ "" ∧ name ≠ "." ∧ name ≠ ".."
  · exact hname hnamed
  · rw [turn]
    split
    next => exact Option.isSome_of_eq_some hdirectory
    next =>
      split
      next => exact Option.isSome_of_eq_some (hwellFormed.dropLast hdirectory)
      next => tauto

theorem isSome_of_follow {names : List String} (hwellFormed : tree.WellFormed)
    (hlocation : (tree.get? location).isSome) (hfollow : tree.follow location names = .ok place) :
    (tree.get? place).isSome := by
  induction names generalizing location with
  | nil =>
      cases hfollow
      exact hlocation
  | cons name rest ih =>
      obtain ⟨hdirectory, hname, hrest⟩ := follow_cons_iff.mp hfollow
      exact ih (isSome_turn hwellFormed hdirectory fun hnamed => (hname hnamed).2) hrest

theorem origin_directory (hwellFormed : tree.WellFormed) (path : String) :
    tree.get? (tree.origin path) = some .directory := by
  rw [origin]
  split
  next => rfl
  next => exact hwellFormed.workingDirectory

/-- Something stands where a path leads. -/
theorem isSome_of_resolve (hwellFormed : tree.WellFormed)
    (hresolve : tree.resolve path = .ok place) : (tree.get? place).isSome := by
  have horigin := Option.isSome_of_eq_some (origin_directory hwellFormed path)
  exact isSome_of_follow hwellFormed horigin (resolve_eq_ok_iff.mp hresolve).2

/-! ## Components -/

/-- The location to which one component leads from a location. -/
def enter (location : Location) : PathPart → Location
  | .root => []
  | .here => location
  | .up => location.dropLast
  | .name name => location ++ [name]

theorem foldl_turn (location : Location) (pieces : List String) :
    pieces.foldl turn location = (pieces.filterMap Path.partOfPiece?).foldl enter location := by
  induction pieces generalizing location with
  | nil => rfl
  | cons piece rest ih =>
      rw [List.foldl_cons, ih, List.filterMap_cons, turn, Path.partOfPiece?]
      split
      next => rfl
      next => split <;> rfl

/-- The components of a path determine where it leads. -/
theorem home_eq_foldl (tree : FileTree) (path : String) :
    tree.home path = (Path.parts path).foldl enter tree.workingDirectory := by
  rw [home, foldl_turn, origin, Path.parts, List.foldl_append]
  split
  next => rfl
  next => split <;> rfl

theorem home_eq_of_parts {other : String} (hparts : Path.parts path = Path.parts other) :
    tree.home path = tree.home other := by
  rw [home_eq_foldl, home_eq_foldl, hparts]

theorem home_join (hpiece : Path.IsPiece name) :
    tree.home (Path.join path name) = turn (tree.home path) name := by
  rw [home, Path.pieces_join hpiece, origin_join tree hpiece, List.foldl_append, foldl_lead]
  rfl

end FileTree

end PromptScript
