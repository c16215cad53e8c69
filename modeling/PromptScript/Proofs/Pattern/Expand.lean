import PromptScript.Proofs.Pattern.Walk

/-!
# The paths that a pattern names

What is found for the alternatives of a pattern is put in the order of paths, and of paths with the
same components one is kept.  Below a base directory the names that are found determine the path, so
that nothing is lost: the paths of a pattern are those of the entries whose names one of its
alternatives covers.
-/

namespace PromptScript.Pattern

variable {tree : FileTree} {pattern alternative base start path : String}
  {paths components names more : List String} {place location : Location}

/-! ## Paths in order -/

theorem mem_of_mem_dropRepeated (hpath : path ∈ dropRepeated paths) : path ∈ paths := by
  fun_induction dropRepeated paths with
  | case1 => exact hpath
  | case2 => exact hpath
  | case3 first second rest hsame ih =>
      exact List.Sublist.mem (ih hpath) (.cons_cons first (List.sublist_cons_self second rest))
  | case4 first second rest hother ih =>
      exact (List.mem_cons.mp hpath).elim (fun hfirst => hfirst ▸ List.mem_cons_self)
        fun hrest => List.mem_cons_of_mem first (ih hrest)

/-- For every path one with the same components is kept. -/
theorem exists_mem_dropRepeated (hpath : path ∈ paths) :
    ∃ kept ∈ dropRepeated paths, Path.parts kept = Path.parts path := by
  fun_induction dropRepeated paths generalizing path with
  | case1 => cases hpath
  | case2 only => exact ⟨path, hpath, rfl⟩
  | case3 first second rest hsame ih =>
      rcases List.mem_cons.mp hpath with rfl | hpath
      · exact ih List.mem_cons_self
      · rcases List.mem_cons.mp hpath with rfl | hpath
        · obtain ⟨kept, hkept, hparts⟩ := ih (List.mem_cons_self (a := first))
          exact ⟨kept, hkept, hparts.trans hsame⟩
        · exact ih (List.mem_cons_of_mem first hpath)
  | case4 first second rest hother ih =>
      rcases List.mem_cons.mp hpath with rfl | hpath
      · exact ⟨path, List.mem_cons_self, rfl⟩
      · obtain ⟨kept, hkept, hparts⟩ := ih hpath
        exact ⟨kept, List.mem_cons_of_mem first hkept, hparts⟩

/-- Whether a path stands before another one. -/
def Precedes (first second : String) : Prop :=
  Path.partsBefore (Path.parts first) (Path.parts second) = true

theorem Precedes.of_not {first second third : String} (hfirst : Precedes first second)
    (hsecond : ¬Precedes third second) : Precedes first third := by
  rcases Path.partsBefore_total (Path.parts first) (Path.parts third) with hless | hsame | hmore
  · exact hless
  · rw [Precedes, ← hsame] at hsecond
    exact absurd hfirst hsecond
  · exact absurd (Path.partsBefore_trans hmore hfirst) hsecond

theorem pairwise_dropRepeated
    (hordered : paths.Pairwise fun first second => ¬Precedes second first) :
    (dropRepeated paths).Pairwise Precedes := by
  fun_induction dropRepeated paths with
  | case1 => exact .nil
  | case2 => exact List.pairwise_singleton _ _
  | case3 first second rest hsame ih =>
      exact ih (hordered.sublist (.cons_cons first (List.sublist_cons_self second rest)))
  | case4 first second rest hother ih =>
      obtain ⟨hfirst, hrest⟩ := List.pairwise_cons.mp hordered
      refine List.pairwise_cons.mpr ⟨fun path hpath => ?_, ih hrest⟩
      have hless : Precedes first second := by
        rcases Path.partsBefore_total (Path.parts first) (Path.parts second) with h | hsame | hmore
        · exact h
        · exact absurd hsame hother
        · exact absurd hmore (hfirst second List.mem_cons_self)
      rcases List.mem_cons.mp (mem_of_mem_dropRepeated hpath) with rfl | hpath
      · exact hless
      · exact hless.of_not ((List.pairwise_cons.mp hrest).1 path hpath)

/-- The paths of a pattern stand in order, each before all later ones. -/
theorem pairwise_expand (tree : FileTree) (pattern base : String) :
    (expand tree pattern base).Pairwise Precedes := by
  refine pairwise_dropRepeated ((List.pairwise_mergeSort ?_ ?_ _).imp fun hordered => ?_)
  · intro first second third hfirst hsecond
    rw [Bool.not_eq_true'] at hfirst hsecond ⊢
    exact Path.partsBefore_eq_false_trans hfirst hsecond
  · intro first second
    cases hbehind : Path.partsBefore (Path.parts second) (Path.parts first) with
    | false => rfl
    | true => rw [Path.partsBefore_asymm hbehind]; rfl
  · rwa [Bool.not_eq_true', ← Bool.not_eq_true] at hordered

theorem exists_expandOne_of_mem_expand (hpath : path ∈ expand tree pattern base) :
    ∃ alternative ∈ expandBraces pattern, path ∈ expandOne tree base alternative := by
  have hfound := List.mem_mergeSort.mp (mem_of_mem_dropRepeated hpath)
  exact List.mem_flatMap.mp hfound

/-- Of every path that is found one with the same components is among the paths of the pattern. -/
theorem exists_expand_of_mem_expandOne (halternative : alternative ∈ expandBraces pattern)
    (hpath : path ∈ expandOne tree base alternative) :
    ∃ kept ∈ expand tree pattern base, Path.parts kept = Path.parts path :=
  exists_mem_dropRepeated
    (List.mem_mergeSort.mpr (List.mem_flatMap.mpr ⟨alternative, halternative, hpath⟩))

/-! ## Names that a pattern covers -/

/-- Whether components stand for the names from a place of a tree on: `**` for any number of
directories that are not hidden, a component without glob characters for itself, and every other one
for a name that it matches. -/
inductive Covers (tree : FileTree) : Location → List String → List String → Prop where
  | nil {place : Location} : Covers tree place [] []
  | skip {place : Location} {rest names : List String} (hrest : Covers tree place rest names) :
      Covers tree place ("**" :: rest) names
  | down {place : Location} {name : String} {rest names : List String}
      (hdirectory : tree.get? (place ++ [name]) = some .directory) (hopen : isHidden name = false)
      (hrest : Covers tree (place ++ [name]) ("**" :: rest) names) :
      Covers tree place ("**" :: rest) (name :: names)
  | plain {place : Location} {component : String} {rest names : List String}
      (hplain : containsGlob component.toList = false)
      (hrest : Covers tree (place ++ [component]) rest names) :
      Covers tree place (component :: rest) (component :: names)
  | glob {place : Location} {component name : String} {rest names : List String}
      (hdeep : component ≠ "**") (hglob : containsGlob component.toList = true)
      (hname : Admits component name) (hrest : Covers tree (place ++ [name]) rest names) :
      Covers tree place (component :: rest) (name :: names)

section Below

variable (hsound : tree.Sound) (hbase : tree.resolve base = .ok place)
  (hdirectory : tree.get? place = some .directory)
include hsound hbase hdirectory

/-- Below a base directory a path leads to the entry of its names. -/
theorem resolve_pathBelow_iff (hnames : ∀ name ∈ names, Path.IsProper name) :
    tree.resolve (pathBelow base names) = .ok location ↔
      location = place ++ names ∧ (tree.get? location).isSome := by
  induction names using List.reverseRecOn generalizing location with
  | nil =>
      rw [List.append_nil]
      constructor
      · intro hresolve
        obtain rfl := Except.ok.inj (hbase.symm.trans hresolve)
        exact ⟨rfl, Option.isSome_of_eq_some hdirectory⟩
      · rintro ⟨rfl, -⟩
        exact hbase
  | append_singleton names name ih =>
      rw [List.forall_mem_append, List.forall_mem_singleton] at hnames
      obtain ⟨hnames, hname⟩ := hnames
      obtain ⟨hwritten, -⟩ := FileTree.resolve_eq_ok_iff.mp hbase
      have hsome : pathBelow base names ≠ "" :=
        pathBelow_ne_empty (FileTree.checkPath_eq_ok_iff.mp hwritten).2
          fun name hname => (hnames name hname).toIsPiece
      rw [pathBelow_concat, FileTree.resolve_piece_iff hname.toIsPiece,
        FileTree.turn_of_named hname.named, forall_prop_of_true hname.named, ← List.append_assoc]
      constructor
      · rintro ⟨hopens, -, ⟨-, hentry⟩, rfl⟩
        obtain ⟨hhome, -⟩ := (ih hnames).mp (hopens.resolve hsome)
        rw [hhome] at hentry ⊢
        exact ⟨rfl, hentry⟩
      · rintro ⟨rfl, hentry⟩
        have habove := hsound.directory_above hentry
        have hresolve := (ih hnames).mpr ⟨rfl, Option.isSome_of_eq_some habove⟩
        obtain ⟨hnamed, hshort⟩ := hsound.named hentry
        rw [← FileTree.eq_home_of_resolve hresolve]
        exact ⟨FileTree.opens_of_resolve hresolve habove, hnamed.written, ⟨hshort, hentry⟩, rfl⟩

/-- The names that a walk finds are covered by the components. -/
theorem covers_of_reaches (hcomponents : ∀ component ∈ components, Path.IsProper component)
    (hnames : ∀ name ∈ names, Path.IsProper name)
    (hreaches : Reaches tree base names components more) :
    ∃ later, more = names ++ later ∧ (∀ name ∈ later, Path.IsProper name) ∧
      Covers tree (place ++ names) components later := by
  have hadded : ∀ {names : List String} {name : String}, (∀ name ∈ names, Path.IsProper name) →
      Path.IsProper name → ∀ other ∈ names ++ [name], Path.IsProper other :=
    fun hnames hname => List.forall_mem_append.mpr ⟨hnames, List.forall_mem_singleton.mpr hname⟩
  induction hreaches with
  | stop => exact ⟨[], (List.append_nil _).symm, by simp, .nil⟩
  | skip _ ih =>
      obtain ⟨later, hmore, hproper, hcovers⟩ :=
        ih (List.forall_mem_of_forall_mem_cons hcomponents) hnames
      exact ⟨later, hmore, hproper, .skip hcovers⟩
  | down hname _ ih =>
      have hproper := (isName_of_mem_openDirectories hsound hname).isProper
      obtain ⟨location, hresolve, hinner, hopen⟩ := mem_openDirectories_iff.mp hname
      obtain ⟨rfl, -⟩ := (resolve_pathBelow_iff hsound hbase hdirectory hnames).mp hresolve
      obtain ⟨later, rfl, hlater, hcovers⟩ := ih hcomponents (hadded hnames hproper)
      rw [← List.append_assoc] at hcovers
      exact ⟨_, (List.append_cons _ _ _).symm, List.forall_mem_cons.mpr ⟨hproper, hlater⟩,
        .down hinner hopen hcovers⟩
  | plain hplain _ ih =>
      obtain ⟨hproper, hrest⟩ := List.forall_mem_cons.mp hcomponents
      obtain ⟨later, rfl, hlater, hcovers⟩ := ih hrest (hadded hnames hproper)
      rw [← List.append_assoc] at hcovers
      exact ⟨_, (List.append_cons _ _ _).symm, List.forall_mem_cons.mpr ⟨hproper, hlater⟩,
        .plain hplain hcovers⟩
  | glob hdeep hglob hname _ ih =>
      obtain ⟨-, hrest⟩ := List.forall_mem_cons.mp hcomponents
      have hproper := (isName_of_mem_matchingNames hsound hname).isProper
      obtain ⟨-, -, -, -, hadmits⟩ := mem_matchingNames_iff.mp hname
      obtain ⟨later, rfl, hlater, hcovers⟩ := ih hrest (hadded hnames hproper)
      rw [← List.append_assoc] at hcovers
      exact ⟨_, (List.append_cons _ _ _).symm, List.forall_mem_cons.mpr ⟨hproper, hlater⟩,
        .glob hdeep hglob hadmits hcovers⟩

/-- The walk finds the names of an entry that the components cover. -/
theorem reaches_of_covers (hnames : ∀ name ∈ names, Path.IsProper name)
    (hcovers : Covers tree (place ++ names) components more)
    (hentry : (tree.get? (place ++ names ++ more)).isSome) :
    Reaches tree base names components (names ++ more) := by
  have hresolve : ∀ {names later : List String}, (∀ name ∈ names, Path.IsProper name) →
      (tree.get? (place ++ names ++ later)).isSome →
      tree.resolve (pathBelow base names) = .ok (place ++ names) := fun hnames hentry =>
    (resolve_pathBelow_iff hsound hbase hdirectory hnames).mpr ⟨rfl, hsound.isSome_above hentry⟩
  have hnext : ∀ {names later : List String} {name : String},
      (∀ name ∈ names, Path.IsProper name) →
      (tree.get? (place ++ names ++ name :: later)).isSome →
      (∀ other ∈ names ++ [name], Path.IsProper other) ∧
        (tree.get? (place ++ (names ++ [name]) ++ later)).isSome := by
    intro names later name hnames hentry
    have hname := (hsound.isName_of_mem hentry List.mem_cons_self).isProper
    refine ⟨List.forall_mem_append.mpr ⟨hnames, List.forall_mem_singleton.mpr hname⟩, ?_⟩
    rwa [← List.append_assoc, ← List.append_cons]
  generalize hplace : place ++ names = location at hcovers
  induction hcovers generalizing names with
  | nil =>
      rw [List.append_nil]
      exact .stop (FileTree.existsAt_of_resolve (hresolve hnames hentry))
  | skip _ ih => exact .skip (ih hnames hentry hplace)
  | down hinner hopen _ ih =>
      subst hplace
      obtain ⟨hadded, hbelow⟩ := hnext hnames hentry
      have hlisted := mem_openDirectories_iff.mpr ⟨_, hresolve hnames hentry, hinner, hopen⟩
      rw [List.append_cons]
      exact .down hlisted (ih hadded hbelow (List.append_assoc _ _ _).symm)
  | plain hplain _ ih =>
      subst hplace
      obtain ⟨hadded, hbelow⟩ := hnext hnames hentry
      rw [List.append_cons]
      exact .plain hplain (ih hadded hbelow (List.append_assoc _ _ _).symm)
  | glob hdeep hglob hname _ ih =>
      subst hplace
      obtain ⟨hadded, hbelow⟩ := hnext hnames hentry
      have hlisted := mem_matchingNames_iff.mpr ⟨_, hresolve hnames hentry,
        hsound.directory_above hentry, hsound.isSome_above (by rwa [← List.append_cons]), hname⟩
      rw [List.append_cons]
      exact .glob hdeep hglob hlisted (ih hadded hbelow (List.append_assoc _ _ _).symm)

end Below

/-! ## The paths of a pattern -/

theorem parts_pathBelow (hnames : ∀ name ∈ names, Path.IsProper name) :
    Path.parts (pathBelow base names) = Path.parts base ++ names.map .name := by
  induction names using List.reverseRecOn with
  | nil => exact (List.append_nil _).symm
  | append_singleton names name ih =>
      rw [List.forall_mem_append, List.forall_mem_singleton] at hnames
      rw [pathBelow_concat, Path.parts_join hnames.2, ih hnames.1, List.map_append,
        List.map_singleton, List.append_assoc]

/-- The walk for an alternative below the base finds the entries whose names it covers. -/
theorem mem_expandOne_below_iff (hsound : tree.Sound) (hbase : tree.resolve base = .ok place)
    (hdirectory : tree.get? place = some .directory)
    (hrelative : Path.isAbsolute alternative = false) (hbelow : .up ∉ Path.parts alternative) :
    path ∈ expandOne tree base alternative ↔
      ∃ names, path = pathBelow base names ∧ tree.resolve path = .ok (place ++ names) ∧
        Covers tree place (splitBase base alternative).2 names := by
  have hstart : (splitBase base alternative).1 = base := by
    rw [splitBase, hrelative]
    rfl
  have hcomponents : ∀ component ∈ (splitBase base alternative).2, Path.IsProper component := by
    intro component hcomponent
    rcases mem_splitBase_iff.mp hcomponent with hname | ⟨-, hup⟩
    · exact Path.isProper_of_mem_parts hname
    · exact absurd hup hbelow
  rw [mem_expandOne_iff hsound, hstart]
  constructor
  · rintro ⟨names, hreaches, rfl⟩
    obtain ⟨later, rfl, hlater, hcovers⟩ :=
      covers_of_reaches hsound hbase hdirectory hcomponents (by simp) hreaches
    rw [List.append_nil] at hcovers
    have hresolve := FileTree.existsAt_iff.mp hreaches.existsAt
    obtain ⟨hplace, -⟩ := (resolve_pathBelow_iff hsound hbase hdirectory hlater).mp hresolve
    exact ⟨_, rfl, hplace ▸ hresolve, hcovers⟩
  · rintro ⟨names, rfl, hresolve, hcovers⟩
    have hentry := FileTree.isSome_of_resolve hsound.toWellFormed hresolve
    rw [← List.append_nil place] at hcovers hentry
    exact ⟨names, reaches_of_covers hsound hbase hdirectory (by simp) hcovers hentry, rfl⟩

/-- The paths of a pattern below a base directory stand in order, each once, and are those of the
existing entries whose names an alternative of the pattern covers; the walk that finds them ends
however many of the components go down through directories. -/
theorem expand_finds_covered_entries (hsound : tree.Sound) (hbase : tree.resolve base = .ok place)
    (hdirectory : tree.get? place = some .directory)
    (hpattern : ∀ alternative ∈ expandBraces pattern,
      Path.isAbsolute alternative = false ∧ .up ∉ Path.parts alternative) :
    (expand tree pattern base).Pairwise Precedes ∧ (expand tree pattern base).Nodup ∧
      (∀ path, path ∈ expand tree pattern base ↔
        ∃ names, path = pathBelow base names ∧ tree.resolve path = .ok (place ++ names) ∧
          ∃ alternative ∈ expandBraces pattern,
            Covers tree place (splitBase base alternative).2 names) ∧
      ∀ components fuel more, components.length * (depth tree + 1) < fuel → fuel ≤ more →
        walk tree base more [] components = walk tree base fuel [] components := by
  have hfound : ∀ alternative ∈ expandBraces pattern, ∀ path,
      path ∈ expandOne tree base alternative ↔
        ∃ names, path = pathBelow base names ∧ tree.resolve path = .ok (place ++ names) ∧
          Covers tree place (splitBase base alternative).2 names := by
    intro alternative halternative path
    obtain ⟨hrelative, hbelow⟩ := hpattern alternative halternative
    exact mem_expandOne_below_iff hsound hbase hdirectory hrelative hbelow
  have hproper : ∀ {path : String} {names : List String},
      tree.resolve path = .ok (place ++ names) → ∀ name ∈ names, Path.IsProper name := by
    intro path names hresolve name hname
    have hentry := FileTree.isSome_of_resolve hsound.toWellFormed hresolve
    exact (hsound.isName_of_mem hentry hname).isProper
  refine ⟨pairwise_expand tree pattern base, (pairwise_expand tree pattern base).imp ?_, ?_, ?_⟩
  · rintro first second hbefore rfl
    rw [Precedes, Path.partsBefore_irrefl] at hbefore
    exact Bool.noConfusion hbefore
  · intro path
    constructor
    · intro hpath
      obtain ⟨alternative, halternative, hpath⟩ := exists_expandOne_of_mem_expand hpath
      obtain ⟨names, hnames, hresolve, hcovers⟩ := (hfound alternative halternative path).mp hpath
      exact ⟨names, hnames, hresolve, alternative, halternative, hcovers⟩
    · rintro ⟨names, rfl, hresolve, alternative, halternative, hcovers⟩
      have hpath := (hfound alternative halternative _).mpr ⟨names, rfl, hresolve, hcovers⟩
      obtain ⟨kept, hkept, hparts⟩ := exists_expand_of_mem_expandOne halternative hpath
      obtain ⟨other, hother, hone⟩ := exists_expandOne_of_mem_expand hkept
      obtain ⟨others, rfl, hplace, -⟩ := (hfound other hother kept).mp hone
      -- the path that was kept in its place has the same components, and so the same names
      rw [parts_pathBelow (hproper hplace), parts_pathBelow (hproper hresolve)] at hparts
      have hnames : others = names :=
        List.map_injective_iff.mpr (fun _ _ => PathPart.name.inj) (List.append_cancel_left hparts)
      rwa [← hnames]
  · intro components fuel more hfuel hmore
    exact walk_eq_of_le hsound hfuel hmore

/-- A directory with a file and a directory, which holds a file and a hidden directory. -/
def workbench : FileTree :=
  ⟨[(["w"], .directory), (["w", "a.tmp"], .file ⟨[], false, 0⟩), (["w", "sub"], .directory),
    (["w", "sub", "b.tmp"], .file ⟨[], false, 1⟩), (["w", "sub", ".old"], .directory)], ["w"], 2⟩

/-- One alternative of a pattern covers a directory itself, and another one a file in it. -/
theorem expand_finds_covered_entries_workbench :
    "/w/sub" ∈ expand workbench "\x7bsub,**/[ab].tmp\x7d" "/w" ∧
      "/w/sub/b.tmp" ∈ expand workbench "\x7bsub,**/[ab].tmp\x7d" "/w" := by
  have hbraces : expandBraces "\x7bsub,**/[ab].tmp\x7d" = ["sub", "**/[ab].tmp"] := by cbv
  have hsound : workbench.Sound := by decide +kernel
  have hbase : workbench.resolve "/w" = .ok ["w"] := by decide +kernel
  have hpattern : ∀ alternative ∈ expandBraces "\x7bsub,**/[ab].tmp\x7d",
      Path.isAbsolute alternative = false ∧ .up ∉ Path.parts alternative := by
    rw [hbraces]
    decide +kernel
  obtain ⟨-, -, hpaths, -⟩ := expand_finds_covered_entries hsound hbase (by decide) hpattern
  rw [hpaths, hpaths, hbraces]
  refine ⟨⟨["sub"], by decide +kernel, by decide +kernel, "sub", by decide, ?_⟩,
    ⟨["sub", "b.tmp"], by decide +kernel, by decide +kernel, "**/[ab].tmp", by decide, ?_⟩⟩
  · have hcomponents : (splitBase "/w" "sub").2 = ["sub"] := by decide +kernel
    rw [hcomponents]
    exact .plain (by decide) .nil
  · have hcomponents : (splitBase "/w" "**/[ab].tmp").2 = ["**", "[ab].tmp"] := by decide +kernel
    have hadmits : Admits "[ab].tmp" "b.tmp" := ⟨by cbv, by decide⟩
    rw [hcomponents]
    exact .down (by decide) (by decide) (.skip (.glob (by decide) (by decide) hadmits .nil))

end PromptScript.Pattern
