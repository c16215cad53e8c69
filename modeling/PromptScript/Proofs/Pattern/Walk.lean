import PromptScript.Pattern.Expand
import PromptScript.Proofs.Files.Places

/-!
# Walks through a tree

What the walk for a list of components finds, as a relation without a bound on its steps.  A
component `**` goes down through directories, of which there are at most as many inside one another
as the tree is deep, and every other step uses a component up; so a number of steps that depends on
the tree and on the number of components is enough, and with more steps nothing else is found.
-/

namespace PromptScript.Pattern

/-- What the walk behind some names finds by a list of components. -/
inductive Reaches (tree : FileTree) (start : String) :
    List String → List String → List String → Prop where
  | stop {names : List String} (hexists : tree.existsAt (pathBelow start names) = true) :
      Reaches tree start names [] names
  | skip {names rest result : List String} (hrest : Reaches tree start names rest result) :
      Reaches tree start names ("**" :: rest) result
  | down {name : String} {names rest result : List String}
      (hname : name ∈ openDirectories tree (pathBelow start names))
      (hrest : Reaches tree start (names ++ [name]) ("**" :: rest) result) :
      Reaches tree start names ("**" :: rest) result
  | plain {component : String} {names rest result : List String}
      (hplain : containsGlob component.toList = false)
      (hrest : Reaches tree start (names ++ [component]) rest result) :
      Reaches tree start names (component :: rest) result
  | glob {component name : String} {names rest result : List String} (hdeep : component ≠ "**")
      (hglob : containsGlob component.toList = true)
      (hname : name ∈ matchingNames tree (pathBelow start names) component)
      (hrest : Reaches tree start (names ++ [name]) rest result) :
      Reaches tree start names (component :: rest) result

variable {tree : FileTree} {start path component name pattern base : String}
  {names components rest result : List String} {location : Location} {fuel level : Nat}

/-! ## Names in a directory -/

/-- Whether a component that is a glob stands for a name. -/
def Admits (component name : String) : Prop :=
  globMatch component name = true ∧ (isHidden name = true → isHidden component = true)

theorem mem_openDirectories_iff :
    name ∈ openDirectories tree path ↔
      ∃ location, tree.resolve path = .ok location ∧
        tree.get? (location ++ [name]) = some .directory ∧ isHidden name = false := by
  rw [openDirectories]
  split
  next location hresolve =>
    have hlisted (hdirectory : tree.get? (location ++ [name]) = some .directory) :
        name ∈ tree.namesAt location :=
      FileTree.mem_namesAt_iff.mpr (Option.isSome_of_eq_some hdirectory)
    simp only [List.mem_filter, Bool.and_eq_true, FileTree.isDirectoryAt_iff, Bool.not_eq_true',
      hresolve, Except.ok.injEq, exists_eq_left']
    tauto
  next hrefused => simp [hrefused]

theorem mem_matchingNames_iff :
    name ∈ matchingNames tree path component ↔
      ∃ location, tree.resolve path = .ok location ∧ tree.get? location = some .directory ∧
        (tree.get? (location ++ [name])).isSome ∧ Admits component name := by
  have hrule : (!isHidden name || isHidden component) = true ↔
      (isHidden name = true → isHidden component = true) := by
    cases isHidden name <;> simp
  rw [matchingNames]
  split
  next listed hlist =>
    simp only [FileTree.list, Attempt.bind_eq_ok_iff] at hlist
    obtain ⟨location, hresolve, hlist⟩ := hlist
    split at hlist
    next hdirectory =>
      cases hlist
      simp only [List.mem_filter, FileTree.mem_namesAt_iff, Bool.and_eq_true, hresolve, hrule,
        Except.ok.injEq, exists_eq_left', FileTree.isDirectoryAt_iff.mp hdirectory, Admits]
      tauto
    next => cases hlist
  next hrefused =>
    refine ⟨fun hname => absurd hname List.not_mem_nil, ?_⟩
    rintro ⟨location, hresolve, hdirectory, -⟩
    simp only [FileTree.list, hresolve] at hrefused
    rw [← FileTree.isDirectoryAt_iff] at hdirectory
    simp [hdirectory, bind, Except.bind, pure, Except.pure] at hrefused

theorem isName_of_mem_openDirectories (hsound : tree.Sound)
    (hname : name ∈ openDirectories tree path) : Path.IsName name := by
  obtain ⟨location, -, hdirectory, -⟩ := mem_openDirectories_iff.mp hname
  exact (hsound.named (Option.isSome_of_eq_some hdirectory)).1

theorem isName_of_mem_matchingNames (hsound : tree.Sound)
    (hname : name ∈ matchingNames tree path component) : Path.IsName name := by
  obtain ⟨location, -, -, hsome, -⟩ := mem_matchingNames_iff.mp hname
  exact (hsound.named hsome).1

theorem pathBelow_concat (start : String) (names : List String) (name : String) :
    pathBelow start (names ++ [name]) = Path.join (pathBelow start names) name := by
  rw [pathBelow, List.foldl_append]
  rfl

theorem pathBelow_ne_empty (hstart : start ≠ "") (hnames : ∀ name ∈ names, Path.IsPiece name) :
    pathBelow start names ≠ "" := by
  rcases List.eq_nil_or_concat' names with rfl | ⟨above, name, rfl⟩
  · exact hstart
  · rw [List.forall_mem_append, List.forall_mem_singleton] at hnames
    rw [pathBelow_concat]
    exact Path.join_ne _ hnames.2

/-! ## The number of steps -/

theorem length_le_depth (hsome : (tree.get? location).isSome) : location.length ≤ depth tree := by
  have hbound : ∀ (lengths : List Nat) (least n : Nat), n ∈ lengths ∨ n ≤ least →
      n ≤ lengths.foldl max least := by
    intro lengths
    induction lengths with
    | nil => simp
    | cons first rest ih =>
        intro least n hn
        refine ih _ _ ?_
        rw [List.mem_cons] at hn
        rcases hn with (rfl | hn) | hn
        · exact .inr (Nat.le_max_right _ _)
        · exact .inl hn
        · exact .inr (Nat.le_trans hn (Nat.le_max_left _ _))
  rcases FileTree.isSome_get?_iff.mp hsome with rfl | ⟨entry, hentry, rfl⟩
  · exact Nat.zero_le _
  · exact hbound _ _ _ (.inl (List.mem_map.mpr ⟨entry, hentry, rfl⟩))

/-- Below an open directory a walk is one place deeper, and no deeper than the tree. -/
theorem deeper_of_openDirectory (hsound : tree.Sound)
    (hname : name ∈ openDirectories tree (pathBelow start names))
    (hplace : ∀ location, tree.resolve (pathBelow start names) = .ok location →
      level ≤ location.length) :
    level + 1 ≤ depth tree ∧
      ∀ location, tree.resolve (pathBelow start (names ++ [name])) = .ok location →
        level + 1 ≤ location.length := by
  obtain ⟨above, habove, hdirectory, -⟩ := mem_openDirectories_iff.mp hname
  have hsome := Option.isSome_of_eq_some hdirectory
  have hlevel : level + 1 ≤ (above ++ [name]).length := by
    rw [List.length_append]
    exact Nat.succ_le_succ (hplace above habove)
  refine ⟨Nat.le_trans hlevel (length_le_depth hsome), fun location hresolve => ?_⟩
  obtain ⟨hnamed, -⟩ := hsound.named hsome
  rw [FileTree.eq_home_of_resolve hresolve, pathBelow_concat, FileTree.home_join hnamed.isPiece,
    FileTree.turn_of_named hnamed.named, ← FileTree.eq_home_of_resolve habove]
  exact hlevel

/-- One more step finds nothing else where the steps are enough for the components and for the
directories below those that the walk came through. -/
theorem walk_succ (hsound : tree.Sound) (hlevel : level ≤ depth tree)
    (hplace : ∀ location, tree.resolve (pathBelow start names) = .ok location →
      level ≤ location.length)
    (hfuel : components.length * (depth tree + 1) - level < fuel) :
    walk tree start (fuel + 1) names components = walk tree start fuel names components := by
  induction fuel generalizing names components level with
  | zero => exact absurd hfuel (Nat.not_lt_zero _)
  | succ fuel ih =>
      cases components with
      | nil => rfl
      | cons component rest =>
          rw [List.length_cons, Nat.succ_mul] at hfuel
          have hused : ∀ names, walk tree start (fuel + 1) names rest =
              walk tree start fuel names rest := by
            intro names
            exact ih (Nat.zero_le _) (fun _ _ => Nat.zero_le _) (by omega)
          rw [walk, walk]
          split
          next =>
            rw [hused]
            congr 1
            refine List.flatMap_congr fun name hname => ?_
            obtain ⟨hdeep, hbelow⟩ := deeper_of_openDirectory hsound hname hplace
            refine ih hdeep hbelow ?_
            rw [List.length_cons, Nat.succ_mul]
            omega
          next =>
            split
            next => exact hused _
            next => exact List.flatMap_congr fun name _ => hused _

/-- The walk comes to its end: no number of steps beyond the bound changes what it finds. -/
theorem walk_eq_of_le (hsound : tree.Sound) {more : Nat}
    (hfuel : components.length * (depth tree + 1) < fuel) (hmore : fuel ≤ more) :
    walk tree start more names components = walk tree start fuel names components := by
  induction hmore with
  | refl => rfl
  | step hmore ih =>
      rw [← ih]
      exact walk_succ hsound (Nat.zero_le _) (fun _ _ => Nat.zero_le _)
        (Nat.lt_of_lt_of_le hfuel hmore)

/-! ## What the walk finds -/

theorem reaches_of_mem_walk (hresult : result ∈ walk tree start fuel names components) :
    Reaches tree start names components result := by
  fun_induction walk tree start fuel names components with
  | case1 => cases hresult
  | case2 _ _ hexists =>
      obtain rfl := List.mem_singleton.mp hresult
      exact .stop hexists
  | case3 => cases hresult
  | case4 fuel names rest ihrest ihdown =>
      rcases List.mem_append.mp hresult with hresult | hresult
      · exact .skip (ihrest hresult)
      · obtain ⟨name, hname, hresult⟩ := List.mem_flatMap.mp hresult
        exact .down hname (ihdown name hresult)
  | case5 fuel names component rest _ hplain ih =>
      exact .plain (by simpa using hplain) (ih hresult)
  | case6 fuel names component rest hdeep hglob ih =>
      obtain ⟨name, hname, hresult⟩ := List.mem_flatMap.mp hresult
      exact .glob hdeep (by simpa using hglob) hname (ih name hresult)

theorem eventually_of_step {next later : List String}
    (hstep : ∀ fuel, result ∈ walk tree start fuel next later →
      result ∈ walk tree start (fuel + 1) names components)
    (hnext : ∃ enough, ∀ fuel, enough ≤ fuel → result ∈ walk tree start fuel next later) :
    ∃ enough, ∀ fuel, enough ≤ fuel → result ∈ walk tree start fuel names components := by
  obtain ⟨enough, hwalk⟩ := hnext
  refine ⟨enough + 1, fun fuel hfuel => ?_⟩
  obtain ⟨fuel, rfl⟩ := Nat.exists_eq_succ_of_ne_zero (Nat.ne_zero_of_lt hfuel)
  exact hstep fuel (hwalk fuel (Nat.le_of_succ_le_succ hfuel))

/-- What the components lead to is found by a number of steps and by every greater one. -/
theorem Reaches.exists_fuel (hreaches : Reaches tree start names components result) :
    ∃ enough, ∀ fuel, enough ≤ fuel → result ∈ walk tree start fuel names components := by
  induction hreaches with
  | stop hexists =>
      refine ⟨1, fun fuel hfuel => ?_⟩
      obtain ⟨fuel, rfl⟩ := Nat.exists_eq_succ_of_ne_zero (Nat.ne_zero_of_lt hfuel)
      rw [walk, if_pos hexists]
      exact List.mem_singleton_self _
  | skip _ ih =>
      refine eventually_of_step (fun fuel hwalk => ?_) ih
      rw [walk, if_pos rfl]
      exact List.mem_append_left _ hwalk
  | down hname _ ih =>
      refine eventually_of_step (fun fuel hwalk => ?_) ih
      rw [walk, if_pos rfl]
      exact List.mem_append_right _ (List.mem_flatMap.mpr ⟨_, hname, hwalk⟩)
  | @plain component _ _ _ hplain _ ih =>
      have hdeep : component ≠ "**" := by
        rintro rfl
        exact absurd hplain (by decide)
      refine eventually_of_step (fun fuel hwalk => ?_) ih
      rwa [walk, if_neg hdeep, if_pos (by rw [hplain]; rfl)]
  | glob hdeep hglob hname _ ih =>
      refine eventually_of_step (fun fuel hwalk => ?_) ih
      rw [walk, if_neg hdeep, if_neg (by rw [hglob]; exact Bool.false_ne_true)]
      exact List.mem_flatMap.mpr ⟨_, hname, hwalk⟩

/-- The walk finds what the components lead to, and nothing else. -/
theorem mem_walk_iff (hsound : tree.Sound)
    (hfuel : components.length * (depth tree + 1) < fuel) :
    result ∈ walk tree start fuel names components ↔
      Reaches tree start names components result := by
  refine ⟨reaches_of_mem_walk, fun hreaches => ?_⟩
  obtain ⟨enough, hwalk⟩ := hreaches.exists_fuel
  rw [← walk_eq_of_le hsound hfuel (Nat.le_max_left fuel enough)]
  exact hwalk _ (Nat.le_max_right fuel enough)

/-! ## The components of a pattern -/

theorem mem_splitBase_iff :
    component ∈ (splitBase base pattern).2 ↔
      .name component ∈ Path.parts pattern ∨ component = ".." ∧ .up ∈ Path.parts pattern := by
  simp only [splitBase, List.mem_filterMap]
  constructor
  · rintro ⟨part, hpart, hcomponent⟩
    cases part <;> simp at hcomponent
    case up => exact .inr ⟨hcomponent.symm, hpart⟩
    case name => exact .inl (hcomponent ▸ hpart)
  · rintro (hname | ⟨rfl, hup⟩)
    · exact ⟨_, hname, rfl⟩
    · exact ⟨_, hup, rfl⟩

theorem isPiece_of_mem_splitBase (hcomponent : component ∈ (splitBase base pattern).2) :
    Path.IsPiece component := by
  rcases mem_splitBase_iff.mp hcomponent with hname | ⟨rfl, -⟩
  · exact (Path.isProper_of_mem_parts hname).toIsPiece
  · exact ⟨by decide, by decide⟩

/-- The walk for a pattern without groups finds what its components lead to. -/
theorem mem_expandOne_iff (hsound : tree.Sound) :
    path ∈ expandOne tree base pattern ↔
      ∃ names, Reaches tree (splitBase base pattern).1 [] (splitBase base pattern).2 names ∧
        pathBelow (splitBase base pattern).1 names = path := by
  simp only [expandOne, List.mem_map]
  refine exists_congr fun names => and_congr_left fun _ => mem_walk_iff hsound ?_
  exact Nat.lt_add_of_pos_right Nat.two_pos

/-- What is found stands behind the names before it, by pieces of the pattern or of the tree. -/
theorem Reaches.exists_append (hsound : tree.Sound)
    (hcomponents : ∀ component ∈ components, Path.IsPiece component)
    (hreaches : Reaches tree start names components result) :
    ∃ more, result = names ++ more ∧ ∀ name ∈ more, Path.IsPiece name := by
  induction hreaches with
  | stop => exact ⟨[], (List.append_nil _).symm, by simp⟩
  | skip _ ih => exact ih (List.forall_mem_of_forall_mem_cons hcomponents)
  | down hname _ ih =>
      have hpiece := (isName_of_mem_openDirectories hsound hname).isPiece
      obtain ⟨more, rfl, hmore⟩ := ih hcomponents
      exact ⟨_, (List.append_cons _ _ _).symm, List.forall_mem_cons.mpr ⟨hpiece, hmore⟩⟩
  | plain _ _ ih =>
      obtain ⟨hpiece, hrest⟩ := List.forall_mem_cons.mp hcomponents
      obtain ⟨more, rfl, hmore⟩ := ih hrest
      exact ⟨_, (List.append_cons _ _ _).symm, List.forall_mem_cons.mpr ⟨hpiece, hmore⟩⟩
  | glob _ _ hname _ ih =>
      have hpiece := (isName_of_mem_matchingNames hsound hname).isPiece
      obtain ⟨more, rfl, hmore⟩ := ih (List.forall_mem_of_forall_mem_cons hcomponents)
      exact ⟨_, (List.append_cons _ _ _).symm, List.forall_mem_cons.mpr ⟨hpiece, hmore⟩⟩

theorem Reaches.existsAt (hreaches : Reaches tree start names components result) :
    tree.existsAt (pathBelow start result) = true := by
  induction hreaches with
  | stop hexists => exact hexists
  | skip _ ih => exact ih
  | down _ _ ih => exact ih
  | plain _ _ ih => exact ih
  | glob _ _ _ _ ih => exact ih

/-! ## Paths above a path -/

variable {more : List String}

/-- A path that can be followed goes through directories. -/
theorem opens_of_append (hmore : ∀ name ∈ more, Path.IsPiece name)
    (hopens : tree.Opens (pathBelow start (names ++ more))) :
    tree.Opens (pathBelow start names) := by
  induction more using List.reverseRecOn with
  | nil => rwa [List.append_nil] at hopens
  | append_singleton more name ih =>
      rw [List.forall_mem_append, List.forall_mem_singleton] at hmore
      rw [← List.append_assoc, pathBelow_concat] at hopens
      have hresolve := hopens.resolve (Path.join_ne _ hmore.2)
      exact ih hmore.1 ((FileTree.resolve_piece_iff hmore.2).mp hresolve).1

/-- Something stands on the way to an entry. -/
theorem isSome_home_of_append (hwellFormed : tree.WellFormed)
    (hmore : ∀ name ∈ more, Path.IsPiece name)
    (hexists : tree.existsAt (pathBelow start (names ++ more)) = true) :
    (tree.get? (tree.home (pathBelow start names))).isSome := by
  rw [FileTree.existsAt_iff] at hexists
  rcases List.eq_nil_or_concat' more with rfl | ⟨above, name, rfl⟩
  · rw [List.append_nil] at hexists
    exact FileTree.isSome_of_resolve hwellFormed hexists
  · rw [List.forall_mem_append, List.forall_mem_singleton] at hmore
    rw [← List.append_assoc, pathBelow_concat, FileTree.resolve_piece_iff hmore.2] at hexists
    exact Option.isSome_of_eq_some (opens_of_append hmore.1 hexists.1).directory

end PromptScript.Pattern
