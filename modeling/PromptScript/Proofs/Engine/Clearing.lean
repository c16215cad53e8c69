import PromptScript.Proofs.Engine.Halted
import PromptScript.Proofs.Engine.Pairing
import PromptScript.Proofs.Pattern.Removal

/-!
# Deleting what patterns name

Patterns are expanded one after another, each in the tree that the earlier ones left.  What is left
is named by the same patterns as before, so together they delete the files that they name in the
original tree, in whatever order and however often they are given.
-/

namespace PromptScript

namespace FileTree

variable {tree : FileTree} {gone : Location → Bool} {location : Location} {base : String}
  {paths patterns : List String}

/-! ## Paths -/

/-- One path is deleted where it leads to a file. -/
theorem deletePath_eq (hwellFormed : tree.WellFormed) (path : String) :
    (if tree.isDirectory path then tree else (tree.removeFile path).toOption.getD tree) =
      tree.without (tree.leadsTo path) := by
  cases hresolve : tree.resolve path with
  | error =>
      have hnone : ∀ location, tree.leadsTo path location = false := by
        intro location
        rw [leadsTo, hresolve]
        rfl
      rw [without_of_none fun location _ => hnone location]
      simp [isDirectory, lookup, removeFile, hresolve, Except.toOption, bind, Except.bind]
  | ok place =>
      have hleads : ∀ location, tree.leadsTo path location = (location == place) := by
        intro location
        rw [Bool.eq_iff_iff, leadsTo_iff, hresolve, Except.ok.injEq, beq_iff_eq, eq_comm]
      obtain ⟨entry, hentry⟩ :=
        Option.isSome_iff_exists.mp (isSome_of_resolve hwellFormed hresolve)
      have hlookup : tree.lookup path = .ok entry := by
        simp [lookup, hresolve, hentry, bind, Except.bind, pure, Except.pure]
      cases entry with
      | directory =>
          rw [without_of_none, isDirectory, hlookup]
          · rfl
          · intro location hfile
            rw [hleads, beq_eq_false_iff_ne]
            rintro rfl
            rw [file?_eq_none_of_directory hentry] at hfile
            exact absurd hfile Bool.false_ne_true
      | file file =>
          have hremove : tree.removeFile path = .ok (tree.erase place) := by
            simp [removeFile, hresolve, isDirectoryAt, hentry, bind, Except.bind, pure, Except.pure]
          rw [isDirectory, hlookup, hremove, funext hleads,
            ← erase_eq_without hwellFormed (file?_eq_some_iff.mpr hentry)]
          rfl

theorem deletePaths_eq (hwellFormed : tree.WellFormed) :
    Statement.deletePaths tree paths =
      tree.without fun location => paths.any (tree.leadsTo · location) := by
  induction paths generalizing tree with
  | nil => exact (without_of_none fun _ _ => rfl).symm
  | cons path rest ih =>
      have hlater := ih (hwellFormed.without (tree.leadsTo path))
      rw [Statement.deletePaths] at hlater ⊢
      rw [List.foldl_cons, deletePath_eq hwellFormed, hlater]
      refine without_append fun location hleft => ?_
      simp only [leadsTo_without hwellFormed hleft]

/-! ## Patterns -/

/-- Whether one of some patterns names the entry at a location. -/
def namedBy (tree : FileTree) (base : String) (patterns : List String) (location : Location) :
    Bool :=
  patterns.any fun pattern => (Pattern.expand tree pattern base).any (tree.leadsTo · location)

theorem namedBy_iff :
    tree.namedBy base patterns location = true ↔
      ∃ pattern ∈ patterns, ∃ path ∈ Pattern.expand tree pattern base,
        tree.resolve path = .ok location := by
  simp only [namedBy, List.any_eq_true, leadsTo_iff]

theorem namedBy_without (hsound : tree.Sound)
    (hleft : ((tree.without gone).get? location).isSome) :
    (tree.without gone).namedBy base patterns location = tree.namedBy base patterns location := by
  rw [Bool.eq_iff_iff, namedBy_iff, namedBy_iff]
  exact exists_congr fun pattern =>
    and_congr_right fun _ => Pattern.exists_mem_expand_without hsound hleft

/-- Patterns delete together the files that they name in the original tree. -/
theorem deletePatterns_eq (hsound : tree.Sound) :
    Statement.deletePatterns base tree patterns = tree.without (tree.namedBy base patterns) := by
  induction patterns generalizing tree with
  | nil => exact (without_of_none fun _ _ => rfl).symm
  | cons pattern rest ih =>
      rw [Statement.deletePatterns, List.foldl_cons, deletePaths_eq hsound.toWellFormed]
      refine (ih (hsound.without _)).trans (without_append fun location hleft => ?_)
      exact namedBy_without hsound hleft

end FileTree

namespace Engine

/-- Whether the next statement of an engine deletes what some patterns name. -/
def Clears (engine : Engine) (patterns : List String) : Prop :=
  ∃ statement, engine.next? = some statement ∧ statement.kind = .deleteFiles ∧
    (engine.state.substitute statement.payload).bind readPatterns = .ok patterns

variable {engine : Engine} {world : World} {patterns : List String}

theorem Clears.step_eq (hclears : engine.Clears patterns) (settings : Settings)
    (hsound : world.tree.Sound) :
    ∃ status, engine.step settings world =
      (.ok status, { engine with state := { engine.state with ip := engine.state.ip + 1 }, status },
        { world with
          tree := world.tree.without (world.tree.namedBy settings.workingBase patterns) }) := by
  obtain ⟨statement, hnext, hkind, hpatterns⟩ := hclears
  obtain ⟨hstatus, hcurrent⟩ := next?_eq_some_iff.mp hnext
  have hperform : statement.perform settings engine.state world =
      (.ok (), engine.state, { world with
        tree := world.tree.without (world.tree.namedBy settings.workingBase patterns) }) := by
    rw [Statement.perform, hkind]
    simp only [Statement.delete, hpatterns, FileTree.deletePatterns_eq hsound]
  exact ⟨_, step_of_ok settings hstatus hcurrent hperform⟩

/-- A statement that deletes succeeds and only moves the position of its engine on.  The files that
its patterns name in the tree as it was are gone, and every other file and every directory stays.
Patterns in another order, or given more than once, delete the same. -/
theorem step_deletes_what_patterns_name (settings : Settings) (hsound : world.tree.Sound)
    (hclears : engine.Clears patterns) :
    ∃ status after,
      engine.step settings world =
        (.ok status,
          { engine with state := { engine.state with ip := engine.state.ip + 1 }, status },
          { world with tree := after }) ∧
      (after.workingDirectory = world.tree.workingDirectory ∧ after.clock = world.tree.clock) ∧
      (∀ location, world.tree.get? location = some .directory →
        after.get? location = some .directory) ∧
      (∀ location, world.tree.get? location ≠ some .directory →
        (∃ pattern ∈ patterns, ∃ path ∈ Pattern.expand world.tree pattern settings.workingBase,
          world.tree.resolve path = .ok location) →
        after.get? location = none) ∧
      (∀ location,
        (¬∃ pattern ∈ patterns, ∃ path ∈ Pattern.expand world.tree pattern settings.workingBase,
          world.tree.resolve path = .ok location) →
        after.get? location = world.tree.get? location) ∧
      ∀ (other : Engine) (others : List String), other.Clears others →
        (∀ pattern, pattern ∈ others ↔ pattern ∈ patterns) →
        (other.step settings world).2.2 = { world with tree := after } := by
  obtain ⟨status, hstep⟩ := hclears.step_eq settings hsound
  refine ⟨status, _, hstep, ⟨rfl, rfl⟩, ?_, ?_, ?_, ?_⟩
  · intro location
    exact FileTree.directory_without_iff.mpr
  · intro location hplain hnamed
    exact FileTree.get?_without_of_gone (FileTree.namedBy_iff.mpr hnamed) hplain
  · intro location hother
    rw [FileTree.get?_without, if_neg]
    rintro ⟨-, hnamed⟩
    exact hother (FileTree.namedBy_iff.mp hnamed)
  · intro other others hclears hsame
    obtain ⟨_, hother⟩ := hclears.step_eq settings hsound
    have hnamed : world.tree.namedBy settings.workingBase others =
        world.tree.namedBy settings.workingBase patterns := by
      funext location
      rw [Bool.eq_iff_iff, FileTree.namedBy_iff, FileTree.namedBy_iff]
      simp only [hsame]
    rw [hother, hnamed]

/-- An engine that is about to delete what a payload names. -/
def sweeping (payload : String) : Engine :=
  .new "s" [⟨1, .deleteFiles, payload⟩] (.ofNanoseconds 0)

/-- A world of files alone. -/
def filed : World :=
  { World.bare with tree := Pattern.workbench }

/-- A file is deleted and its directory stays, also where they are named in another order. -/
theorem step_deletes_what_patterns_name_sweeping :
    ∃ world : World,
      ((sweeping "[\"w/sub/b.tmp\", \"w/sub\"]").step Settings.bare filed).2.2 = world ∧
      ((sweeping "[\"w/sub\", \"w/sub/b.tmp\", \"w/sub\"]").step Settings.bare filed).2.2 =
        world ∧
      world.tree.get? ["w", "sub", "b.tmp"] = none ∧
      world.tree.get? ["w", "sub"] = some .directory := by
  have hsound : filed.tree.Sound := by decide +kernel
  have hclears : (sweeping "[\"w/sub/b.tmp\", \"w/sub\"]").Clears ["w/sub/b.tmp", "w/sub"] :=
    ⟨_, rfl, rfl, by decide +kernel⟩
  have hagain : (sweeping "[\"w/sub\", \"w/sub/b.tmp\", \"w/sub\"]").Clears
      ["w/sub", "w/sub/b.tmp", "w/sub"] :=
    ⟨_, rfl, rfl, by decide +kernel⟩
  have hnamed : ∃ path ∈ Pattern.expand filed.tree "w/sub/b.tmp" "/",
      filed.tree.resolve path = .ok ["w", "sub", "b.tmp"] := by
    have hbraces : Pattern.expandBraces "w/sub/b.tmp" = ["w/sub/b.tmp"] := by cbv
    have hbase : filed.tree.resolve "/" = .ok [] := by decide +kernel
    have hcomponents : (Pattern.splitBase "/" "w/sub/b.tmp").2 = ["w", "sub", "b.tmp"] := by
      decide +kernel
    rw [Pattern.exists_mem_expand_iff hsound, hbraces]
    refine ⟨"w/sub/b.tmp", by simp, "/w/sub/b.tmp", ?_, by decide +kernel⟩
    rw [Pattern.mem_expandOne_below_iff hsound hbase rfl (by decide +kernel) (by decide +kernel),
      hcomponents]
    exact ⟨["w", "sub", "b.tmp"], by decide +kernel, by decide +kernel,
      .plain (by decide) (.plain (by decide) (.plain (by decide) .nil))⟩
  obtain ⟨status, after, hstep, -, hdirectories, hfiles, -, hsame⟩ :=
    step_deletes_what_patterns_name Settings.bare hsound hclears
  refine ⟨_, rfl, ?_, ?_, ?_⟩
  all_goals rw [hstep]
  · exact hsame _ _ hagain (by simp)
  · exact hfiles _ (by decide +kernel) ⟨_, List.mem_cons_self, hnamed⟩
  · exact hdirectories _ (by decide +kernel)

end Engine

end PromptScript
