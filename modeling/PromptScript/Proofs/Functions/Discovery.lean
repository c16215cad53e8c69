import PromptScript.Proofs.Files.Places
import PromptScript.Proofs.Functions.Descriptors

/-!
# Looking for functions again

What is kept about executables never shows.  As long as the path and the time of change of an
executable determine what it says about its functions, a registry that looks for functions finds
what a new one would find, whatever it saw before and however often it failed.
-/

namespace PromptScript

/-! ## Executables in order -/

namespace FunctionRegistry

/-- How the executables of a directory are listed: none where it is missing, and otherwise in the
order of their names, which is that of their paths. -/
def Listed (tree : FileTree) (directory : String) (group : List String) : Prop :=
  (tree.list directory = .error .notFound ∧ group = []) ∨
    ∃ names, tree.list directory = .ok names ∧ names.Pairwise (· ≤ ·) ∧
      group = (names.filter (isCandidate tree directory)).map (Path.join directory) ∧
      ((∀ name ∈ names, Path.IsName name) → group.Pairwise fun first second =>
        Path.partsBefore (Path.parts second) (Path.parts first) = false)

theorem list_sorted {tree : FileTree} {directory : String} {names : List String}
    (hnames : tree.list directory = .ok names) : names.Pairwise (· ≤ ·) := by
  simp only [FileTree.list, Attempt.bind_eq_ok_iff] at hnames
  obtain ⟨location, hlocation, hlist⟩ := hnames
  by_cases hdirectory : tree.isDirectoryAt location
  · rw [if_pos hdirectory, Attempt.pure_eq_ok_iff] at hlist
    exact hlist ▸ FileTree.namesAt_sorted tree location
  · rw [if_neg hdirectory] at hlist
    exact (Attempt.throw_eq_ok_iff.mp hlist).elim

theorem listed_of_ok {tree : FileTree} {directory : String} {group : List String}
    (hgroup : candidatesIn tree directory = .ok group) : Listed tree directory group := by
  rw [candidatesIn] at hgroup
  split at hgroup
  next names hnames =>
    cases hgroup
    refine .inr ⟨names, hnames, list_sorted hnames, rfl, fun hplain => ?_⟩
    rw [List.pairwise_map]
    refine ((list_sorted hnames).filter _).imp_of_mem ?_
    intro first second hfirst hsecond hordered
    rw [Path.parts_join (hplain first (List.mem_of_mem_filter hfirst)).isProper,
      Path.parts_join (hplain second (List.mem_of_mem_filter hsecond)).isProper, Path.partsBefore_append]
    exact Path.partsBefore_name_eq_false hordered
  next hmissing =>
    cases hgroup
    exact .inl ⟨hmissing, rfl⟩
  next => exact nomatch hgroup

/-- The executables of all directories are those of each, in order. -/
theorem candidates_eq_ok {tree : FileTree} {directories paths : List String}
    (hpaths : candidates tree directories = .ok paths) :
    ∃ groups, paths = groups.flatten ∧ List.Forall₂ (Listed tree) directories groups := by
  simp only [candidates, Attempt.bind_eq_ok_iff, Attempt.pure_eq_ok_iff] at hpaths
  obtain ⟨groups, hgroups, rfl⟩ := hpaths
  refine ⟨groups, rfl, ?_⟩
  exact (Attempt.mapM_eq_ok_iff.mp hgroups).imp fun directory group => listed_of_ok

/-! ## Asking executables -/

/-- The call that asks an executable for its functions. -/
def listing (limit : Nat) (path : String) : ProgramCall :=
  ⟨path, [listFlag], [], limit⟩

/-- What an executable says about its functions when it is asked. -/
def said (run : ProgramRunner) (limit : Nat) (tree : FileTree) (path : String) :
    List FunctionDescriptor :=
  descriptorsOf path (run tree (listing limit path)).1

/-- The trees that come about from a tree while executables are asked. -/
inductive Asking (run : ProgramRunner) (limit : Nat) (tree : FileTree) : FileTree → Prop
  | start : Asking run limit tree tree
  | ask {later : FileTree} (path : String) (hlater : Asking run limit tree later) :
      Asking run limit tree (run later (listing limit path)).2

/-- Whether the path and the time of change of an executable determine what comes of asking it, in
all trees that there may be. -/
structure Determined (run : ProgramRunner) (limit : Nat) (possible : FileTree → Prop) : Prop where
  closed : ∀ {tree : FileTree} (path : String), possible tree →
    possible (run tree (listing limit path)).2
  answer : ∀ {first second : FileTree} {path other : String} {file another : File},
    possible first → possible second → samePath path other = true →
    first.lookup path = .ok (.file file) → second.lookup other = .ok (.file another) →
    file.modified = another.modified →
    (run first (listing limit path)).1 = (run second (listing limit other)).1

/-- Whether an executable stays as it is while executables are asked. -/
def Stays (run : ProgramRunner) (limit : Nat) (tree : FileTree) (path : String) : Prop :=
  ∃ modified, ∀ later, Asking run limit tree later →
    ∃ file, later.lookup path = .ok (.file file) ∧ file.modified = modified

/-- Whether an entry of the cache holds what its executable said in some tree. -/
def Holds (run : ProgramRunner) (limit : Nat) (possible : FileTree → Prop)
    (entry : CachedManifest) : Prop :=
  ∃ tree file, possible tree ∧ tree.lookup entry.path = .ok (.file file) ∧
    file.modified = entry.modified ∧ entry.descriptors = said run limit tree entry.path

/-- What is known of a registry of some directories at any time. -/
structure Sound (run : ProgramRunner) (possible : FileTree → Prop) (directories : List String)
    (limit : Nat) (registry : FunctionRegistry) : Prop where
  directories_eq : registry.directories = directories
  limit_eq : registry.limit = limit
  holds : ∀ entry ∈ registry.cache, Holds run limit possible entry

variable {run other : ProgramRunner} {possible : FileTree → Prop} {directories : List String}
  {limit : Nat} {registry later : FunctionRegistry} {tree afterwards : FileTree} {path : String}

theorem cached?_eq_some {cache : List CachedManifest} {modified : Int}
    {descriptors : List FunctionDescriptor}
    (hcached : cached? cache path modified = some descriptors) :
    ∃ entry ∈ cache, samePath entry.path path = true ∧ entry.modified = modified ∧
      entry.descriptors = descriptors := by
  obtain ⟨entry, hfind, hdescriptors⟩ := Option.map_eq_some_iff.mp hcached
  have hentry := List.find?_some hfind
  rw [Bool.and_eq_true, beq_iff_eq] at hentry
  exact ⟨entry, List.mem_of_find?_eq_some hfind, hentry.1, hentry.2, hdescriptors⟩

/-- Two texts of one path are answered alike, up to these texts. -/
theorem Determined.said_alike (hdetermined : Determined run limit possible)
    {first second : FileTree} {path other : String} {file another : File}
    (hfirst : possible first) (hsecond : possible second) (hsame : samePath path other = true)
    (hfile : first.lookup path = .ok (.file file))
    (hanother : second.lookup other = .ok (.file another))
    (hmodified : file.modified = another.modified) :
    List.Forall₂ FunctionDescriptor.Alike (said run limit first path)
      (said run limit second other) := by
  rw [said, said, hdetermined.answer hfirst hsecond hsame hfile hanother hmodified]
  exact descriptorsOf_alike hsame _

theorem Determined.asking (hdetermined : Determined run limit possible) (htree : possible tree)
    (hasking : Asking run limit tree afterwards) : possible afterwards := by
  induction hasking with
  | start => exact htree
  | ask path hlater ih => exact hdetermined.closed path ih

theorem consult_frame (run : ProgramRunner) (path : String) (registry : FunctionRegistry)
    (tree : FileTree) :
    (consult run path registry tree).2.1.functions = registry.functions ∧
      (consult run path registry tree).2.1.directories = registry.directories ∧
      (consult run path registry tree).2.1.limit = registry.limit ∧
      Asking run registry.limit tree (consult run path registry tree).2.2 := by
  unfold consult
  split
  next => exact ⟨rfl, rfl, rfl, .start⟩
  next => exact ⟨rfl, rfl, rfl, .start⟩
  next =>
    split
    next => exact ⟨rfl, rfl, rfl, .start⟩
    next => exact ⟨rfl, rfl, rfl, .ask path .start⟩

/-- What is kept of an executable that is asked is what it says. -/
theorem consult_sound (hsound : Sound run possible directories limit registry)
    (htree : possible tree) (path : String) :
    Sound run possible directories limit (consult run path registry tree).2.1 := by
  obtain ⟨-, hdirectories, hlimit, -⟩ := consult_frame run path registry tree
  refine ⟨hdirectories.trans hsound.directories_eq, hlimit.trans hsound.limit_eq, ?_⟩
  unfold consult
  split
  next => exact hsound.holds
  next => exact hsound.holds
  next file hfile =>
    split
    next => exact hsound.holds
    next =>
      intro entry hentry
      rw [hsound.limit_eq] at hentry
      rcases List.mem_cons.mp hentry with rfl | hold
      · exact ⟨tree, file, htree, hfile, rfl, rfl⟩
      · exact hsound.holds entry (List.mem_of_mem_filter hold)

/-- An executable that is there gives what it says, be it asked or not. -/
theorem consult_of_file (hdetermined : Determined run limit possible)
    (hsound : Sound run possible directories limit registry) (htree : possible tree) {file : File}
    (hfile : tree.lookup path = .ok (.file file)) :
    ∃ descriptors, (consult run path registry tree).1 = .ok descriptors ∧
      List.Forall₂ FunctionDescriptor.Alike descriptors (said run limit tree path) := by
  simp only [consult, hfile]
  split
  next descriptors hcached =>
    refine ⟨descriptors, rfl, ?_⟩
    obtain ⟨entry, hentry, hsame, hmodified, rfl⟩ := cached?_eq_some hcached
    obtain ⟨before, original, hbefore, horiginal, hchanged, hsaid⟩ := hsound.holds entry hentry
    rw [hsaid]
    exact hdetermined.said_alike hbefore htree hsame horiginal hfile (hchanged.trans hmodified)
  next =>
    rw [hsound.limit_eq]
    exact ⟨_, rfl, hdetermined.said_alike htree htree (samePath_iff.mpr rfl) hfile hfile rfl⟩

theorem Asking.trans {last : FileTree} (hfirst : Asking run limit tree afterwards)
    (hsecond : Asking run limit afterwards last) : Asking run limit tree last := by
  induction hsecond with
  | start => exact hfirst
  | ask path hlater ih => exact .ask path ih

theorem consultAll_sound (hdetermined : Determined run limit possible) (paths : List String)
    (found : List FunctionDescriptor) (hsound : Sound run possible directories limit registry)
    (htree : possible tree) :
    Sound run possible directories limit (consultAll run paths found registry tree).2.1 := by
  induction paths generalizing found registry tree with
  | nil => exact hsound
  | cons path rest ih =>
      have hnext := consult_sound hsound htree path
      obtain ⟨-, -, -, hasking⟩ := consult_frame run path registry tree
      rw [hsound.limit_eq] at hasking
      have hlater := hdetermined.asking htree hasking
      rw [consultAll]
      rcases hconsult : consult run path registry tree with ⟨cause | descriptors, next, later⟩
      all_goals rw [hconsult] at hnext hlater
      · exact hnext
      · exact ih _ hnext hlater

/-- Executables that stay as they are give what they say, in order, whatever was kept of them. -/
theorem consultAll_of_stays {first : FileTree} (hdetermined : Determined run limit possible)
    (hfirst : possible first) (paths : List String)
    (hstays : ∀ path ∈ paths, Stays run limit first path) (found : List FunctionDescriptor)
    (hsound : Sound run possible directories limit registry)
    (hasking : Asking run limit first tree) :
    ∃ descriptors,
      (consultAll run paths found registry tree).1 = .ok (addNew found descriptors) ∧
      List.Forall₂ FunctionDescriptor.Alike descriptors (paths.flatMap (said run limit first)) := by
  induction paths generalizing found registry tree with
  | nil => exact ⟨[], rfl, .nil⟩
  | cons path rest ih =>
      have htree := hdetermined.asking hfirst hasking
      obtain ⟨modified, hstanding⟩ := hstays path List.mem_cons_self
      obtain ⟨original, horiginal, hbefore⟩ := hstanding first .start
      obtain ⟨file, hfile, hafter⟩ := hstanding tree hasking
      obtain ⟨descriptors, hgiven, halike⟩ := consult_of_file hdetermined hsound htree hfile
      have hsaid : said run limit tree path = said run limit first path := by
        rw [said, said, hdetermined.answer htree hfirst (samePath_iff.mpr rfl) hfile horiginal
          (hafter.trans hbefore.symm)]
      have hnext := consult_sound hsound htree path
      obtain ⟨-, -, -, hstep⟩ := consult_frame run path registry tree
      rcases hconsult : consult run path registry tree with ⟨result, next, later⟩
      rw [hconsult] at hgiven hnext hstep
      rw [hsound.limit_eq] at hstep
      obtain rfl : result = .ok descriptors := hgiven
      obtain ⟨further, hall, hfurther⟩ := ih (fun other hother =>
        hstays other (List.mem_cons_of_mem _ hother)) (addNew found descriptors) hnext
        (hasking.trans hstep)
      rw [hsaid] at halike
      refine ⟨descriptors ++ further, ?_, List.rel_append halike hfurther⟩
      rw [consultAll, hconsult, addNew_append]
      exact hall

/-! ## Histories -/

/-- The registries that come about from a new one by looking for functions again and again, each
time in any tree that there may be, successfully or not. -/
inductive History (run : ProgramRunner) (possible : FileTree → Prop) (directories : List String)
    (limit : Nat) : FunctionRegistry → Prop
  | new : History run possible directories limit (.empty directories limit)
  | refresh {registry : FunctionRegistry} {tree : FileTree} (htree : possible tree)
      (hhistory : History run possible directories limit registry) :
      History run possible directories limit (registry.refresh run tree).2.1

theorem refresh_sound (hdetermined : Determined run limit possible)
    (hsound : Sound run possible directories limit registry) (htree : possible tree) :
    Sound run possible directories limit (registry.refresh run tree).2.1 := by
  unfold refresh
  split
  next => exact hsound
  next paths hpaths =>
    have hlater := consultAll_sound hdetermined paths [] hsound htree
    rcases hconsult : consultAll run paths [] registry tree with ⟨cause | functions, next, later⟩
    all_goals rw [hconsult] at hlater
    · exact hlater
    · exact ⟨hlater.directories_eq, hlater.limit_eq,
        fun entry hentry => hlater.holds entry (List.mem_of_mem_filter hentry)⟩

theorem History.sound (hdetermined : Determined run limit possible)
    (hhistory : History run possible directories limit registry) :
    Sound run possible directories limit registry := by
  induction hhistory with
  | new => exact ⟨rfl, rfl, fun entry hentry => absurd hentry List.not_mem_nil⟩
  | refresh htree hhistory ih => exact refresh_sound hdetermined ih htree

/-- Where the executables stay as they are, the functions are the first of each name of what they
say, in order. -/
theorem refresh_of_stays (hdetermined : Determined run limit possible)
    (hsound : Sound run possible directories limit registry) (htree : possible tree)
    {paths : List String} (hpaths : candidates tree directories = .ok paths)
    (hstays : ∀ path ∈ paths, Stays run limit tree path) :
    (registry.refresh run tree).1 = .ok () ∧
      List.Forall₂ FunctionDescriptor.Alike (registry.refresh run tree).2.1.functions
        (addNew [] (paths.flatMap (said run limit tree))) := by
  obtain ⟨descriptors, hall, halike⟩ :=
    consultAll_of_stays hdetermined htree paths hstays [] hsound .start
  rcases hconsult : consultAll run paths [] registry tree with ⟨result, next, later⟩
  rw [hconsult] at hall
  obtain rfl : result = _ := hall
  rw [refresh, hsound.directories_eq, hpaths]
  simp only [hconsult]
  exact ⟨trivial, addNew_alike .nil halike⟩

theorem consultAll_frame (run : ProgramRunner) (paths : List String)
    (found : List FunctionDescriptor) (registry : FunctionRegistry) (tree : FileTree) :
    (consultAll run paths found registry tree).2.1.functions = registry.functions ∧
      (consultAll run paths found registry tree).2.1.limit = registry.limit := by
  induction paths generalizing found registry tree with
  | nil => exact ⟨rfl, rfl⟩
  | cons path rest ih =>
      obtain ⟨hfunctions, -, hlimit, -⟩ := consult_frame run path registry tree
      rw [consultAll]
      rcases hconsult : consult run path registry tree with ⟨cause | descriptors, next, later⟩
      all_goals rw [hconsult] at hfunctions hlimit
      · exact ⟨hfunctions, hlimit⟩
      · obtain ⟨hsame, hkept⟩ := ih (addNew found descriptors) next later
        exact ⟨hsame.trans hfunctions, hkept.trans hlimit⟩

/-- The limit stays, and looking for functions without success leaves those of before. -/
theorem refresh_frame (run : ProgramRunner) (registry : FunctionRegistry) (tree : FileTree) :
    (registry.refresh run tree).2.1.limit = registry.limit ∧
      ∀ error, (registry.refresh run tree).1 = .error error →
        (registry.refresh run tree).2.1.functions = registry.functions := by
  unfold refresh
  split
  next => exact ⟨rfl, fun _ _ => rfl⟩
  next paths hpaths =>
    obtain ⟨hfunctions, hlimit⟩ := consultAll_frame run paths [] registry tree
    rcases hconsult : consultAll run paths [] registry tree with ⟨cause | functions, next, later⟩
    all_goals rw [hconsult] at hfunctions hlimit
    · exact ⟨hlimit, fun _ _ => hfunctions⟩
    · exact ⟨hlimit, fun _ hfailed => nomatch hfailed⟩

/-! ## Executables that are not asked again -/

/-- Whether no text of a path names a file of another time while executables are asked. -/
def Keeps (run : ProgramRunner) (limit : Nat) (tree : FileTree) (path : String) (modified : Int) :
    Prop :=
  ∀ later, Asking run limit tree later → ∀ text file, samePath text path = true →
    later.lookup text = .ok (.file file) → file.modified = modified

/-- Whether it is known what the executable of a path said at a time. -/
def Knows (registry : FunctionRegistry) (path : String) (modified : Int) : Prop :=
  ∃ entry ∈ registry.cache, samePath entry.path path = true ∧ entry.modified = modified

/-- Whether two runners do the same, except that they may do anything when the executable of a path
is asked for its functions. -/
def AgreeBut (path : String) (run other : ProgramRunner) : Prop :=
  ∀ tree call, ¬(samePath call.program path = true ∧ call.arguments = [listFlag]) →
    run tree call = other tree call

variable {modified : Int} {text : String}

/-- An executable of which it is known what it said is not asked, whatever runs programs, unless it
changed. -/
theorem Knows.consult_eq (hknows : Knows registry path modified)
    (hsame : samePath text path = true)
    (hkeeps : ∀ file, tree.lookup text = .ok (.file file) → file.modified = modified) :
    ∃ result, ∀ run,
      FunctionRegistry.consult run text registry tree = (result, registry, tree) := by
  cases hlookup : tree.lookup text with
  | error cause => exact ⟨.error cause, fun run => by simp only [FunctionRegistry.consult, hlookup]⟩
  | ok entry =>
      cases entry with
      | directory => exact ⟨.ok [], fun run => by simp only [FunctionRegistry.consult, hlookup]⟩
      | file file =>
          obtain ⟨entry, hentry, hpath, hmodified⟩ := hknows
          have hcached : (cached? registry.cache text file.modified).isSome := by
            rw [cached?, Option.isSome_map, List.find?_isSome]
            refine ⟨entry, hentry, ?_⟩
            rw [Bool.and_eq_true, beq_iff_eq, samePath_iff, samePath_iff.mp hpath,
              samePath_iff.mp hsame]
            exact ⟨rfl, hmodified.trans (hkeeps file hlookup).symm⟩
          obtain ⟨descriptors, hcached⟩ := Option.isSome_iff_exists.mp hcached
          exact ⟨.ok descriptors,
            fun run => by simp only [FunctionRegistry.consult, hlookup, hcached]⟩

/-- Consulting executables forgets nothing of those that did not change. -/
theorem Knows.consult (hknows : Knows registry path modified)
    (hkeeps : ∀ file, samePath text path = true → tree.lookup text = .ok (.file file) →
      file.modified = modified) (run : ProgramRunner) :
    Knows (consult run text registry tree).2.1 path modified := by
  by_cases hsame : samePath text path = true
  · obtain ⟨result, hconsult⟩ := hknows.consult_eq hsame fun file => hkeeps file hsame
    rw [hconsult run]
    exact hknows
  · unfold FunctionRegistry.consult
    split
    next => exact hknows
    next => exact hknows
    next =>
      split
      next => exact hknows
      next =>
        obtain ⟨entry, hentry, hpath, hmodified⟩ := hknows
        refine ⟨entry, List.mem_cons_of_mem _ (List.mem_filter.mpr ⟨hentry, ?_⟩), hpath, hmodified⟩
        rw [Bool.not_eq_true', Bool.eq_false_iff]
        intro hother
        rw [samePath_iff] at hsame hother hpath
        exact hsame (hother.symm.trans hpath)

theorem knows_of_consult {file : File} (hfile : tree.lookup path = .ok (.file file))
    (run : ProgramRunner) (registry : FunctionRegistry) :
    Knows (consult run path registry tree).2.1 path file.modified := by
  simp only [consult, hfile]
  split
  next descriptors hcached =>
    obtain ⟨entry, hentry, hsame, hmodified, -⟩ := cached?_eq_some hcached
    exact ⟨entry, hentry, hsame, hmodified⟩
  next => exact ⟨_, List.mem_cons_self, samePath_iff.mpr rfl, rfl⟩

/-- Where runners agree but for an executable that did not change, they consult alike. -/
theorem Knows.consult_agree (hknows : Knows registry path modified)
    (hagree : AgreeBut path run other)
    (hkeeps : ∀ file, samePath text path = true → tree.lookup text = .ok (.file file) →
      file.modified = modified) :
    FunctionRegistry.consult other text registry tree =
      FunctionRegistry.consult run text registry tree := by
  by_cases hsame : samePath text path = true
  · obtain ⟨result, hconsult⟩ := hknows.consult_eq hsame fun file => hkeeps file hsame
    rw [hconsult run, hconsult other]
  · have hrun : run tree ⟨text, [listFlag], [], registry.limit⟩ =
        other tree ⟨text, [listFlag], [], registry.limit⟩ :=
      hagree tree _ fun hlists => hsame hlists.1
    simp only [FunctionRegistry.consult, hrun]

variable {first : FileTree}

theorem Knows.consultAll (hkeeps : Keeps run limit first path modified) (paths : List String)
    (found : List FunctionDescriptor) (hknows : Knows registry path modified)
    (hlimit : registry.limit = limit) (hasking : Asking run limit first tree) :
    Knows (consultAll run paths found registry tree).2.1 path modified ∧
      ∀ other, AgreeBut path run other →
        FunctionRegistry.consultAll other paths found registry tree =
          FunctionRegistry.consultAll run paths found registry tree := by
  induction paths generalizing found registry tree with
  | nil => exact ⟨hknows, fun _ _ => rfl⟩
  | cons text rest ih =>
      have hnext := hknows.consult (fun file hsame => hkeeps tree hasking text file hsame) run
      have hagain : ∀ other, AgreeBut path run other → _ := fun other hagree =>
        hknows.consult_agree hagree fun file hsame => hkeeps tree hasking text file hsame
      obtain ⟨-, -, hlimits, hstep⟩ := consult_frame run text registry tree
      rw [hlimit] at hlimits hstep
      simp only [FunctionRegistry.consultAll]
      rcases hconsult : FunctionRegistry.consult run text registry tree with
        ⟨cause | descriptors, next, later⟩
      all_goals rw [hconsult] at hnext hagain hlimits hstep
      · refine ⟨hnext, fun other hagree => ?_⟩
        rw [hagain other hagree]
      · obtain ⟨hlater, hothers⟩ := ih (addNew found descriptors) hnext hlimits
          (hasking.trans hstep)
        refine ⟨hlater, fun other hagree => ?_⟩
        rw [hagain other hagree]
        exact hothers other hagree

/-- Of an executable that was consulted it is known what it said. -/
theorem knows_of_consultAll (hkeeps : Keeps run limit first path modified)
    (hstays : Stays run limit first path) {paths : List String} (hpath : path ∈ paths)
    {found functions : List FunctionDescriptor} (hlimit : registry.limit = limit)
    (hasking : Asking run limit first tree)
    (hall : (consultAll run paths found registry tree).1 = .ok functions) :
    Knows (consultAll run paths found registry tree).2.1 path modified := by
  induction paths generalizing found registry tree with
  | nil => exact absurd hpath List.not_mem_nil
  | cons text rest ih =>
      obtain ⟨-, -, hlimits, hstep⟩ := consult_frame run text registry tree
      rw [hlimit] at hlimits hstep
      obtain ⟨time, hstanding⟩ := hstays
      obtain ⟨file, hfile, -⟩ := hstanding tree hasking
      have hself := knows_of_consult hfile run registry
      rw [hkeeps tree hasking path file (samePath_iff.mpr rfl) hfile] at hself
      rw [consultAll] at hall ⊢
      rcases hconsult : consult run text registry tree with ⟨cause | descriptors, next, later⟩
      · rw [hconsult] at hall
        exact nomatch hall
      rw [hconsult] at hlimits hstep hall
      rcases List.mem_cons.mp hpath with rfl | hrest
      · rw [hconsult] at hself
        exact (hself.consultAll hkeeps rest (addNew found descriptors) hlimits
          (hasking.trans hstep)).1
      · exact ih hrest hlimits (hasking.trans hstep) hall

theorem knows_of_refresh {paths : List String}
    (hpaths : candidates tree registry.directories = .ok paths) (hpath : path ∈ paths)
    (hlimit : registry.limit = limit) (hkeeps : Keeps run limit tree path modified)
    (hstays : Stays run limit tree path) (hok : (registry.refresh run tree).1 = .ok ()) :
    Knows (registry.refresh run tree).2.1 path modified := by
  simp only [refresh, hpaths] at hok ⊢
  rcases hconsult : consultAll run paths [] registry tree with ⟨cause | functions, next, later⟩
  · rw [hconsult] at hok
    exact nomatch hok
  · have hall : (consultAll run paths [] registry tree).1 = .ok functions := by rw [hconsult]
    have hknows := knows_of_consultAll hkeeps hstays hpath hlimit .start hall
    rw [hconsult] at hknows
    obtain ⟨entry, hentry, hsame, hmodified⟩ := hknows
    refine ⟨entry, List.mem_filter.mpr ⟨hentry, ?_⟩, hsame, hmodified⟩
    exact List.any_eq_true.mpr ⟨path, hpath, hsame⟩

/-- The registries behind some refreshes that failed, while an executable kept its time. -/
inductive BehindFailures (run : ProgramRunner) (limit : Nat) (path : String) (modified : Int)
    (registry : FunctionRegistry) : FunctionRegistry → Prop
  | none : BehindFailures run limit path modified registry registry
  | failed {later : FunctionRegistry} {tree : FileTree} {error : RunError}
      (hlater : BehindFailures run limit path modified registry later)
      (hkeeps : Keeps run limit tree path modified)
      (hfailed : (later.refresh run tree).1 = .error error) :
      BehindFailures run limit path modified registry (later.refresh run tree).2.1

/-- A refresh that fails forgets nothing, and none depends on executables of which it is known what
they said. -/
theorem Knows.refresh (hknows : Knows registry path modified) (hlimit : registry.limit = limit)
    (hkeeps : Keeps run limit tree path modified) :
    (∀ error, (registry.refresh run tree).1 = .error error →
      Knows (registry.refresh run tree).2.1 path modified) ∧
    ∀ other, AgreeBut path run other → registry.refresh other tree = registry.refresh run tree := by
  unfold FunctionRegistry.refresh
  cases hpaths : candidates tree registry.directories with
  | error cause => exact ⟨fun _ _ => hknows, fun _ _ => rfl⟩
  | ok paths =>
      obtain ⟨hlater, hothers⟩ := hknows.consultAll hkeeps paths [] hlimit .start
      refine ⟨fun error hfailed => ?_, fun other hagree => ?_⟩
      · rcases hconsult : FunctionRegistry.consultAll run paths [] registry tree with
          ⟨cause | functions, next, later⟩
        · rw [hconsult] at hlater
          simpa only [hconsult] using hlater
        · simp [hconsult] at hfailed
      · simp only [hothers other hagree]

theorem BehindFailures.knows (hbehind : BehindFailures run limit path modified registry later)
    (hknows : Knows registry path modified) (hlimit : registry.limit = limit) :
    Knows later path modified ∧ later.limit = limit := by
  induction hbehind with
  | none => exact ⟨hknows, hlimit⟩
  | failed hlater hkeeps hfailed ih =>
      refine ⟨(ih.1.refresh ih.2 hkeeps).1 _ hfailed, ?_⟩
      exact (refresh_frame run _ _).1.trans ih.2

/-- Whether the executables of some directories stay as they are while they are asked. -/
def Still (run : ProgramRunner) (limit : Nat) (tree : FileTree) (directories : List String) :
    Prop :=
  ∀ paths, candidates tree directories = .ok paths → ∀ path ∈ paths, Stays run limit tree path

/-- Where path and time of change determine what an executable says, looking for functions with
success leaves what a new registry would find in the same directories, whatever was kept: of what
the executables say, in the order of the directories and then of their paths, the first of each
name.  Looking for them without success leaves the functions as they were.  And an executable that
stays at its time, from a success on and through any failures, is not asked: nothing depends on what
it would do. -/
theorem cache_never_shows (hdetermined : Determined run limit possible)
    (hhistory : History run possible directories limit registry) (tree : FileTree)
    (htree : possible tree) :
    ((registry.refresh run tree).1 = .ok () → Still run limit tree directories →
      ∃ groups, List.Forall₂ (Listed tree) directories groups ∧
        (registry.refresh run tree).2.1.functions.map FunctionDescriptor.name =
          ((groups.flatten.flatMap (said run limit tree)).map FunctionDescriptor.name).eraseDups ∧
        ((registry.refresh run tree).2.1.functions.map FunctionDescriptor.name).Nodup ∧
        (∀ name, Option.Rel FunctionDescriptor.Alike ((registry.refresh run tree).2.1.get? name)
          ((groups.flatten.flatMap (said run limit tree)).find? (·.name == name))) ∧
        ((empty directories limit).refresh run tree).1 = .ok () ∧
        List.Forall₂ FunctionDescriptor.Alike (registry.refresh run tree).2.1.functions
          ((empty directories limit).refresh run tree).2.1.functions ∧
        (registry.refresh run tree).2.1.declarations =
          ((empty directories limit).refresh run tree).2.1.declarations) ∧
    (∀ error, (registry.refresh run tree).1 = .error error →
      (registry.refresh run tree).2.1.functions = registry.functions) ∧
    ∀ paths path modified later now other, candidates tree directories = .ok paths →
      path ∈ paths → Stays run limit tree path → Keeps run limit tree path modified →
      (registry.refresh run tree).1 = .ok () →
      BehindFailures run limit path modified (registry.refresh run tree).2.1 later →
      Keeps run limit now path modified → AgreeBut path run other →
        later.refresh other now = later.refresh run now := by
  have hsound := hhistory.sound hdetermined
  refine ⟨fun hok hstill => ?_, (refresh_frame run registry tree).2, ?_⟩
  · cases hpaths : candidates tree directories with
    | error cause =>
        rw [refresh, hsound.directories_eq, hpaths] at hok
        exact nomatch hok
    | ok paths =>
        have hstays := hstill paths hpaths
        obtain ⟨groups, rfl, hgroups⟩ := candidates_eq_ok hpaths
        obtain ⟨-, halike⟩ := refresh_of_stays hdetermined hsound htree hpaths hstays
        obtain ⟨hfresh, hother⟩ :=
          refresh_of_stays hdetermined (History.new.sound hdetermined) htree hpaths hstays
        have hsame := alike_of_common halike hother
        have hnames := names_of_alike halike
        refine ⟨groups, hgroups, ?_, ?_, fun name => ?_, hfresh, hsame, declarations_of_alike hsame⟩
        · rw [hnames, map_name_addNew]
          simp
        · rw [hnames]
          have hnone : (([] : List FunctionDescriptor).map FunctionDescriptor.name).Nodup :=
            List.nodup_nil
          exact nodup_addNew hnone _
        · have hfound := find?_of_alike halike name
          rw [find?_addNew, List.nil_append] at hfound
          exact hfound
  · intro paths path modified later now other hpaths hpath hstays hkeeps hok hbehind hnow hagree
    rw [← hsound.directories_eq] at hpaths
    have hknows := knows_of_refresh hpaths hpath hsound.limit_eq hkeeps hstays hok
    have hlimit := (refresh_frame run registry tree).1.trans hsound.limit_eq
    obtain ⟨hlater, hlimit⟩ := hbehind.knows hknows hlimit
    exact (hlater.refresh hlimit hnow).2 other hagree

/-- A directory with one executable that was changed at the given time. -/
def toolbox (modified : Int) : FileTree :=
  ⟨[(["d"], .directory), (["d", "f"], .file ⟨[], true, modified⟩)], [], 0⟩

/-- Where there was a directory, a file. -/
def blocked : FileTree :=
  ⟨[(["d"], .file ⟨[], false, 1⟩)], [], 0⟩

/-- A runner whose executables say one thing at the beginning and another afterwards. -/
def teller : ProgramRunner := fun tree call =>
  match tree.lookup call.program with
  | .ok (.file file) =>
    let manifest :=
      if file.modified = 0 then "[\x7b\"name\": \"one\"\x7d]" else "[\x7b\"name\": \"two\"\x7d]"
    (.ok (.finished ⟨.code 0, manifest, ""⟩), tree)
  | .ok .directory => (.error .permissionDenied, tree)
  | .error cause => (.error cause, tree)

theorem asking_teller (hasking : Asking teller limit tree afterwards) : afterwards = tree := by
  have hsame : ∀ tree call, (teller tree call).2 = tree := by
    intro tree call
    unfold teller
    split <;> rfl
  induction hasking with
  | start => rfl
  | ask path hlater ih => rw [hsame, ih]

theorem determined_teller : Determined teller limit fun _ => True := by
  refine ⟨fun _ _ => trivial, ?_⟩
  intro first second path other file another _ _ _ hfile hanother hmodified
  simp only [teller, listing, hfile, hanother, hmodified]

theorem mem_entries_of_lookup {file : File} (hfile : tree.lookup path = .ok (.file file)) :
    ∃ location, (location, Entry.file file) ∈ tree.entries := by
  simp only [FileTree.lookup, Attempt.bind_eq_ok_iff] at hfile
  obtain ⟨location, -, hentry⟩ := hfile
  split at hentry
  next entry hget =>
    rw [Attempt.pure_eq_ok_iff] at hentry
    subst hentry
    rw [FileTree.get?] at hget
    split at hget
    next => simp at hget
    next =>
      obtain ⟨⟨place, entry⟩, hfind, rfl⟩ := Option.map_eq_some_iff.mp hget
      exact ⟨place, List.mem_of_find?_eq_some hfind⟩
  next => simp at hentry

/-- In a tree whose files all have one time every executable keeps it. -/
theorem keeps_teller (hfiles : ∀ location file, (location, Entry.file file) ∈ tree.entries →
    file.modified = modified) : Keeps teller limit tree path modified := by
  intro later hasking text file _ hfile
  rw [asking_teller hasking] at hfile
  obtain ⟨location, hmem⟩ := mem_entries_of_lookup hfile
  exact hfiles location file hmem

theorem cache_never_shows_toolbox :
    let known := ((empty ["d"] 5).refresh teller (toolbox 0)).2.1
    let later := (known.refresh teller (toolbox 1)).2.1
    known.functions.map FunctionDescriptor.name = ["one"] ∧
      later.functions.map FunctionDescriptor.name = ["two"] ∧
      later.declarations =
        ((empty ["d"] 5).refresh teller (toolbox 1)).2.1.declarations ∧
      (later.refresh teller blocked).1 = .error (.file "" .notDirectory) ∧
      (later.refresh teller blocked).2.1.functions = later.functions ∧
      ∀ other, AgreeBut "d/f" teller other →
        (later.refresh teller blocked).2.1.refresh other (toolbox 1) =
          (later.refresh teller blocked).2.1.refresh teller (toolbox 1) := by
  intro known later
  have hknown : History teller (fun _ => True) ["d"] 5 known := .refresh trivial .new
  have hpaths : candidates (toolbox 1) ["d"] = .ok ["d/f"] := by decide +kernel
  have hfile : (toolbox 1).lookup "d/f" = .ok (.file ⟨[], true, 1⟩) := by decide +kernel
  have hok : (known.refresh teller (toolbox 1)).1 = .ok () := by decide +kernel
  have hstays : Stays teller 5 (toolbox 1) "d/f" := by
    refine ⟨1, fun later hasking => ?_⟩
    rw [asking_teller hasking]
    exact ⟨_, hfile, rfl⟩
  have hstill : Still teller 5 (toolbox 1) ["d"] := by
    intro paths hlisted path hpath
    rw [hpaths] at hlisted
    cases hlisted
    rw [List.mem_singleton.mp hpath]
    exact hstays
  have hkeeps : Keeps teller 5 (toolbox 1) "d/f" 1 := by
    apply keeps_teller
    intro location file hmem
    simp only [toolbox, List.mem_cons, Prod.mk.injEq, reduceCtorEq, and_false, false_or,
      List.not_mem_nil, or_false, Entry.file.injEq] at hmem
    rw [hmem.2]
  have hblocked : Keeps teller 5 blocked "d/f" 1 := by
    apply keeps_teller
    intro location file hmem
    simp only [blocked, List.mem_singleton, Prod.mk.injEq, Entry.file.injEq] at hmem
    rw [hmem.2]
  have hfailed : (later.refresh teller blocked).1 = .error (.file "" .notDirectory) := by
    decide +kernel
  obtain ⟨hscan, -, hunasked⟩ := cache_never_shows determined_teller hknown (toolbox 1) trivial
  obtain ⟨groups, hgroups, -, -, -, -, -, hdeclarations⟩ := hscan hok hstill
  have hhistory : History teller (fun _ => True) ["d"] 5 later := .refresh trivial hknown
  have hleft := (cache_never_shows determined_teller hhistory blocked trivial).2.1 _ hfailed
  refine ⟨by decide +kernel, by decide +kernel, hdeclarations, hfailed, hleft, ?_⟩
  intro other hagree
  exact hunasked _ _ _ _ _ other hpaths List.mem_cons_self hstays hkeeps hok
    (.failed .none hblocked hfailed) hkeeps hagree

end FunctionRegistry

end PromptScript
