import PromptScript.Proofs.Pattern.Removal
import PromptScript.Proofs.Session.Saving

/-!
# Identifiers and files

An identifier comes from anywhere, also from within a stored text, and becomes the name of a file,
of its lock and of the file that is written first.  What is not made of letters and digits of ASCII,
hyphens and underscores is refused before the tree is looked at.  Every other identifier has one
file of its own directly in the directory of the store; the locks and the files that are written
first are files of no session, and the listing passes over them.
-/

namespace PromptScript

/-! ## Endings of names -/

namespace Path

theorem fileName?_eq {name : String} (hname : IsProper name) : fileName? name = some name := by
  have hjoin : join "" name = name := by
    rw [join_eq hname.toIsPiece]
    rfl
  rw [fileName?, ← hjoin, parts_join hname, List.getLast?_concat]
  exact congrArg some hjoin.symm

/-- The extension is what stands behind the last dot. -/
theorem extension?_append {text ending extension : String} (hname : IsProper (text ++ ending))
    (htext : text ≠ "") (hending : ending.toList = '.' :: extension.toList)
    (hdot : '.' ∉ extension.toList) : extension? (text ++ ending) = some extension := by
  have hcut := Text.cutAt?_of_not_mem (mt List.mem_reverse.mp hdot) text.toList.reverse
  simp [extension?, fileName?_eq hname, cutExtension?, hending, hcut, htext]

end Path

namespace SessionStore

open FileTree (Follows)

variable {store : SessionStore} {tree : FileTree} {id : String} {record : SessionRecord}

/-! ## Identifiers -/

/-- Whether a text is made of letters and digits of ASCII, hyphens and underscores, of one at
least. -/
structure IsId (id : String) : Prop where
  some : id ≠ ""
  chars : ∀ c ∈ id.toList,
    'a' ≤ c ∧ c ≤ 'z' ∨ 'A' ≤ c ∧ c ≤ 'Z' ∨ '0' ≤ c ∧ c ≤ '9' ∨ c = '-' ∨ c = '_'

theorem isIdChar_iff {c : Char} : isIdChar c = true ↔
    'a' ≤ c ∧ c ≤ 'z' ∨ 'A' ≤ c ∧ c ≤ 'Z' ∨ '0' ≤ c ∧ c ≤ '9' ∨ c = '-' ∨ c = '_' := by
  have hchars : isIdChar c = (decide ('A' ≤ c ∧ c ≤ 'Z') ||
      (decide ('a' ≤ c) && decide (c ≤ 'z')) || (decide ('0' ≤ c) && decide (c ≤ '9')) ||
      c == '-' || c == '_') := rfl
  simp only [hchars, Bool.or_eq_true, Bool.and_eq_true, decide_eq_true_eq, beq_iff_eq]
  tauto

theorem isValidId_iff : isValidId id = true ↔ IsId id := by
  rw [isValidId, Bool.and_eq_true, Bool.not_eq_true', List.all_eq_true]
  simp only [isIdChar_iff]
  constructor
  · rintro ⟨hsome, hchars⟩
    exact ⟨by rintro rfl; exact absurd hsome (by decide), hchars⟩
  · rintro ⟨hsome, hchars⟩
    exact ⟨by simpa using hsome, hchars⟩

instance (id : String) : Decidable (IsId id) :=
  decidable_of_iff _ isValidId_iff

/-- The error that a text is no identifier. -/
def refusal (id : String) : RunError :=
  .invalidArgument ("invalid session id '" ++ id ++ "'")

theorem pathFor_eq (store : SessionStore) (hid : IsId id) :
    store.pathFor id = .ok (Path.join store.directory (id ++ ".json")) :=
  if_pos (isValidId_iff.mpr hid)

theorem pathFor_eq_refusal (store : SessionStore) (hid : ¬IsId id) :
    store.pathFor id = .error (refusal id) :=
  if_neg (mt isValidId_iff.mp hid)

theorem load_eq_ok_iff (hid : IsId id) : store.load tree id = .ok record ↔
    tree.Opens store.directory ∧ (id ++ ".json").utf8ByteSize ≤ 255 ∧
      ∃ file text, tree.file? (store.sessionPlace tree id) = some file ∧
        Text.ofBytes? file.content = some text ∧ SessionRecord.parse text = .ok record := by
  have hname := isName_session (isValidId_iff.mpr hid)
  simp only [load, pathFor_eq store hid, Attempt.bind_eq_ok_iff, Except.ok.injEq, exists_eq_left']
  constructor
  · intro hload
    split at hload
    next text hread =>
      obtain ⟨hopens, hshort, file, hfile, htext⟩ := (FileTree.readText_join_iff hname).mp hread
      exact ⟨hopens, hshort, file, text, hfile, htext, hload⟩
    next => cases hload
    next => cases hload
  · rintro ⟨hopens, hshort, file, text, hfile, htext, hparse⟩
    rw [(FileTree.readText_join_iff hname).mpr ⟨hopens, hshort, file, hfile, htext⟩]
    exact hparse

theorem load_eq_refusal (store : SessionStore) (tree : FileTree) (hid : ¬IsId id) :
    store.load tree id = .error (refusal id) := by
  rw [load, pathFor_eq_refusal store hid]
  rfl

theorem save_eq_refusal (store : SessionStore) (tree : FileTree)
    (hid : ¬IsId record.state.sessionId) :
    store.save tree record = (tree, .error (refusal record.state.sessionId)) := by
  rw [save, pathFor_eq_refusal store hid]

/-! ## Places -/

/-- The location of a file under which a session's text is written first, with the mark that it
bears. -/
def temporaryPlace (store : SessionStore) (tree : FileTree) (id mark : String) : Location :=
  tree.home store.directory ++ ["." ++ id ++ "." ++ mark ++ ".tmp"]

theorem sessionPlace_ne_temporaryPlace {other mark : String} :
    store.sessionPlace tree id ≠ store.temporaryPlace tree other mark := by
  apply place_ne
  rw [getLast?_toList_append rfl, getLast?_toList_append rfl]
  decide

/-- The files that a save may change are that of its session, the lock of that and the one that is
written first. -/
theorem save_follows (store : SessionStore) (hwellFormed : tree.WellFormed)
    (record : SessionRecord) : Follows [store.lockPlace tree record.state.sessionId,
      store.draftPlace tree record.state.sessionId, store.sessionPlace tree record.state.sessionId]
      tree (store.save tree record).1 := by
  rcases save_cases hwellFormed (Prod.mk.eta (p := store.save tree record)).symm with
    ⟨hfollows, -⟩ | ⟨hid, locked, -, -, hlocked, hwrite⟩
  · exact hfollows.mono (List.nil_subset _)
  · -- whatever was changed under the lock, the lock is given back
    have hgiven : ∀ {held : FileTree},
        Follows [store.draftPlace locked record.state.sessionId,
          store.sessionPlace locked record.state.sessionId] locked held →
        Follows [store.lockPlace tree record.state.sessionId,
          store.draftPlace tree record.state.sessionId,
          store.sessionPlace tree record.state.sessionId] tree
          (discard held (store.lockPath record.state.sessionId)) := by
      intro held hheld
      have hdiscarded : Follows [store.lockPlace held record.state.sessionId] held
          (discard held (store.lockPath record.state.sessionId)) :=
        discard_follows hheld.wellFormed (isName_lock hid)
      rw [lockPlace_eq hheld, lockPlace_eq hlocked] at hdiscarded
      rw [draftPlace_eq hlocked, sessionPlace_eq hlocked] at hheld
      exact ((hlocked.mono (by simp)).trans (hheld.mono (by simp))).trans
        (hdiscarded.mono (by simp))
    split at hwrite
    next written last hwritten =>
      rw [hwrite.1]
      exact hgiven (writeLocked_ok hid hlocked.wellFormed hwritten).2.2.1
    next cause hfailed =>
      rw [hwrite.1]
      have hcleared : Follows [store.draftPlace locked record.state.sessionId] locked
          (discard locked (store.draftPath record.state.sessionId)) :=
        discard_follows hlocked.wellFormed (isName_draft hid)
      exact hgiven (hcleared.mono (by simp))

/-! ## The listing -/

/-- What the listing shows of the file of a name. -/
def listed? (store : SessionStore) (tree : FileTree) (name : String) : Option SessionSummary :=
  if Path.extension? name = some "json" then
    match tree.readText (Path.join store.directory name) with
    | .ok text => (SessionRecord.parse text).toOption.map SessionRecord.summary
    | .error _ => none
  else none

theorem listed?_eq_some_iff {name : String} {summary : SessionSummary} :
    store.listed? tree name = some summary ↔ Path.extension? name = some "json" ∧
      ∃ text, tree.readText (Path.join store.directory name) = .ok text ∧
        (SessionRecord.parse text).toOption.map SessionRecord.summary = some summary := by
  rw [listed?]
  split
  next hending =>
    cases tree.readText (Path.join store.directory name) <;> simp [hending]
  next hending => simp [hending]

theorem list_of_opens (hopens : tree.Opens store.directory) (hdirectory : store.directory ≠ "") :
    store.list tree = .ok (((tree.namesAt (tree.home store.directory)).filterMap
      (store.listed? tree)).mergeSort fun a b => !a.updatedAt.before b.updatedAt) := by
  have hnames : tree.list store.directory = .ok (tree.namesAt (tree.home store.directory)) := by
    rw [FileTree.list, hopens.resolve hdirectory]
    exact if_pos (FileTree.isDirectoryAt_iff.mpr hopens.directory)
  rw [list, hnames]
  rfl

/-- Nothing is listed of a directory that is not there. -/
theorem eq_nil_of_list {summaries : List SessionSummary} (hopens : ¬tree.Opens store.directory)
    (hlist : store.list tree = .ok summaries) : summaries = [] := by
  rw [list] at hlist
  split at hlist
  next =>
    cases hlist
    rfl
  next => exact nomatch hlist
  next names hnames =>
    rw [FileTree.list, Attempt.bind_eq_ok_iff] at hnames
    obtain ⟨location, hresolve, hnames⟩ := hnames
    split at hnames
    next hdirectory =>
      exact absurd (FileTree.opens_of_resolve hresolve (FileTree.isDirectoryAt_iff.mp hdirectory))
        hopens
    next => exact (Attempt.throw_eq_ok_iff.mp hnames).elim

/-- Files that bear another ending than that of a session do not change the listing. -/
theorem list_without {gone : Location → Bool} (hsound : tree.Sound)
    (hgone : ∀ name, gone (tree.home store.directory ++ [name]) = true →
      Path.extension? name ≠ some "json")
    (hopens : tree.Opens store.directory) : store.list (tree.without gone) = store.list tree := by
  by_cases hdirectory : store.directory = ""
  · rw [list, list, hdirectory]
    rfl
  · have hwellFormed := hsound.toWellFormed
    have hleft : (tree.without gone).Opens store.directory :=
      (FileTree.opens_without_iff hwellFormed).mpr hopens
    have hhome : (tree.without gone).home store.directory = tree.home store.directory := rfl
    rw [list_of_opens hleft hdirectory, list_of_opens hopens hdirectory, hhome,
      FileTree.namesAt_without, List.filterMap_filter]
    congr 2
    refine List.filterMap_congr fun name hname => ?_
    have hsome := FileTree.mem_namesAt_iff.mp hname
    by_cases hending : Path.extension? name = some "json"
    · have hstays : gone (tree.home store.directory ++ [name]) = false := by
        rw [← Bool.not_eq_true]
        exact fun hgoes => hgone name hgoes hending
      have hstands : ((tree.without gone).get? (tree.home store.directory ++ [name])).isSome :=
        FileTree.isSome_without_iff.mpr ⟨hsome, by rw [hstays, Bool.not_false, Bool.or_true]⟩
      rw [if_pos hstands]
      ext summary
      simp only [listed?_eq_some_iff,
        FileTree.readText_join_without_iff hwellFormed (hsound.named hsome).1 hstays]
    · simp [listed?, hending]

theorem extension?_lock (hid : IsId id) : Path.extension? (id ++ ".lock") = some "lock" :=
  Path.extension?_append (isName_lock (isValidId_iff.mpr hid)).isProper hid.some (by decide)
    (by decide)

theorem extension?_temporary {mark : String} (hid : IsId id) (hmark : IsId mark) :
    Path.extension? ("." ++ id ++ "." ++ mark ++ ".tmp") = some "tmp" := by
  have hname := isName_temporary (isValidId_iff.mpr hid)
    (all_isNameChar_of_isValidId (isValidId_iff.mpr hmark))
  exact Path.extension?_append hname.isProper (by simp [String.append_assoc]) (by decide)
    (by decide)

/-! ## Confinement -/

/-- Whether only files at some locations are lock files of sessions or such as are written first. -/
def Passing (store : SessionStore) (tree : FileTree) (gone : Location → Bool) : Prop :=
  ∀ location, gone location = true → ∃ id, IsId id ∧ (location = store.lockPlace tree id ∨
    ∃ mark, IsId mark ∧ location = store.temporaryPlace tree id mark)

/-- A text that is no identifier is refused before the tree is looked at.  An identifier has one
file, directly in the directory of the store and named for it; that file is all that a load reads,
and a save changes no file but that one, its lock and the one that is written first.  No other text
has the same file, no lock and no file that is written first is the file of a session, and the
listing is the same without them. -/
theorem identifiers_confined (store : SessionStore) (hsound : tree.Sound) (id : String) :
    (¬IsId id →
      store.pathFor id = .error (refusal id) ∧ store.load tree id = .error (refusal id) ∧
      ∀ record : SessionRecord, record.state.sessionId = id →
        store.save tree record = (tree, .error (refusal id))) ∧
    (IsId id →
      (∃ path, store.pathFor id = .ok path ∧
        Path.parts path = Path.parts store.directory ++ [.name (id ++ ".json")] ∧
        tree.home path = store.sessionPlace tree id) ∧
      (∀ record, store.load tree id = .ok record ↔
        tree.Opens store.directory ∧ (id ++ ".json").utf8ByteSize ≤ 255 ∧
        ∃ file text, tree.file? (store.sessionPlace tree id) = some file ∧
          Text.ofBytes? file.content = some text ∧ SessionRecord.parse text = .ok record) ∧
      ∀ record : SessionRecord, record.state.sessionId = id →
        Follows [store.lockPlace tree id, store.temporaryPlace tree id draftMark,
          store.sessionPlace tree id] tree (store.save tree record).1) ∧
    (∀ other, store.sessionPlace tree id = store.sessionPlace tree other → id = other) ∧
    (∀ other, store.sessionPlace tree id ≠ store.lockPlace tree other) ∧
    (∀ other mark, store.sessionPlace tree id ≠ store.temporaryPlace tree other mark) ∧
    (tree.Opens store.directory → ∀ gone, store.Passing tree gone →
      store.list (tree.without gone) = store.list tree) ∧
    (¬tree.Opens store.directory →
      ∀ summaries, store.list tree = .ok summaries → summaries = []) := by
  have hwellFormed := hsound.toWellFormed
  refine ⟨fun hid => ⟨pathFor_eq_refusal store hid, load_eq_refusal store tree hid, ?_⟩,
    fun hid => ⟨⟨_, pathFor_eq store hid, ?_, ?_⟩, fun record => load_eq_ok_iff hid, ?_⟩,
    fun other => sessionPlace_injective, fun other => sessionPlace_ne_lockPlace,
    fun other mark => sessionPlace_ne_temporaryPlace, ?_, fun hopens _ => eq_nil_of_list hopens⟩
  · rintro record rfl
    exact save_eq_refusal store tree hid
  · exact Path.parts_join (isName_session (isValidId_iff.mpr hid)).isProper
  · have hname := isName_session (isValidId_iff.mpr hid)
    rw [FileTree.home_join hname.isPiece, FileTree.turn_of_named hname.named]
    rfl
  · rintro record rfl
    exact save_follows store hwellFormed record
  · intro hopens gone hpassing
    refine list_without hsound (fun name hgoes => ?_) hopens
    obtain ⟨other, hother, hlock | ⟨mark, hmark, htemporary⟩⟩ := hpassing _ hgoes
    · obtain rfl : name = other ++ ".lock" := by simpa [lockPlace] using hlock
      rw [extension?_lock hother]
      decide
    · obtain rfl : name = "." ++ other ++ "." ++ mark ++ ".tmp" := by
        simpa [temporaryPlace] using htemporary
      rw [extension?_temporary hother hmark]
      decide

/-- A directory with the file of a session, its lock and the file of another one. -/
def shelf : FileTree where
  entries := [(["s"], .directory), (["s", "a.json"], .file ⟨[], false, 0⟩),
    (["s", "a.lock"], .file ⟨[], false, 0⟩), (["b.json"], .file ⟨[], false, 0⟩)]
  workingDirectory := []
  clock := 0

theorem identifiers_confined_shelf :
    shelf.Sound ∧ ¬IsId "../b" ∧ IsId "a" ∧
      load ⟨"s"⟩ shelf "../b" = .error (.invalidArgument "invalid session id '../b'") ∧
      list ⟨"s"⟩ (shelf.without (· == ["s", "a.lock"])) = list ⟨"s"⟩ shelf := by
  have hsound : shelf.Sound := by decide +kernel
  have hopens : shelf.Opens "s" := ⟨by decide, by decide +kernel, by decide +kernel⟩
  have hpassing : Passing ⟨"s"⟩ shelf (· == ["s", "a.lock"]) := by
    intro location hgone
    exact ⟨"a", by decide, .inl ((beq_iff_eq.mp hgone).trans (by decide +kernel))⟩
  obtain ⟨hrefused, -, -, -, -, hlist, -⟩ := identifiers_confined ⟨"s"⟩ hsound "../b"
  exact ⟨hsound, by decide, by decide, (hrefused (by decide)).2.1, hlist hopens _ hpassing⟩

end SessionStore

end PromptScript
