import PromptScript.Session.Store
import PromptScript.Proofs.Files.Tree
import PromptScript.Proofs.Json.Trace
import PromptScript.Proofs.Session.ReadBack
import PromptScript.Proofs.Text.Utf8

/-!
# Saving a session

What one save does to a tree.  A save that succeeds writes the text of the advanced record into the
file of its session, and it succeeds only for a record of the stored revision; one that fails leaves
the file of every session as it is.  Either gives the lock back.
-/

namespace PromptScript

/-! ## The stored revision -/

namespace SessionRecord

variable {record : SessionRecord}

theorem nodup_fields (record : SessionRecord) : (record.fields.map Prod.fst).Nodup := by
  have hnames : record.fields.map Prod.fst =
      ["formatVersion", "revision", "status", "sessionId", "filename", "instructionPointer",
        "statements", "conversation", "variables", "activeModel", "activeProvider",
        "cumulativeCounters", "createdAt", "updatedAt"] := rfl
  rw [hnames]
  decide

/-- The revision that is read from the text of a record is the record's, whatever else the record
holds. -/
theorem revision_of_parse {value : Json} (hparse : Json.parse record.render = .ok value) :
    UInt64.ofNat (((value.member? "revision").bind Json.asNat?).getD 0) = record.revision := by
  have hfound : Json.lookup? "revision" record.fields =
      some (.number (.int record.revision.toNat)) := by
    simp [fields, Json.ofNat]
  have hback : Json.ReadsBack (.int record.revision.toNat) :=
    Json.readsBack_ofNat (Nat.le_of_lt_succ record.revision.toNat_lt)
  rw [Json.member?_of_parse hparse record.nodup_fields hfound hback]
  simp [Json.asNat?]

theorem revision_of_parse_render {read : SessionRecord} (hparse : parse record.render = .ok read) :
    read.revision = record.revision := by
  obtain ⟨members, hvalue, hread, -⟩ := parse_eq_ok hparse
  obtain ⟨⟨count, hcount, hrevision⟩, -⟩ := ofMembers?_eq_some hread
  rw [← revision_of_parse hvalue, Json.member?_object, hcount, hrevision]
  rfl

end SessionRecord

namespace SessionStore

variable {store : SessionStore} {tree after : FileTree} {id other : String}
  {record next : SessionRecord}

/-! ## Names of files -/

/-- Whether a character may stand in the name of a file of a store. -/
def isNameChar (c : Char) : Bool :=
  c == '.' || isIdChar c

theorem isName_of_chars {name : String} (hlength : 2 < name.toList.length)
    (hchars : name.toList.all isNameChar = true) : Path.IsName name where
  named := by
    refine ⟨?_, ?_, ?_⟩ <;>
      · rintro rfl
        exact absurd hlength (by decide)
  plain := fun hslash => absurd (List.all_eq_true.mp hchars _ hslash) (by decide)
  written := fun hnul => absurd (List.all_eq_true.mp hchars _ hnul) (by decide)

theorem isName_append {text ending : String} (hchars : text.toList.all isNameChar = true)
    (hlength : 2 < ending.toList.length) (hending : ending.toList.all isNameChar = true) :
    Path.IsName (text ++ ending) := by
  apply isName_of_chars
  · rw [String.toList_append, List.length_append]
    omega
  · rw [String.toList_append, List.all_append, hchars, hending]
    rfl

theorem all_isNameChar_of_isValidId (hid : isValidId id = true) :
    id.toList.all isNameChar = true := by
  rw [isValidId, Bool.and_eq_true, List.all_eq_true] at hid
  rw [List.all_eq_true]
  intro c hc
  rw [isNameChar, hid.2 c hc, Bool.or_true]

theorem isName_session (hid : isValidId id = true) : Path.IsName (id ++ ".json") :=
  isName_append (all_isNameChar_of_isValidId hid) (by decide) (by decide)

theorem isName_lock (hid : isValidId id = true) : Path.IsName (id ++ ".lock") :=
  isName_append (all_isNameChar_of_isValidId hid) (by decide) (by decide)

theorem isName_temporary {mark : String} (hid : isValidId id = true)
    (hmark : mark.toList.all isNameChar = true) :
    Path.IsName ("." ++ id ++ "." ++ mark ++ ".tmp") := by
  refine isName_append ?_ (by decide) (by decide)
  simp only [String.toList_append, List.all_append, all_isNameChar_of_isValidId hid, hmark]
  decide

theorem isName_draft (hid : isValidId id = true) :
    Path.IsName ("." ++ id ++ "." ++ draftMark ++ ".tmp") :=
  isName_temporary hid (by decide)

/-! ## Places of files -/

/-- The location of a session's file. -/
def sessionPlace (store : SessionStore) (tree : FileTree) (id : String) : Location :=
  tree.home store.directory ++ [id ++ ".json"]

/-- The location of a session's lock file. -/
def lockPlace (store : SessionStore) (tree : FileTree) (id : String) : Location :=
  tree.home store.directory ++ [id ++ ".lock"]

/-- The location of the file under which a session's text is written first. -/
def draftPlace (store : SessionStore) (tree : FileTree) (id : String) : Location :=
  tree.home store.directory ++ ["." ++ id ++ "." ++ draftMark ++ ".tmp"]

theorem getLast?_toList_append {ending : String} {c : Char}
    (hlast : ending.toList.getLast? = some c) (text : String) :
    (text ++ ending).toList.getLast? = some c := by
  rw [String.toList_append, List.getLast?_append, hlast]
  rfl

theorem place_ne {first second : String} (above : Location)
    (hlast : first.toList.getLast? ≠ second.toList.getLast?) : above ++ [first] ≠ above ++ [second] := by
  intro hsame
  rw [List.append_cancel_left_eq, List.cons.injEq] at hsame
  exact hlast (by rw [hsame.1])

theorem sessionPlace_ne_lockPlace : store.sessionPlace tree id ≠ store.lockPlace tree other := by
  apply place_ne
  rw [getLast?_toList_append rfl, getLast?_toList_append rfl]
  decide

theorem sessionPlace_ne_draftPlace : store.sessionPlace tree id ≠ store.draftPlace tree other := by
  apply place_ne
  rw [getLast?_toList_append rfl, getLast?_toList_append rfl]
  decide

theorem lockPlace_ne_draftPlace : store.lockPlace tree id ≠ store.draftPlace tree other := by
  apply place_ne
  rw [getLast?_toList_append rfl, getLast?_toList_append rfl]
  decide

theorem sessionPlace_injective (hsame : store.sessionPlace tree id = store.sessionPlace tree other) :
    id = other := by
  simpa [sessionPlace] using hsame

/-! ## Locks and drafts -/

open FileTree (Follows)

theorem ofFile_eq_ok_iff {α : Type} {outcome : Except FileError α} {value : α} :
    ofFile outcome = .ok value ↔ outcome = .ok value := by
  cases outcome <;> simp [ofFile, Except.mapError]

/-- Discarding a file changes no other one. -/
theorem discard_follows {name : String} (hwellFormed : tree.WellFormed) (hname : Path.IsName name) :
    Follows [tree.home store.directory ++ [name]] tree
      (discard tree (Path.join store.directory name)) := by
  rw [discard]
  split
  next removed hremove =>
    obtain ⟨-, -, ⟨file, hfile⟩, rfl⟩ := (FileTree.removeFile_join_iff hname).mp hremove
    exact .erase_file hwellFormed hfile
  next => exact .refl hwellFormed _

/-- A discarded file is gone, if its directory can be entered. -/
theorem file?_discard {name : String} (hwellFormed : tree.WellFormed) (hname : Path.IsName name)
    (hopens : tree.Opens store.directory) (hshort : name.utf8ByteSize ≤ 255) :
    (discard tree (Path.join store.directory name)).file? (tree.home store.directory ++ [name]) =
      none := by
  cases hfile : tree.file? (tree.home store.directory ++ [name]) with
  | none =>
      rw [discard]
      split
      next removed hremove =>
        obtain ⟨-, -, ⟨file, hget⟩, -⟩ := (FileTree.removeFile_join_iff hname).mp hremove
        rw [FileTree.file?_eq_some_iff.mpr hget] at hfile
        exact nomatch hfile
      next => exact hfile
  | some file =>
      have hget := FileTree.file?_eq_some_iff.mp hfile
      have hremove := (FileTree.removeFile_join_iff hname).mpr ⟨hopens, hshort, ⟨file, hget⟩, rfl⟩
      rw [discard, hremove]
      exact FileTree.file?_eq_none_of_get? (by rw [hwellFormed.get?_erase_file hget, if_pos rfl])

/-- A lock that is taken is a new file, in the place of a lock file that belonged to nobody if one
stood there. -/
theorem takeLock_ok {locked : FileTree} (hwellFormed : tree.WellFormed)
    (hid : isValidId id = true) (hlock : store.takeLock tree id = .ok locked) :
    tree.Opens store.directory ∧ (id ++ ".lock").utf8ByteSize ≤ 255 ∧
      Follows [store.lockPlace tree id] tree locked := by
  have hname := isName_lock hid
  unfold takeLock at hlock
  simp only at hlock
  split at hlock
  next created hcreate =>
    cases hlock
    obtain ⟨hopens, hshort, -, hfollows, -⟩ := FileTree.create_join hwellFormed hname hcreate
    exact ⟨hopens, hshort, hfollows⟩
  next =>
    split at hlock
    next =>
      simp only [Attempt.bind_eq_ok_iff, ofFile_eq_ok_iff] at hlock
      obtain ⟨cleared, hremove, hlock⟩ := hlock
      obtain ⟨hopens, hshort, ⟨file, hfile⟩, rfl⟩ := (FileTree.removeFile_join_iff hname).mp hremove
      have hcleared := Follows.erase_file hwellFormed hfile
      split at hlock
      next created hcreate =>
        cases hlock
        obtain ⟨-, -, -, hcreated, -⟩ := FileTree.create_join hcleared.wellFormed hname hcreate
        rw [hcleared.home_eq] at hcreated
        exact ⟨hopens, hshort, hcleared.trans hcreated⟩
      next => cases hlock
      next => cases hlock
    next => cases hlock
  next => cases hlock

/-! ## Writing -/

/-- Whether the text of a record is stored for a session, or no file of it stands. -/
def Holds (store : SessionStore) (tree : FileTree) (id : String) : Option SessionRecord → Prop
  | none => tree.file? (store.sessionPlace tree id) = none
  | some record => tree.readText (Path.join store.directory (id ++ ".json")) = .ok record.render

/-- The revision of a record; zero where there is none. -/
def revisionOf (written : Option SessionRecord) : UInt64 :=
  written.elim 0 SessionRecord.revision

theorem Holds.congr {written : Option SessionRecord} (hid : isValidId id = true)
    (hholds : store.Holds tree id written)
    (hopens : tree.Opens store.directory → after.Opens store.directory)
    (hhome : after.home store.directory = tree.home store.directory)
    (hfile : after.file? (store.sessionPlace tree id) = tree.file? (store.sessionPlace tree id)) :
    store.Holds after id written := by
  cases written with
  | none =>
      rw [Holds, sessionPlace, hhome]
      exact hfile.trans hholds
  | some record =>
      rw [Holds, FileTree.readText_join_iff (isName_session hid)] at hholds ⊢
      obtain ⟨hopened, hshort, file, hfound, htext⟩ := hholds
      refine ⟨hopens hopened, hshort, file, ?_, htext⟩
      rw [hhome]
      exact hfile.trans hfound

/-- The stored revision that is found is that of the record which was written last. -/
theorem storedRevision_ok {written : Option SessionRecord} {revision : UInt64}
    (hid : isValidId id = true) (hholds : store.Holds tree id written)
    (hstored : storedRevision tree (Path.join store.directory (id ++ ".json")) = .ok revision) :
    revision = revisionOf written := by
  unfold storedRevision at hstored
  cases written with
  | none =>
      split at hstored
      next text hread =>
        obtain ⟨-, -, file, hfile, -⟩ := (FileTree.readText_join_iff (isName_session hid)).mp hread
        rw [Holds, sessionPlace, hfile] at hholds
        exact nomatch hholds
      next =>
        cases hstored
        rfl
      next => exact nomatch hstored
  | some record =>
      rw [Holds] at hholds
      simp only [hholds] at hstored
      split at hstored
      next value hparse =>
        cases hstored
        exact SessionRecord.revision_of_parse hparse
      next => exact nomatch hstored

/-- Writing a record under its lock takes the stored revision and leaves the text of the advanced
record. -/
theorem writeLocked_ok {written : FileTree} (hid : isValidId record.state.sessionId = true)
    (hwellFormed : tree.WellFormed)
    (hwrite : store.writeLocked tree
      (Path.join store.directory (record.state.sessionId ++ ".json")) record = .ok (written, next)) :
    storedRevision tree (Path.join store.directory (record.state.sessionId ++ ".json")) =
        .ok record.revision ∧
      next = advance record (.ofNanoseconds tree.clock) ∧
      Follows [store.draftPlace tree record.state.sessionId,
        store.sessionPlace tree record.state.sessionId] tree written ∧
      store.Holds written record.state.sessionId (some next) := by
  have hsession := isName_session hid
  have hdraft := isName_draft hid
  simp only [writeLocked, Attempt.bind_eq_ok_iff] at hwrite
  obtain ⟨revision, hstored, hwrite⟩ := hwrite
  split at hwrite
  next => simp at hwrite
  next hsame =>
    simp only [Attempt.pure_eq_ok_iff, Attempt.bind_eq_ok_iff, ofFile_eq_ok_iff,
      Prod.mk.injEq] at hwrite
    obtain ⟨drafted, hdrafted, renamed, hrenamed, rfl, rfl⟩ := hwrite
    -- the text is written into the draft, which then takes the place of the session's file
    obtain ⟨hfirst, file, hfile, hcontent⟩ := FileTree.write_join hwellFormed hdraft hdrafted
    obtain ⟨hopens, hshort, hsecond, moved, hmoved, hfound⟩ :=
      FileTree.rename_join hfirst.wellFormed hdraft hsession hrenamed
    have hopened := hsecond.opens hopens
    rw [hfirst.home_eq] at hsecond hmoved hfound
    rw [hfile] at hmoved
    cases hmoved
    have hfollows := (hfirst.mono (by simp)).trans hsecond
    refine ⟨by rw [hstored, not_not.mp hsame], rfl, hfollows, ?_⟩
    rw [Holds, FileTree.readText_join_iff hsession, hfollows.home_eq]
    refine ⟨hopened, hshort, file, hfound, ?_⟩
    rw [hcontent, Text.ofBytes?_toBytes]

/-! ## Saves -/

section Places

variable {places : List Location}

theorem sessionPlace_eq (hfollows : Follows places tree after) (id : String) :
    store.sessionPlace after id = store.sessionPlace tree id := by
  rw [sessionPlace, sessionPlace, hfollows.home_eq]

theorem lockPlace_eq (hfollows : Follows places tree after) (id : String) :
    store.lockPlace after id = store.lockPlace tree id := by
  rw [lockPlace, lockPlace, hfollows.home_eq]

theorem draftPlace_eq (hfollows : Follows places tree after) (id : String) :
    store.draftPlace after id = store.draftPlace tree id := by
  rw [draftPlace, draftPlace, hfollows.home_eq]

/-- Where the lock that was taken is given back, only the other places have changed. -/
theorem discard_lock {held : FileTree} (hid : isValidId id = true)
    (hfree : tree.file? (store.lockPlace tree id) = none)
    (hheld : Follows (store.lockPlace tree id :: places) tree held)
    (hopens : held.Opens store.directory) (hshort : (id ++ ".lock").utf8ByteSize ≤ 255) :
    Follows places tree (discard held (store.lockPath id)) := by
  have hname := isName_lock hid
  have hgiven : Follows [store.lockPlace held id] held (discard held (store.lockPath id)) :=
    discard_follows hheld.wellFormed hname
  have hgone : (discard held (store.lockPath id)).file? (store.lockPlace held id) = none :=
    file?_discard hheld.wellFormed hname hopens hshort
  rw [lockPlace_eq hheld] at hgiven hgone
  refine (hheld.trans (hgiven.mono ?_)).drop (by rw [hgone, hfree])
  simp

end Places

/-- A save either fails before it holds the lock, or writes under the lock and gives it back. -/
theorem save_cases {result : Except RunError SessionRecord} (hwellFormed : tree.WellFormed)
    (hsave : store.save tree record = (after, result)) :
    (Follows [] tree after ∧ ∃ cause, result = .error cause) ∨
    isValidId record.state.sessionId = true ∧ ∃ locked : FileTree,
      locked.Opens store.directory ∧ (record.state.sessionId ++ ".lock").utf8ByteSize ≤ 255 ∧
      Follows [store.lockPlace tree record.state.sessionId] tree locked ∧
      match store.writeLocked locked
        (Path.join store.directory (record.state.sessionId ++ ".json")) record with
      | .ok (written, next) =>
        after = discard written (store.lockPath record.state.sessionId) ∧ result = .ok next
      | .error cause =>
        after = discard (discard locked (store.draftPath record.state.sessionId))
          (store.lockPath record.state.sessionId) ∧ result = .error cause := by
  simp only [save, pathFor] at hsave
  by_cases hid : isValidId record.state.sessionId = true
  · simp only [if_pos hid] at hsave
    cases hprepare : tree.createDirectories store.directory with
    | error cause =>
        simp only [hprepare, Prod.mk.injEq] at hsave
        obtain ⟨rfl, rfl⟩ := hsave
        exact .inl ⟨.refl hwellFormed [], _, rfl⟩
    | ok prepared =>
        have hprepared := FileTree.createDirectories_follows hwellFormed hprepare
        simp only [hprepare] at hsave
        cases hlock : store.takeLock prepared record.state.sessionId with
        | error cause =>
            simp only [hlock, Prod.mk.injEq] at hsave
            obtain ⟨rfl, rfl⟩ := hsave
            exact .inl ⟨hprepared, _, rfl⟩
        | ok locked =>
            obtain ⟨hopens, hshort, hlocked⟩ := takeLock_ok hprepared.wellFormed hid hlock
            rw [lockPlace_eq hprepared] at hlocked
            refine .inr ⟨hid, locked, hlocked.opens hopens, hshort,
              (hprepared.mono (List.nil_subset _)).trans hlocked, ?_⟩
            simp only [hlock] at hsave
            cases hwrite : store.writeLocked locked
                (Path.join store.directory (record.state.sessionId ++ ".json")) record with
            | ok result =>
                simp only [hwrite, Prod.mk.injEq] at hsave
                exact ⟨hsave.1.symm, hsave.2.symm⟩
            | error cause =>
                simp only [hwrite, Prod.mk.injEq] at hsave
                exact ⟨hsave.1.symm, hsave.2.symm⟩
  · simp only [if_neg hid, Prod.mk.injEq] at hsave
    obtain ⟨rfl, rfl⟩ := hsave
    exact .inl ⟨.refl hwellFormed [], _, rfl⟩

/-- What a save that succeeds has done, where no lock file of the session stood. -/
theorem save_ok (hwellFormed : tree.WellFormed)
    (hfree : isValidId record.state.sessionId = true →
      tree.file? (store.lockPlace tree record.state.sessionId) = none)
    (hsave : store.save tree record = (after, .ok next)) :
    isValidId record.state.sessionId = true ∧ (∃ now, next = advance record now) ∧
      Follows [store.draftPlace tree record.state.sessionId,
        store.sessionPlace tree record.state.sessionId] tree after ∧
      store.Holds after record.state.sessionId (some next) ∧
      ∀ written, store.Holds tree record.state.sessionId written →
        record.revision = revisionOf written := by
  rcases save_cases hwellFormed hsave with ⟨-, cause, hcause⟩ |
    ⟨hid, locked, hopens, hshort, hlocked, hwrite⟩
  · exact nomatch hcause
  · split at hwrite
    next written last hwritten =>
      obtain ⟨rfl, hnext⟩ := hwrite
      cases hnext
      obtain ⟨hstored, rfl, hfollows, hholds⟩ := writeLocked_ok hid hlocked.wellFormed hwritten
      rw [draftPlace_eq hlocked, sessionPlace_eq hlocked] at hfollows
      have hheld : Follows [store.lockPlace tree record.state.sessionId,
          store.draftPlace tree record.state.sessionId,
          store.sessionPlace tree record.state.sessionId] tree written :=
        (hlocked.mono (by simp)).trans (hfollows.mono (by simp))
      have hgiven : Follows [store.lockPlace written record.state.sessionId] written
          (discard written (store.lockPath record.state.sessionId)) :=
        discard_follows hheld.wellFormed (isName_lock hid)
      refine ⟨hid, ⟨_, rfl⟩, discard_lock hid (hfree hid) hheld (hfollows.opens hopens) hshort,
        ?_, ?_⟩
      · exact hholds.congr hid hgiven.opens (hgiven.home_eq _)
          (hgiven.file?_eq sessionPlace_ne_lockPlace)
      · intro earlier hearlier
        have hbefore := hearlier.congr hid hlocked.opens (hlocked.home_eq _)
          (hlocked.file?_eq sessionPlace_ne_lockPlace)
        exact storedRevision_ok hid hbefore hstored
    next => exact nomatch hwrite.2

/-- What a save that fails has done, where no lock file of the session stood. -/
theorem save_error {cause : RunError} (hwellFormed : tree.WellFormed)
    (hfree : isValidId record.state.sessionId = true →
      tree.file? (store.lockPlace tree record.state.sessionId) = none)
    (hsave : store.save tree record = (after, .error cause)) :
    Follows [store.draftPlace tree record.state.sessionId] tree after := by
  rcases save_cases hwellFormed hsave with ⟨hfollows, -⟩ |
    ⟨hid, locked, hopens, hshort, hlocked, hwrite⟩
  · exact hfollows.mono (List.nil_subset _)
  · split at hwrite
    next => exact nomatch hwrite.2
    next first hfailed =>
      obtain ⟨rfl, -⟩ := hwrite
      have hcleared : Follows [store.draftPlace locked record.state.sessionId] locked
          (discard locked (store.draftPath record.state.sessionId)) :=
        discard_follows hlocked.wellFormed (isName_draft hid)
      rw [draftPlace_eq hlocked] at hcleared
      have hheld : Follows [store.lockPlace tree record.state.sessionId,
          store.draftPlace tree record.state.sessionId] tree
          (discard locked (store.draftPath record.state.sessionId)) :=
        (hlocked.mono (by simp)).trans (hcleared.mono (by simp))
      exact discard_lock hid (hfree hid) hheld (hcleared.opens hopens) hshort

end SessionStore
end PromptScript
