import PromptScript.Engine.Basic
import PromptScript.Proofs.Session.Saving

/-!
# Histories of a store

Copies of records and engines load, save and persist through one store, in any order and at any
revision, and change what they hold in between.  A save succeeds only at the revision that was
written last for its session, so the saves of a session stand in one line, and what is stored is
always the last of them.
-/

namespace PromptScript

namespace SessionStore

/-! ## Uses of a store -/

/-- A save that succeeded. -/
structure Save where
  /-- The record that was offered. -/
  loaded : SessionRecord
  /-- The record that was written. -/
  stored : SessionRecord
  deriving DecidableEq, Repr

/-- The session that a save is of. -/
def Save.session (save : Save) : String := save.loaded.state.sessionId

/-- The holders of copies and engines, with the tree in which the store stands. -/
structure Clients where
  tree : FileTree
  records : List SessionRecord
  engines : List Engine

/-- One use of a store: by an identifier, by a copy or by an engine. -/
inductive Use where
  | load (id : String)
  | save (index : Nat)
  | persist (index : Nat)

/-- How a use ends. -/
inductive Outcome where
  | loaded (record : SessionRecord)
  | saved (save : Save)
  | failed (cause : RunError)
  deriving DecidableEq, Repr

/-- The saves of an outcome, of which there is one at most. -/
def Outcome.saves : Outcome → List Save
  | .saved save => [save]
  | .loaded _ | .failed _ => []

/-- Makes one use of a store, if the holder that it names is there. -/
def perform (store : SessionStore) (clients : Clients) : Use → Option (Clients × Outcome)
  | .load id => some <|
    match store.load clients.tree id with
    | .ok record => ({ clients with records := clients.records ++ [record] }, .loaded record)
    | .error cause => (clients, .failed cause)
  | .save index => clients.records[index]?.map fun record =>
    match store.save clients.tree record with
    | (tree, .ok next) =>
      ({ clients with tree, records := clients.records.set index next }, .saved ⟨record, next⟩)
    | (tree, .error cause) => ({ clients with tree }, .failed cause)
  | .persist index => clients.engines[index]?.map fun engine =>
    match engine.persist store clients.tree with
    | (.ok next, renewed, tree) =>
      ({ clients with tree, engines := clients.engines.set index renewed },
        .saved ⟨engine.snapshot (.ofNanoseconds clients.tree.clock), next⟩)
    | (.error cause, renewed, tree) =>
      ({ clients with tree, engines := clients.engines.set index renewed }, .failed cause)

/-- The record that the holder of a use offers to the store. -/
def Clients.offer? (clients : Clients) : Use → Option SessionRecord
  | .load _ => none
  | .save index => clients.records[index]?
  | .persist index =>
    clients.engines[index]?.map (·.snapshot (.ofNanoseconds clients.tree.clock))

/-- The text that is stored for a session. -/
def text? (store : SessionStore) (tree : FileTree) (id : String) : Option String :=
  (store.pathFor id).toOption.bind fun path => (tree.readText path).toOption

/-! ## Histories -/

/-- Whether no lock file of a session stands in the directory of a store. -/
def Unlocked (store : SessionStore) (tree : FileTree) : Prop :=
  ∀ id, isValidId id = true → tree.file? (store.lockPlace tree id) = none

/-- Whether nothing was saved into the directory of a store, which need not stand there yet. -/
structure Fresh (store : SessionStore) (tree : FileTree) : Prop where
  wellFormed : tree.WellFormed
  unlocked : store.Unlocked tree
  empty (id : String) (hid : isValidId id = true) : tree.file? (store.sessionPlace tree id) = none

/-- Whether a later tree has the directory of a store where it was, with the same files of sessions
and locks. -/
structure Spares (store : SessionStore) (tree later : FileTree) : Prop where
  wellFormed : later.WellFormed
  home : later.home store.directory = tree.home store.directory
  opens (hopens : tree.Opens store.directory) : later.Opens store.directory
  session (id : String) (hid : isValidId id = true) :
    later.file? (store.sessionPlace tree id) = tree.file? (store.sessionPlace tree id)
  lock (id : String) (hid : isValidId id = true) :
    later.file? (store.lockPlace tree id) = tree.file? (store.lockPlace tree id)

/-- What comes about from a start by uses of a store, one behind the other, with the saves that
succeeded.  In between the holders may change what they hold, come and go, and anything may happen to
the tree that spares the store. -/
inductive History (store : SessionStore) (start : Clients) : Clients → List Save → Prop
  | start : History store start start []
  | meanwhile {clients later : Clients} {saves : List Save}
      (hhistory : History store start clients saves)
      (hspares : store.Spares clients.tree later.tree) : History store start later saves
  | use {clients later : Clients} {saves : List Save} {use : Use} {outcome : Outcome}
      (hhistory : History store start clients saves)
      (hperform : store.perform clients use = some (later, outcome)) :
      History store start later (saves ++ outcome.saves)

/-- The saves of one session. -/
def ofSession (id : String) (saves : List Save) : List Save :=
  saves.filter fun save => save.session = id

/-- The record that was written last for a session. -/
def lastStored (id : String) (saves : List Save) : Option SessionRecord :=
  (ofSession id saves).getLast?.map Save.stored

variable {store : SessionStore} {tree later : FileTree} {clients next start : Clients} {use : Use}
  {outcome : Outcome} {save : Save} {saves : List Save} {id : String} {record : SessionRecord}
  {written : Option SessionRecord}

/-! ## The saves of one session -/

theorem ofSession_append_same (hsession : save.session = id) :
    ofSession id (saves ++ [save]) = ofSession id saves ++ [save] := by
  simp [ofSession, hsession]

theorem ofSession_append_other (hsession : save.session ≠ id) :
    ofSession id (saves ++ [save]) = ofSession id saves := by
  simp [ofSession, hsession]

/-- Whether the saves of a session are offered at the revisions from zero on and written at those
from one on, without a gap.  Revisions are numbers of 64 bits, which start anew behind the last. -/
structure Numbered (saves : List Save) : Prop where
  loaded : saves.map (·.loaded.revision) = (List.range saves.length).map UInt64.ofNat
  stored : saves.map (·.stored.revision) =
    (List.range saves.length).map fun count => UInt64.ofNat (count + 1)

namespace Numbered

theorem nil : Numbered [] := ⟨rfl, rfl⟩

/-- The revision that was written last is the number of saves. -/
theorem revisionOf_last (hnumbered : Numbered saves) :
    revisionOf (saves.getLast?.map Save.stored) = UInt64.ofNat saves.length := by
  rcases List.eq_nil_or_concat' saves with rfl | ⟨earlier, last, rfl⟩
  · rfl
  · have hstored := hnumbered.stored
    rw [List.length_append, List.length_singleton, List.range_succ, List.map_append,
      List.map_append] at hstored
    have hlast := List.append_inj_right' hstored rfl
    rw [List.map_singleton, List.map_singleton, List.cons.injEq] at hlast
    rw [List.getLast?_concat, List.length_append, List.length_singleton]
    exact hlast.1

theorem append (hnumbered : Numbered saves)
    (hloaded : save.loaded.revision = UInt64.ofNat saves.length)
    (hstored : save.stored.revision = UInt64.ofNat (saves.length + 1)) :
    Numbered (saves ++ [save]) where
  loaded := by
    rw [List.length_append, List.length_singleton, List.range_succ, List.map_append,
      List.map_append, hnumbered.loaded, List.map_singleton, List.map_singleton, hloaded]
  stored := by
    rw [List.length_append, List.length_singleton, List.range_succ, List.map_append,
      List.map_append, hnumbered.stored, List.map_singleton, List.map_singleton, hstored]

/-- No two saves of a session are offered at one revision, before the numbers run out. -/
theorem nodup (hnumbered : Numbered saves) (hcount : saves.length ≤ 2 ^ 64) :
    (saves.map (·.loaded.revision)).Nodup := by
  rw [hnumbered.loaded]
  refine List.Nodup.map_on ?_ List.nodup_range
  intro first hfirst second hsecond hsame
  rw [List.mem_range] at hfirst hsecond
  have hnat := congrArg UInt64.toNat hsame
  rw [UInt64.toNat_ofNat', UInt64.toNat_ofNat', Nat.mod_eq_of_lt (by omega),
    Nat.mod_eq_of_lt (by omega)] at hnat
  exact hnat

end Numbered

/-! ## What is stored -/

/-- The text that is stored is that of the record which was written last. -/
theorem text?_of_holds (hid : isValidId id = true) (hholds : store.Holds tree id written) :
    store.text? tree id = written.map SessionRecord.render := by
  rw [text?, pathFor, if_pos hid]
  change (tree.readText (Path.join store.directory (id ++ ".json"))).toOption = _
  cases written with
  | none =>
      cases hread : tree.readText (Path.join store.directory (id ++ ".json")) with
      | error cause => rfl
      | ok text =>
          obtain ⟨-, -, file, hfile, -⟩ := (FileTree.readText_join_iff (isName_session hid)).mp hread
          rw [Holds, sessionPlace, hfile] at hholds
          cases hholds
  | some record =>
      rw [Holds] at hholds
      rw [hholds]
      rfl

theorem isValidId_of_load (hload : store.load tree id = .ok record) : isValidId id = true := by
  by_contra hid
  rw [load, pathFor, if_neg hid] at hload
  cases hload

/-- A copy is loaded at the revision that was written last. -/
theorem revision_of_load (hid : isValidId id = true) (hholds : store.Holds tree id written)
    (hload : store.load tree id = .ok record) : record.revision = revisionOf written := by
  rw [load, pathFor, if_pos hid] at hload
  simp only [bind, Except.bind] at hload
  split at hload
  next text hread =>
    cases written with
    | none =>
        obtain ⟨-, -, file, hfile, -⟩ := (FileTree.readText_join_iff (isName_session hid)).mp hread
        rw [Holds, sessionPlace, hfile] at hholds
        cases hholds
    | some last =>
        rw [Holds, hread] at hholds
        obtain rfl := Except.ok.inj hholds
        exact SessionRecord.revision_of_parse_render hload
  next => cases hload
  next => cases hload

/-! ## What a history keeps -/

/-- What is known of a tree behind the saves of a history. -/
structure Kept (store : SessionStore) (tree : FileTree) (saves : List Save) : Prop where
  wellFormed : tree.WellFormed
  unlocked : store.Unlocked tree
  valid (save : Save) (hsave : save ∈ saves) : isValidId save.session = true
  numbered (id : String) : Numbered (ofSession id saves)
  holds (id : String) (hid : isValidId id = true) : store.Holds tree id (lastStored id saves)

namespace Kept

theorem of_fresh (hfresh : store.Fresh tree) : store.Kept tree [] where
  wellFormed := hfresh.wellFormed
  unlocked := hfresh.unlocked
  valid := fun _ hsave => nomatch hsave
  numbered := fun _ => .nil
  holds := hfresh.empty

theorem of_spares (hkept : store.Kept tree saves) (hspares : store.Spares tree later) :
    store.Kept later saves where
  wellFormed := hspares.wellFormed
  unlocked := by
    intro id hid
    rw [lockPlace, hspares.home]
    exact (hspares.lock id hid).trans (hkept.unlocked id hid)
  valid := hkept.valid
  numbered := hkept.numbered
  holds := fun id hid =>
    (hkept.holds id hid).congr hid hspares.opens hspares.home (hspares.session id hid)

/-- What is stored for a session is the text of its last save. -/
theorem text?_eq (hkept : store.Kept tree saves) (id : String) :
    store.text? tree id = (lastStored id saves).map SessionRecord.render := by
  by_cases hid : isValidId id = true
  · exact text?_of_holds hid (hkept.holds id hid)
  · have hnone : ofSession id saves = [] := by
      rw [ofSession, List.filter_eq_nil_iff]
      intro save hsave hsession
      rw [← of_decide_eq_true hsession] at hid
      exact hid (hkept.valid save hsave)
    rw [text?, pathFor, if_neg hid, lastStored, hnone]
    rfl

/-- A save that fails changes no file of a session and leaves no lock. -/
theorem spares_of_failed {cause : RunError} (hkept : store.Kept tree saves)
    (hsave : store.save tree record = (later, .error cause)) : store.Spares tree later := by
  have hfollows := save_error hkept.wellFormed (hkept.unlocked _) hsave
  refine ⟨hfollows.wellFormed, hfollows.home_eq _, hfollows.opens, ?_, ?_⟩
  · intro id hid
    exact hfollows.file?_eq sessionPlace_ne_draftPlace
  · intro id hid
    exact hfollows.file?_eq lockPlace_ne_draftPlace

/-- A save that succeeds is offered at the revision that was written last, and is the last then. -/
theorem of_saved (hkept : store.Kept tree saves)
    (hsave : store.save tree save.loaded = (later, .ok save.stored)) :
    save.loaded.revision = revisionOf (lastStored save.session saves) ∧
      (∃ now, save.stored = advance save.loaded now) ∧ store.Kept later (saves ++ [save]) := by
  obtain ⟨hid, ⟨now, hstored⟩, hfollows, hholds, hoffered⟩ :=
    save_ok hkept.wellFormed (hkept.unlocked _) hsave
  have hrevision : save.loaded.revision = revisionOf (lastStored save.session saves) :=
    hoffered _ (hkept.holds _ hid)
  refine ⟨hrevision, ⟨now, hstored⟩, hfollows.wellFormed, ?_, ?_, ?_, ?_⟩
  · intro id hother
    rw [lockPlace_eq hfollows, hfollows.files, hkept.unlocked id hother]
    rw [List.mem_pair, not_or]
    exact ⟨lockPlace_ne_draftPlace, sessionPlace_ne_lockPlace.symm⟩
  · exact List.forall_mem_append.mpr ⟨hkept.valid, List.forall_mem_singleton.mpr hid⟩
  · intro id
    by_cases hsession : save.session = id
    · subst hsession
      have hcount : save.loaded.revision = UInt64.ofNat (ofSession save.session saves).length :=
        hrevision.trans (hkept.numbered save.session).revisionOf_last
      rw [ofSession_append_same rfl]
      -- the revision offered counts the saves so far, so the one written counts this save too
      refine (hkept.numbered save.session).append hcount ?_
      rw [hstored, advance, UInt64.ofNat_add, ← hcount]
      rfl
    · rw [ofSession_append_other hsession]
      exact hkept.numbered id
  · intro id hother
    by_cases hsession : save.session = id
    · subst hsession
      rw [lastStored, ofSession_append_same rfl, List.getLast?_concat]
      exact hholds
    · rw [lastStored, ofSession_append_other hsession]
      refine (hkept.holds id hother).congr hother hfollows.opens (hfollows.home_eq _)
        (hfollows.files ?_)
      rw [List.mem_pair, not_or]
      exact ⟨sessionPlace_ne_draftPlace, fun hsame => hsession (sessionPlace_injective hsame).symm⟩

end Kept

/-! ## Uses -/

/-- A use either saves the record that its holder offers, which is then at the stored revision, or it
fails and leaves all holders as they are, or it loads. -/
theorem perform_cases (hperform : store.perform clients use = some (next, outcome)) :
    (∃ save : Save, store.save clients.tree save.loaded = (next.tree, .ok save.stored) ∧
      outcome = .saved save ∧ clients.offer? use = some save.loaded ∧
      (next.offer? use).map SessionRecord.revision = some save.stored.revision) ∨
    (∃ record cause, store.save clients.tree record = (next.tree, .error cause) ∧
      outcome = .failed cause ∧ next.records = clients.records ∧ next.engines = clients.engines) ∨
    (∃ cause, outcome = .failed cause ∧ next = clients) ∨
    ∃ record, outcome = .loaded record ∧ next.tree = clients.tree := by
  cases use with
  | load id =>
      simp only [perform, Option.some.injEq] at hperform
      split at hperform
      next record _ =>
        cases hperform
        exact .inr (.inr (.inr ⟨record, rfl, rfl⟩))
      next cause _ =>
        cases hperform
        exact .inr (.inr (.inl ⟨cause, rfl, rfl⟩))
  | save index =>
      obtain ⟨record, hrecord, hsave⟩ := Option.map_eq_some_iff.mp hperform
      split at hsave
      next tree stored hstored =>
        cases hsave
        refine .inl ⟨⟨record, stored⟩, hstored, rfl, hrecord, ?_⟩
        obtain ⟨hindex, -⟩ := List.getElem?_eq_some_iff.mp hrecord
        simp [Clients.offer?, hindex]
      next tree cause hcause =>
        cases hsave
        exact .inr (.inl ⟨record, cause, hcause, rfl, rfl, rfl⟩)
  | persist index =>
      obtain ⟨engine, hengine, hpersist⟩ := Option.map_eq_some_iff.mp hperform
      obtain ⟨hindex, hsame⟩ := List.getElem?_eq_some_iff.mp hengine
      simp only [Engine.persist] at hpersist
      split at hpersist
      next stored renewed tree hstored =>
        split at hstored
        next tree' stored' hsave =>
          cases hstored
          cases hpersist
          refine .inl ⟨⟨_, stored⟩, hsave, rfl, ?_, ?_⟩
          · rw [Clients.offer?, hengine]
            rfl
          · simp [Clients.offer?, hindex, Engine.snapshot]
        next => cases hstored
      next cause renewed tree hcause =>
        split at hcause
        next => cases hcause
        next tree' cause' hsave =>
          cases hcause
          cases hpersist
          refine .inr (.inl ⟨_, cause, hsave, rfl, rfl, ?_⟩)
          rw [← hsame]
          exact List.set_getElem_self hindex

/-! ## Histories keep what is stored -/

theorem Kept.perform (hkept : store.Kept clients.tree saves)
    (hperform : store.perform clients use = some (next, outcome)) :
    store.Kept next.tree (saves ++ outcome.saves) := by
  rcases perform_cases hperform with ⟨save, hsave, rfl, -⟩ | ⟨record, cause, hsave, rfl, -⟩ |
    ⟨cause, rfl, rfl⟩ | ⟨record, rfl, htree⟩
  · exact (hkept.of_saved hsave).2.2
  · rw [Outcome.saves, List.append_nil]
    exact hkept.of_spares (hkept.spares_of_failed hsave)
  · rw [Outcome.saves, List.append_nil]
    exact hkept
  · rw [Outcome.saves, List.append_nil, htree]
    exact hkept

theorem History.kept (hfresh : store.Fresh start.tree)
    (hhistory : store.History start clients saves) : store.Kept clients.tree saves := by
  induction hhistory with
  | start => exact .of_fresh hfresh
  | meanwhile _ hspares ih => exact ih.of_spares hspares
  | use _ hperform ih => exact ih.perform hperform

/-- No update is lost.  The saves of each session are offered at the revisions 0, 1, 2 and so on and
written at 1, 2, 3 and so on, so that no revision is saved twice; what is stored is the text of the
last one, and a copy is loaded at its revision.  Each further use succeeds in saving only at the
revision that was written last; it then stores the text of the advanced record and changes no other
session, and its holder is at the revision written.  A use that fails leaves every holder and every
text as it was.  No use leaves a lock file. -/
theorem no_update_is_lost (hfresh : store.Fresh start.tree)
    (hhistory : store.History start clients saves) :
    (∀ id, Numbered (ofSession id saves) ∧
      ((ofSession id saves).length ≤ 2 ^ 64 →
        ((ofSession id saves).map (·.loaded.revision)).Nodup) ∧
      store.text? clients.tree id = (lastStored id saves).map SessionRecord.render ∧
      ∀ record, store.load clients.tree id = .ok record →
        record.revision = revisionOf (lastStored id saves)) ∧
    ∀ use next outcome, store.perform clients use = some (next, outcome) →
      store.Unlocked next.tree ∧
      match outcome with
      | .saved save =>
        clients.offer? use = some save.loaded ∧
        save.loaded.revision = revisionOf (lastStored save.session saves) ∧
        (∃ now, save.stored = advance save.loaded now) ∧
        (next.offer? use).map SessionRecord.revision = some save.stored.revision ∧
        store.text? next.tree save.session = some save.stored.render ∧
        ∀ id, id ≠ save.session → store.text? next.tree id = store.text? clients.tree id
      | .failed _ =>
        next.records = clients.records ∧ next.engines = clients.engines ∧
        ∀ id, store.text? next.tree id = store.text? clients.tree id
      | .loaded _ => ∀ id, store.text? next.tree id = store.text? clients.tree id := by
  have hkept := hhistory.kept hfresh
  refine ⟨fun id => ⟨hkept.numbered id, (hkept.numbered id).nodup, hkept.text?_eq id, ?_⟩, ?_⟩
  · intro record hload
    exact revision_of_load (isValidId_of_load hload) (hkept.holds id (isValidId_of_load hload)) hload
  · intro use next outcome hperform
    have hnext := hkept.perform hperform
    refine ⟨hnext.unlocked, ?_⟩
    have htext : outcome.saves = [] →
        ∀ id, store.text? next.tree id = store.text? clients.tree id := by
      intro hnone id
      rw [hnext.text?_eq, hkept.text?_eq, hnone, List.append_nil]
    rcases perform_cases hperform with ⟨save, hsave, rfl, hoffered, hrenewed⟩ |
      ⟨record, cause, hsave, rfl, hrecords, hengines⟩ | ⟨cause, rfl, rfl⟩ | ⟨record, rfl, htree⟩
    · obtain ⟨hrevision, hadvanced, -⟩ := hkept.of_saved hsave
      refine ⟨hoffered, hrevision, hadvanced, hrenewed, ?_, ?_⟩
      · rw [hnext.text?_eq, Outcome.saves, lastStored, ofSession_append_same rfl,
          List.getLast?_concat]
        rfl
      · intro id hother
        rw [hnext.text?_eq, hkept.text?_eq, Outcome.saves, lastStored, lastStored,
          ofSession_append_other hother.symm]
    · exact ⟨hrecords, hengines, htext rfl⟩
    · exact ⟨rfl, rfl, htext rfl⟩
    · exact htext rfl

/-- A copy of a session that was never saved. -/
def unsaved : SessionRecord := .new (.initial "s" []) .running ⟨0, 0⟩

/-- Two holders of that copy, in an empty tree. -/
def twoCopies : Clients := ⟨⟨[], [], 0⟩, [unsaved, unsaved], []⟩

theorem fresh_twoCopies (store : SessionStore) : store.Fresh twoCopies.tree := by
  have hfile : ∀ location, twoCopies.tree.file? location = none := by
    intro location
    cases location <;> rfl
  refine ⟨⟨rfl, ?_⟩, fun _ _ => hfile _, fun _ _ => hfile _⟩
  intro location name entry hentry
  cases location <;> exact nomatch hentry

/-- The save of the first holder. -/
def firstSave : Save := ⟨unsaved, advance unsaved ⟨0, 2⟩⟩

/-- Once the first of two copies is saved, the second is not, and the text of the first stays. -/
theorem no_update_is_lost_twice : ∃ clients,
    perform ⟨"d"⟩ twoCopies (.save 0) = some (clients, .saved firstSave) ∧
      clients.offer? (.save 1) = some unsaved ∧
      ∀ next outcome, perform ⟨"d"⟩ clients (.save 1) = some (next, outcome) →
        outcome.saves = [] ∧ text? ⟨"d"⟩ next.tree "s" = some firstSave.stored.render := by
  have hmade : (perform ⟨"d"⟩ twoCopies (.save 0)).map (fun made => (made.1.records, made.2)) =
      some ([firstSave.stored, unsaved], .saved firstSave) := by decide +kernel
  obtain ⟨⟨clients, outcome⟩, hperform, hmade⟩ := Option.map_eq_some_iff.mp hmade
  obtain ⟨hrecords, rfl⟩ := Prod.mk.inj hmade
  have hoffer : clients.offer? (.save 1) = some unsaved := by
    rw [Clients.offer?, hrecords]
    rfl
  refine ⟨clients, hperform, hoffer, ?_⟩
  intro next outcome hnext
  have hhistory : History ⟨"d"⟩ twoCopies clients [firstSave] := History.start.use hperform
  obtain ⟨hsessions, huses⟩ := no_update_is_lost (fresh_twoCopies ⟨"d"⟩) hhistory
  have htext : text? ⟨"d"⟩ clients.tree "s" = some firstSave.stored.render := (hsessions "s").2.2.1
  obtain ⟨-, houtcome⟩ := huses _ _ _ hnext
  cases outcome with
  | saved save =>
      -- the second copy is at revision zero, the stored text at revision one
      obtain ⟨hoffered, hrevision, -⟩ := houtcome
      rw [hoffer] at hoffered
      rw [Save.session, ← Option.some.inj hoffered] at hrevision
      exact absurd hrevision (by decide)
  | failed cause => exact ⟨rfl, (houtcome.2.2 "s").trans htext⟩
  | loaded record => exact ⟨rfl, (houtcome "s").trans htext⟩

end SessionStore
end PromptScript
