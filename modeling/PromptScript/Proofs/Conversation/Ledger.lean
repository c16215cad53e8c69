import PromptScript.Conversation.Pairing

/-!
# The ledger of calls

Reading a conversation from its beginning fills a ledger with one entry for each call: its
identifier, and whether a result has answered it.  A conversation pairs exactly if the ledger can
be filled and every entry of it is answered.  These lemmas say what further blocks do to a ledger;
the main statement is that calls with new identifiers, answered in order, keep a paired
conversation paired.
-/

namespace PromptScript.Conversation

/-- The ledger behind some blocks, given the one before them. -/
def ledgerAfter (ledger : List (String × Bool)) :
    List Block → Except PairingError (List (String × Bool))
  | [] => .ok ledger
  | .call call :: rest =>
    if ledger.any fun entry => entry.1 == call.id then .error (.repeatedCall call.id)
    else ledgerAfter (ledger ++ [(call.id, false)]) rest
  | .result result :: rest =>
    match answer result.id ledger with
    | .ok next => ledgerAfter next rest
    | .error error => .error error
  | .text _ :: rest | .image _ :: rest => ledgerAfter ledger rest

/-- Whether every call of a ledger has been answered. -/
def Settled (ledger : List (String × Bool)) : Prop :=
  ∀ entry ∈ ledger, entry.2 = true

/-- Whether the calls and results of a conversation pair. -/
def Paired (conversation : Conversation) : Prop :=
  conversation.checkPairing = .ok ()

/-- The identifiers of the calls among some blocks, in order. -/
def callIdsOf (blocks : List Block) : List String :=
  (blocks.filterMap Block.call?).map Call.id

/-- The results among some blocks, in order. -/
def resultsOf (blocks : List Block) : List CallResult :=
  blocks.filterMap Block.result?

section Views

variable (rest : List Block)

@[simp]
theorem callIdsOf_nil : callIdsOf [] = [] := rfl

@[simp]
theorem callIdsOf_text (text : String) : callIdsOf (.text text :: rest) = callIdsOf rest := rfl

@[simp]
theorem callIdsOf_image (image : Image) : callIdsOf (.image image :: rest) = callIdsOf rest := rfl

@[simp]
theorem callIdsOf_call (call : Call) :
    callIdsOf (.call call :: rest) = call.id :: callIdsOf rest := rfl

@[simp]
theorem callIdsOf_result (result : CallResult) :
    callIdsOf (.result result :: rest) = callIdsOf rest := rfl

@[simp]
theorem callIdsOf_append (first second : List Block) :
    callIdsOf (first ++ second) = callIdsOf first ++ callIdsOf second := by
  simp only [callIdsOf, List.filterMap_append, List.map_append]

@[simp]
theorem resultsOf_nil : resultsOf [] = [] := rfl

@[simp]
theorem resultsOf_text (text : String) : resultsOf (.text text :: rest) = resultsOf rest := rfl

@[simp]
theorem resultsOf_image (image : Image) : resultsOf (.image image :: rest) = resultsOf rest := rfl

@[simp]
theorem resultsOf_call (call : Call) : resultsOf (.call call :: rest) = resultsOf rest := rfl

@[simp]
theorem resultsOf_result (result : CallResult) :
    resultsOf (.result result :: rest) = result :: resultsOf rest := rfl

@[simp]
theorem resultsOf_append (first second : List Block) :
    resultsOf (first ++ second) = resultsOf first ++ resultsOf second := by
  simp only [resultsOf, List.filterMap_append]

end Views

theorem pairBlocks_eq_ok_iff (ledger : List (String × Bool)) (blocks : List Block) :
    pairBlocks ledger blocks = .ok () ↔
      ∃ final, ledgerAfter ledger blocks = .ok final ∧ Settled final := by
  fun_induction ledgerAfter ledger blocks with
  | case1 ledger =>
      simp only [pairBlocks, Except.ok.injEq, exists_eq_left', Settled]
      cases hopen : ledger.find? fun entry => !entry.2 with
      | none => simpa using hopen
      | some entry =>
          have hfalse := List.find?_some hopen
          have hmem := List.mem_of_find?_eq_some hopen
          simp only [reduceCtorEq, false_iff]
          intro hall
          simp [hall entry hmem] at hfalse
  | case2 ledger call rest hused =>
      simp only [pairBlocks, hused, if_true, reduceCtorEq, false_and, exists_false]
  | case3 ledger call rest hfree ih =>
      rw [pairBlocks, if_neg hfree]
      exact ih
  | case4 ledger result rest next hanswer ih => simpa only [pairBlocks, hanswer] using ih
  | case5 ledger result rest error hanswer =>
      simp only [pairBlocks, hanswer, reduceCtorEq, false_and, exists_false]
  | case6 ledger text rest ih => simpa only [pairBlocks] using ih
  | case7 ledger image rest ih => simpa only [pairBlocks] using ih

theorem paired_iff (conversation : Conversation) :
    conversation.Paired ↔
      ∃ final, ledgerAfter [] conversation.blocks = .ok final ∧ Settled final :=
  pairBlocks_eq_ok_iff [] conversation.blocks

theorem ledgerAfter_append (ledger : List (String × Bool)) (first second : List Block) :
    ledgerAfter ledger (first ++ second) =
      (ledgerAfter ledger first).bind fun middle => ledgerAfter middle second := by
  fun_induction ledgerAfter ledger first with
  | case1 ledger => rfl
  | case2 ledger call rest hused =>
      simp only [List.cons_append, ledgerAfter, hused, if_true, Except.bind]
  | case3 ledger call rest hfree ih =>
      rw [List.cons_append, ledgerAfter, if_neg hfree]
      exact ih
  | case4 ledger result rest next hanswer ih =>
      simpa only [List.cons_append, ledgerAfter, hanswer] using ih
  | case5 ledger result rest error hanswer =>
      simp only [List.cons_append, ledgerAfter, hanswer, Except.bind]
  | case6 ledger text rest ih => simpa only [List.cons_append, ledgerAfter] using ih
  | case7 ledger image rest ih => simpa only [List.cons_append, ledgerAfter] using ih

/-- An answer changes no identifier of a ledger. -/
theorem map_fst_of_answer {id : String} {ledger next : List (String × Bool)}
    (hanswer : answer id ledger = .ok next) : next.map Prod.fst = ledger.map Prod.fst := by
  induction ledger generalizing next with
  | nil => simp [answer] at hanswer
  | cons entry rest ih =>
      obtain ⟨other, answered⟩ := entry
      by_cases hsame : other = id
      · cases answered <;> simp only [answer, hsame, if_true] at hanswer
        · cases hanswer
          simp [hsame]
        · simp at hanswer
      · simp only [answer, hsame, if_false] at hanswer
        cases hrest : answer id rest with
        | error error => simp [hrest, Except.map] at hanswer
        | ok later =>
            simp only [hrest, Except.map, Except.ok.injEq] at hanswer
            subst hanswer
            simp [ih hrest]

/-- A ledger holds the identifiers of the calls that were read, in order. -/
theorem map_fst_of_ledgerAfter {ledger final : List (String × Bool)} {blocks : List Block}
    (hread : ledgerAfter ledger blocks = .ok final) :
    final.map Prod.fst = ledger.map Prod.fst ++ callIdsOf blocks := by
  fun_induction ledgerAfter ledger blocks with
  | case1 ledger =>
      cases hread
      simp
  | case2 ledger call rest hused => cases hread
  | case3 ledger call rest hfree ih => simpa using ih hread
  | case4 ledger result rest next hanswer ih =>
      rw [ih hread, map_fst_of_answer hanswer, callIdsOf_result]
  | case5 ledger result rest error hanswer => cases hread
  | case6 ledger text rest ih => simpa using ih hread
  | case7 ledger image rest ih => simpa using ih hread

/-- Calls with new identifiers enter a ledger unanswered. -/
theorem ledgerAfter_of_fresh (ledger : List (String × Bool)) {blocks : List Block}
    (hresults : resultsOf blocks = [])
    (hnodup : (callIdsOf blocks).Nodup)
    (hfresh : ∀ id ∈ callIdsOf blocks, id ∉ ledger.map Prod.fst) :
    ledgerAfter ledger blocks = .ok (ledger ++ (callIdsOf blocks).map fun id => (id, false)) := by
  induction blocks generalizing ledger with
  | nil => simp [ledgerAfter]
  | cons block rest ih =>
      cases block with
      | text body => exact ih ledger hresults hnodup hfresh
      | image picture => exact ih ledger hresults hnodup hfresh
      | result answer => simp at hresults
      | call call =>
          rw [callIdsOf_call] at hnodup hfresh ⊢
          obtain ⟨hnew, hrest⟩ := List.nodup_cons.mp hnodup
          have hfree : (ledger.any fun entry => entry.1 == call.id) = false := by
            have hnot := hfresh call.id List.mem_cons_self
            rw [List.any_eq_false]
            intro entry hentry hsame
            exact hnot (List.mem_map.mpr ⟨entry, hentry, beq_iff_eq.mp hsame⟩)
          have hlater : ∀ id ∈ callIdsOf rest,
              id ∉ (ledger ++ [(call.id, false)]).map Prod.fst := by
            intro id hid
            simp only [List.map_append, List.map_cons, List.map_nil, List.mem_append,
              List.mem_singleton, not_or]
            refine ⟨hfresh id (List.mem_cons_of_mem _ hid), ?_⟩
            rintro rfl
            exact hnew hid
          simp only [ledgerAfter, hfree]
          rw [if_neg (by simp), ih _ hresults hrest hlater]
          simp

/-- The first open entry of an identifier is the one that an answer settles. -/
theorem answer_of_not_mem {id : String} {before : List (String × Bool)}
    (hbefore : id ∉ before.map Prod.fst) (after : List (String × Bool)) :
    answer id (before ++ (id, false) :: after) = .ok (before ++ (id, true) :: after) := by
  induction before with
  | nil => simp [answer]
  | cons entry rest ih =>
      simp only [List.map_cons, List.mem_cons, not_or] at hbefore
      have hother : ¬entry.1 = id := fun hsame => hbefore.1 hsame.symm
      simp only [List.cons_append, answer, hother, if_false, ih hbefore.2, Except.map]

/-- Results that answer the open entries at the end of a ledger in order settle them. -/
theorem ledgerAfter_of_answers (ledger : List (String × Bool)) (results : List CallResult)
    (hnodup : (results.map CallResult.id).Nodup)
    (hnew : ∀ id ∈ results.map CallResult.id, id ∉ ledger.map Prod.fst) :
    ledgerAfter (ledger ++ (results.map CallResult.id).map fun id => (id, false))
        (results.map Block.result) =
      .ok (ledger ++ (results.map CallResult.id).map fun id => (id, true)) := by
  induction results generalizing ledger with
  | nil => simp [ledgerAfter]
  | cons result rest ih =>
      simp only [List.map_cons] at hnodup hnew ⊢
      obtain ⟨hfirst, hrest⟩ := List.nodup_cons.mp hnodup
      have hanswer := answer_of_not_mem (hnew result.id List.mem_cons_self)
        ((rest.map CallResult.id).map fun id => (id, false))
      have hlater : ∀ id ∈ rest.map CallResult.id,
          id ∉ (ledger ++ [(result.id, true)]).map Prod.fst := by
        intro id hid
        simp only [List.map_append, List.map_cons, List.map_nil, List.mem_append,
          List.mem_singleton, not_or]
        refine ⟨hnew id (List.mem_cons_of_mem _ hid), ?_⟩
        rintro rfl
        exact hfirst hid
      have hnext := ih _ hrest hlater
      simp only [List.append_assoc, List.singleton_append] at hnext
      simp only [ledgerAfter, hanswer, hnext]

/-- Blocks that hold neither calls nor results keep a conversation paired. -/
theorem Paired.of_idle {conversation later : Conversation} (hpaired : conversation.Paired)
    {blocks : List Block} (hblocks : later.blocks = conversation.blocks ++ blocks)
    (hcalls : callIdsOf blocks = []) (hresults : resultsOf blocks = []) : later.Paired := by
  obtain ⟨final, hread, hsettled⟩ := (paired_iff conversation).mp hpaired
  refine (paired_iff later).mpr ⟨final, ?_, hsettled⟩
  rw [hblocks, ledgerAfter_append, hread]
  change ledgerAfter final blocks = _
  simpa [hcalls] using ledgerAfter_of_fresh final hresults (by simp [hcalls])
    (by simp [hcalls])

/-- Calls with identifiers that are new to a paired conversation, answered in order, keep it
paired. -/
theorem Paired.of_answered {conversation later : Conversation} (hpaired : conversation.Paired)
    {spoken : List Block} {results : List CallResult}
    (hblocks : later.blocks = conversation.blocks ++ spoken ++ results.map Block.result)
    (hresults : resultsOf spoken = [])
    (hids : results.map CallResult.id = callIdsOf spoken)
    (hnodup : (callIdsOf spoken).Nodup)
    (hfresh : ∀ id ∈ callIdsOf spoken, id ∉ callIdsOf conversation.blocks) : later.Paired := by
  obtain ⟨final, hread, hsettled⟩ := (paired_iff conversation).mp hpaired
  have hledger : final.map Prod.fst = callIdsOf conversation.blocks := by
    simpa using map_fst_of_ledgerAfter hread
  rw [← hledger] at hfresh
  have hopened := ledgerAfter_of_fresh final hresults hnodup hfresh
  have hclosed := ledgerAfter_of_answers final results
    (by rwa [hids]) (by rwa [hids])
  rw [hids] at hclosed
  refine (paired_iff later).mpr
    ⟨final ++ (callIdsOf spoken).map fun id => (id, true), ?_, ?_⟩
  · rw [hblocks, ledgerAfter_append, ledgerAfter_append, hread]
    change (ledgerAfter final spoken).bind _ = _
    rw [hopened]
    exact hclosed
  · intro entry hentry
    rcases List.mem_append.mp hentry with hold | hnew
    · exact hsettled entry hold
    · obtain ⟨id, -, rfl⟩ := List.mem_map.mp hnew
      rfl

end PromptScript.Conversation
