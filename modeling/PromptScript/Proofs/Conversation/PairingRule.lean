import Mathlib.Data.List.Induction
import Mathlib.Data.List.Nodup
import PromptScript.Proofs.Conversation.Ledger

/-!
# The pairing rule

The check of a conversation reads its blocks once, with a ledger of the calls so far.  The rule
that it decides speaks of places among all blocks: which calls share an identifier, where the
result of a call stands, and what stands before a result.

Reading gives a ledger exactly for blocks that are *orderly*, and the ledger is then known: the
identifiers of the calls, each with whether it has been answered.  This is shown one block at a
time, from the front.  What the rule asks beyond that is the final look for open calls.
-/

namespace PromptScript

namespace Block

/-- The block is a call with the identifier. -/
def Calls (id : String) (block : Block) : Prop :=
  ∃ call, block = .call call ∧ call.id = id

/-- The block is a result with the identifier. -/
def Answers (id : String) (block : Block) : Prop :=
  ∃ result, block = .result result ∧ result.id = id

/-- Whether the block is a call or a result. -/
def takesPart : Block → Bool
  | .call _ | .result _ => true
  | .text _ | .image _ => false

end Block

namespace Conversation

/-- A block of a kind stands at a place. -/
def At (kind : Block → Prop) (blocks : List Block) (place : Nat) : Prop :=
  ∃ block, blocks[place]? = some block ∧ kind block

/-- At most one block is of a kind. -/
def AtMostOnce (kind : Block → Prop) (blocks : List Block) : Prop :=
  ∀ place other, At kind blocks place → At kind blocks other → place = other

/-- Each result with the identifier stands behind a call with it. -/
def AnswersEarlier (id : String) (blocks : List Block) : Prop :=
  ∀ place, At (Block.Answers id) blocks place →
    ∃ earlier < place, At (Block.Calls id) blocks earlier

/-- The rule of pairing: no two calls share an identifier, each call has exactly one result with
its identifier, which stands behind it, and each result answers an earlier call. -/
structure WellPaired (blocks : List Block) : Prop where
  calls_differ : ∀ id, AtMostOnce (Block.Calls id) blocks
  answered_once : ∀ id place, At (Block.Calls id) blocks place →
    ∃ reply, place < reply ∧ At (Block.Answers id) blocks reply ∧
      ∀ other, At (Block.Answers id) blocks other → other = reply
  answers_earlier : ∀ id, AnswersEarlier id blocks

/-- What the rule asks of blocks that others may follow, so that a call need not be answered
yet. -/
structure Orderly (blocks : List Block) : Prop where
  calls_differ : ∀ id, AtMostOnce (Block.Calls id) blocks
  results_differ : ∀ id, AtMostOnce (Block.Answers id) blocks
  answers_earlier : ∀ id, AnswersEarlier id blocks

/-- The identifiers of the results among some blocks, in order. -/
def answeredIds (blocks : List Block) : List String :=
  (resultsOf blocks).map CallResult.id

/-- The ledger of blocks that are orderly. -/
def entries (blocks : List Block) : List (String × Bool) :=
  (callIdsOf blocks).map fun id => (id, decide (id ∈ answeredIds blocks))

section Places

variable {kind : Block → Prop} {blocks : List Block} {block : Block} {place : Nat} {id : String}

theorem At.lt_length (hat : At kind blocks place) : place < blocks.length := by
  obtain ⟨block, hblock, -⟩ := hat
  exact (List.getElem?_eq_some_iff.mp hblock).1

theorem not_at_nil : ¬At kind [] place := by
  intro hat
  exact absurd hat.lt_length (Nat.not_lt_zero place)

/-- One more block adds the place behind the others. -/
theorem at_concat_iff :
    At kind (blocks ++ [block]) place ↔
      At kind blocks place ∨ place = blocks.length ∧ kind block := by
  constructor
  · rintro ⟨found, hfound, hkind⟩
    rw [List.getElem?_append] at hfound
    split at hfound
    next => exact .inl ⟨found, hfound, hkind⟩
    next hbehind =>
        rw [List.getElem?_singleton, Option.ite_none_right_eq_some] at hfound
        obtain ⟨hzero, hsame⟩ := hfound
        cases hsame
        exact .inr ⟨by omega, hkind⟩
  · rintro (hat | ⟨rfl, hkind⟩)
    · have hplace := hat.lt_length
      obtain ⟨found, hfound, hkind⟩ := hat
      exact ⟨found, (List.getElem?_append_left hplace).trans hfound, hkind⟩
    · exact ⟨block, List.getElem?_concat_length, hkind⟩

theorem exists_at_iff : (∃ place, At kind blocks place) ↔ ∃ block ∈ blocks, kind block := by
  simp only [At, List.mem_iff_getElem?]
  constructor
  · rintro ⟨place, block, hblock, hkind⟩
    exact ⟨block, ⟨place, hblock⟩, hkind⟩
  · rintro ⟨block, ⟨place, hblock⟩, hkind⟩
    exact ⟨place, block, hblock, hkind⟩

theorem exists_calls_iff :
    (∃ place, At (Block.Calls id) blocks place) ↔ id ∈ callIdsOf blocks := by
  rw [exists_at_iff]
  induction blocks with
  | nil => simp
  | cons block rest ih => cases block <;> simp [Block.Calls, eq_comm, ← ih]

theorem exists_answers_iff :
    (∃ place, At (Block.Answers id) blocks place) ↔ id ∈ answeredIds blocks := by
  rw [exists_at_iff]
  induction blocks with
  | nil => simp [answeredIds]
  | cons block rest ih => cases block <;> simp_all [Block.Answers, answeredIds, eq_comm]

end Places

section Orderly

variable {kind : Block → Prop} {blocks : List Block} {block : Block} {place : Nat} {id : String}

theorem At.concat (hat : At kind blocks place) : At kind (blocks ++ [block]) place :=
  at_concat_iff.mpr (.inl hat)

theorem At.of_concat (hat : At kind (blocks ++ [block]) place) (hplace : place < blocks.length) :
    At kind blocks place := by
  rcases at_concat_iff.mp hat with hat | ⟨rfl, -⟩
  · exact hat
  · exact absurd hplace (Nat.lt_irrefl _)

theorem at_concat_last (hkind : kind block) : At kind (blocks ++ [block]) blocks.length :=
  at_concat_iff.mpr (.inr ⟨rfl, hkind⟩)

theorem atMostOnce_concat_iff :
    AtMostOnce kind (blocks ++ [block]) ↔
      AtMostOnce kind blocks ∧ (kind block → ¬∃ place, At kind blocks place) := by
  constructor
  · intro honce
    constructor
    · intro place other hplace hother
      exact honce place other hplace.concat hother.concat
    · rintro hkind ⟨place, hplace⟩
      have hlast := honce place _ hplace.concat (at_concat_last hkind)
      exact absurd hplace.lt_length (by omega)
  · rintro ⟨honce, hnew⟩ place other hplace hother
    rcases at_concat_iff.mp hplace with hplace | ⟨rfl, hkind⟩
    · rcases at_concat_iff.mp hother with hother | ⟨rfl, hkind⟩
      · exact honce place other hplace hother
      · exact absurd ⟨place, hplace⟩ (hnew hkind)
    · rcases at_concat_iff.mp hother with hother | ⟨rfl, -⟩
      · exact absurd ⟨other, hother⟩ (hnew hkind)
      · rfl

theorem answersEarlier_concat_iff :
    AnswersEarlier id (blocks ++ [block]) ↔
      AnswersEarlier id blocks ∧
        (block.Answers id → ∃ place, At (Block.Calls id) blocks place) := by
  constructor
  · intro hbehind
    constructor
    · intro place hplace
      obtain ⟨earlier, hless, hcall⟩ := hbehind place hplace.concat
      exact ⟨earlier, hless, hcall.of_concat (Nat.lt_trans hless hplace.lt_length)⟩
    · intro hanswers
      obtain ⟨earlier, hless, hcall⟩ := hbehind _ (at_concat_last hanswers)
      exact ⟨earlier, hcall.of_concat hless⟩
  · rintro ⟨hbehind, hlast⟩ place hplace
    rcases at_concat_iff.mp hplace with hplace | ⟨rfl, hanswers⟩
    · obtain ⟨earlier, hless, hcall⟩ := hbehind place hplace
      exact ⟨earlier, hless, hcall.concat⟩
    · obtain ⟨earlier, hcall⟩ := hlast hanswers
      exact ⟨earlier, hcall.lt_length, hcall.concat⟩

theorem orderly_nil : Orderly [] where
  calls_differ _ _ _ hplace _ := absurd hplace not_at_nil
  results_differ _ _ _ hplace _ := absurd hplace not_at_nil
  answers_earlier _ _ hplace := absurd hplace not_at_nil

/-- What a block may be for orderly blocks in front of it to stay orderly. -/
theorem orderly_concat_iff :
    Orderly (blocks ++ [block]) ↔
      Orderly blocks ∧ (∀ id, block.Calls id → id ∉ callIdsOf blocks) ∧
        ∀ id, block.Answers id → id ∈ callIdsOf blocks ∧ id ∉ answeredIds blocks := by
  simp only [← exists_calls_iff, ← exists_answers_iff]
  constructor
  · rintro ⟨hcalls, hresults, hbehind⟩
    simp only [atMostOnce_concat_iff, answersEarlier_concat_iff] at hcalls hresults hbehind
    exact ⟨⟨fun id => (hcalls id).1, fun id => (hresults id).1, fun id => (hbehind id).1⟩,
      fun id => (hcalls id).2,
      fun id hanswers => ⟨(hbehind id).2 hanswers, (hresults id).2 hanswers⟩⟩
  · rintro ⟨horderly, hcalls, hanswers⟩
    refine ⟨?_, ?_, ?_⟩
    · intro id
      exact atMostOnce_concat_iff.mpr ⟨horderly.calls_differ id, hcalls id⟩
    · intro id
      exact atMostOnce_concat_iff.mpr
        ⟨horderly.results_differ id, fun hkind => (hanswers id hkind).2⟩
    · intro id
      exact answersEarlier_concat_iff.mpr
        ⟨horderly.answers_earlier id, fun hkind => (hanswers id hkind).1⟩

theorem Orderly.nodup_callIdsOf (horderly : Orderly blocks) : (callIdsOf blocks).Nodup := by
  induction blocks using List.reverseRecOn with
  | nil => exact List.nodup_nil
  | append_singleton front block ih =>
      obtain ⟨hfront, hcalls, -⟩ := orderly_concat_iff.mp horderly
      have hnew : (callIdsOf [block]).Nodup ∧ ∀ id ∈ callIdsOf [block], id ∉ callIdsOf front := by
        cases block with
        | call call => simpa using hcalls call.id ⟨call, rfl, rfl⟩
        | _ => simp
      rw [callIdsOf_append]
      exact (ih hfront).append hnew.1 fun id hold hid => hnew.2 id hid hold

/-- The results of orderly blocks belong to calls among them. -/
theorem Orderly.answeredIds_subset (horderly : Orderly blocks) :
    answeredIds blocks ⊆ callIdsOf blocks := by
  intro id hid
  obtain ⟨place, hplace⟩ := exists_answers_iff.mpr hid
  obtain ⟨earlier, -, hcall⟩ := horderly.answers_earlier id place hplace
  exact exists_calls_iff.mp ⟨earlier, hcall⟩

/-- The rule asks of orderly blocks that every call be answered. -/
theorem wellPaired_iff :
    WellPaired blocks ↔ Orderly blocks ∧ callIdsOf blocks ⊆ answeredIds blocks := by
  constructor
  · intro hpaired
    refine ⟨⟨hpaired.calls_differ, ?_, hpaired.answers_earlier⟩, ?_⟩
    · intro id place other hplace hother
      obtain ⟨earlier, -, hcall⟩ := hpaired.answers_earlier id place hplace
      obtain ⟨reply, -, -, honly⟩ := hpaired.answered_once id earlier hcall
      rw [honly place hplace, honly other hother]
    · intro id hid
      obtain ⟨place, hplace⟩ := exists_calls_iff.mpr hid
      obtain ⟨reply, -, hreply, -⟩ := hpaired.answered_once id place hplace
      exact exists_answers_iff.mp ⟨reply, hreply⟩
  · rintro ⟨horderly, hall⟩
    refine ⟨horderly.calls_differ, ?_, horderly.answers_earlier⟩
    intro id place hplace
    obtain ⟨reply, hreply⟩ := exists_answers_iff.mpr (hall (exists_calls_iff.mp ⟨place, hplace⟩))
    obtain ⟨earlier, hless, hcall⟩ := horderly.answers_earlier id reply hreply
    have hsame := horderly.calls_differ id place earlier hplace hcall
    refine ⟨reply, hsame ▸ hless, hreply, ?_⟩
    intro other hother
    exact horderly.results_differ id other reply hother hreply

end Orderly

section Reading

variable {blocks : List Block} {block : Block} {ledger next : List (String × Bool)}

/-- Settles the entry of an identifier. -/
def settle (id : String) (entry : String × Bool) : String × Bool :=
  (entry.1, entry.2 || decide (entry.1 = id))

theorem map_settle_of_not_mem {id : String} (hnew : id ∉ ledger.map Prod.fst) :
    ledger.map (settle id) = ledger := by
  induction ledger with
  | nil => rfl
  | cons entry rest ih =>
      simp only [List.map_cons, List.mem_cons, not_or] at hnew
      have hdiffers : ¬entry.1 = id := Ne.symm hnew.1
      simp [settle, hdiffers, ih hnew.2]

/-- In a ledger with one entry for each call, an answer settles the entry of its identifier, which
must be open. -/
theorem answer_eq_ok_iff {id : String} (hnodup : (ledger.map Prod.fst).Nodup) :
    answer id ledger = .ok next ↔ (id, false) ∈ ledger ∧ next = ledger.map (settle id) := by
  induction ledger generalizing next with
  | nil => simp [answer]
  | cons entry rest ih =>
      obtain ⟨other, answered⟩ := entry
      rw [List.map_cons, List.nodup_cons] at hnodup
      obtain ⟨hfirst, hrest⟩ := hnodup
      by_cases hsame : other = id
      · subst hsame
        have hclosed : (other, false) ∉ rest := by
          intro hmem
          exact hfirst (List.mem_map.mpr ⟨_, hmem, rfl⟩)
        cases answered <;>
          simp [answer, settle, hclosed, map_settle_of_not_mem hfirst, eq_comm]
      · have hdiffers : ¬id = other := fun heq => hsame heq.symm
        have hkept : settle id (other, answered) = (other, answered) := by
          simp [settle, hsame]
        simp only [answer, hsame, if_false, List.mem_cons, Prod.mk.injEq, hdiffers, false_and,
          false_or, List.map_cons, hkept]
        cases hanswer : answer id rest with
        | error error =>
            have hnot : (id, false) ∉ rest := by
              intro hmem
              have hok := (ih hrest).mpr ⟨hmem, rfl⟩
              rw [hanswer] at hok
              cases hok
            simp [Except.map, hnot]
        | ok later =>
            obtain ⟨hmem, rfl⟩ := (ih hrest).mp hanswer
            simp [Except.map, hmem, eq_comm]

theorem map_fst_entries (blocks : List Block) :
    (entries blocks).map Prod.fst = callIdsOf blocks := by
  simp [entries, Function.comp_def]

theorem settled_entries_iff : Settled (entries blocks) ↔ callIdsOf blocks ⊆ answeredIds blocks := by
  simp [Settled, entries, List.subset_def]

theorem any_entries_iff {id : String} :
    ((entries blocks).any fun entry => entry.1 == id) = true ↔ id ∈ callIdsOf blocks := by
  simp [entries]

theorem open_mem_entries_iff {id : String} :
    (id, false) ∈ entries blocks ↔ id ∈ callIdsOf blocks ∧ id ∉ answeredIds blocks := by
  simp [entries]

theorem entries_concat_call {call : Call} (hopen : call.id ∉ answeredIds blocks) :
    entries (blocks ++ [.call call]) = entries blocks ++ [(call.id, false)] := by
  have hanswered : answeredIds (blocks ++ [.call call]) = answeredIds blocks := by
    simp [answeredIds]
  simp [entries, hanswered, hopen]

theorem entries_concat_result (result : CallResult) :
    entries (blocks ++ [.result result]) = (entries blocks).map (settle result.id) := by
  simp [entries, answeredIds, settle, Function.comp_def]

/-- Reading one more block goes on with the ledger if it keeps the blocks orderly, and fails
otherwise. -/
theorem ledgerAfter_entries (horderly : Orderly blocks) :
    ledgerAfter (entries blocks) [block] = .ok ledger ↔
      Orderly (blocks ++ [block]) ∧ ledger = entries (blocks ++ [block]) := by
  rw [orderly_concat_iff]
  simp only [horderly, true_and]
  cases block with
  | text body => simp [ledgerAfter, Block.Calls, Block.Answers, entries, answeredIds, eq_comm]
  | image picture => simp [ledgerAfter, Block.Calls, Block.Answers, entries, answeredIds, eq_comm]
  | call call =>
      simp only [ledgerAfter, any_entries_iff]
      by_cases hused : call.id ∈ callIdsOf blocks
      · simp [Block.Calls, hused]
      · have hopen : call.id ∉ answeredIds blocks := fun hid =>
          hused (horderly.answeredIds_subset hid)
        simp [Block.Calls, Block.Answers, hused, entries_concat_call hopen, eq_comm]
  | result result =>
      have hnodup : ((entries blocks).map Prod.fst).Nodup := by
        rw [map_fst_entries]
        exact horderly.nodup_callIdsOf
      have hread : ledgerAfter (entries blocks) [.result result] =
          answer result.id (entries blocks) := by
        rw [ledgerAfter]
        cases answer result.id (entries blocks) <;> rfl
      rw [hread, answer_eq_ok_iff hnodup, open_mem_entries_iff, entries_concat_result]
      simp [Block.Calls, Block.Answers]

/-- Reading orderly blocks gives their ledger, and reading others gives none. -/
theorem ledgerAfter_nil_eq_ok_iff :
    ledgerAfter [] blocks = .ok ledger ↔ Orderly blocks ∧ ledger = entries blocks := by
  induction blocks using List.reverseRecOn generalizing ledger with
  | nil => simp [ledgerAfter, entries, orderly_nil, eq_comm]
  | append_singleton front block ih =>
      rw [ledgerAfter_append]
      cases hfront : ledgerAfter [] front with
      | ok middle =>
          obtain ⟨horderly, rfl⟩ := ih.mp hfront
          exact ledgerAfter_entries horderly
      | error error =>
          have hnot : ¬Orderly front := by
            intro horderly
            have hok := ih.mpr ⟨horderly, rfl⟩
            rw [hfront] at hok
            cases hok
          simp [Except.bind, orderly_concat_iff, hnot]

/-- A conversation pairs exactly if it keeps the rule. -/
theorem paired_iff_wellPaired (conversation : Conversation) :
    conversation.Paired ↔ WellPaired conversation.blocks := by
  rw [paired_iff, wellPaired_iff, ← settled_entries_iff]
  constructor
  · rintro ⟨final, hread, hsettled⟩
    obtain ⟨horderly, rfl⟩ := ledgerAfter_nil_eq_ok_iff.mp hread
    exact ⟨horderly, hsettled⟩
  · rintro ⟨horderly, hsettled⟩
    exact ⟨_, ledgerAfter_nil_eq_ok_iff.mpr ⟨horderly, rfl⟩, hsettled⟩

/-- Only calls and results are looked at. -/
theorem pairBlocks_filter (ledger : List (String × Bool)) (blocks : List Block) :
    pairBlocks ledger (blocks.filter Block.takesPart) = pairBlocks ledger blocks := by
  induction blocks generalizing ledger with
  | nil => rfl
  | cons block rest ih =>
      cases block with
      | text body => exact ih ledger
      | image picture => exact ih ledger
      | call call => simp only [List.filter, Block.takesPart, pairBlocks, ih]
      | result result => simp only [List.filter, Block.takesPart, pairBlocks, ih]

end Reading

/-- The check accepts exactly the conversations that keep the pairing rule, and its answer depends
on nothing but the sequence of calls and results. -/
theorem checkPairing_decides_rule (conversation : Conversation) :
    (conversation.checkPairing = .ok () ↔ WellPaired conversation.blocks) ∧
      ∀ other : Conversation,
        other.blocks.filter Block.takesPart = conversation.blocks.filter Block.takesPart →
          other.checkPairing = conversation.checkPairing := by
  refine ⟨paired_iff_wellPaired conversation, ?_⟩
  intro other hsame
  calc other.checkPairing
      = pairBlocks [] (other.blocks.filter Block.takesPart) := (pairBlocks_filter [] _).symm
    _ = pairBlocks [] (conversation.blocks.filter Block.takesPart) := by rw [hsame]
    _ = conversation.checkPairing := pairBlocks_filter [] _

theorem checkPairing_decides_rule_merged :
    checkPairing [⟨.assistant, [.call ⟨"a", "f", .null⟩, .result ⟨"a", "f", "1", false⟩]⟩] =
        checkPairing [⟨.user, [.text "Run f."]⟩, ⟨.assistant, [.text "", .call ⟨"a", "f", .null⟩]⟩,
          ⟨.tool, [.result ⟨"a", "f", "1", false⟩]⟩] ∧
      WellPaired [.call ⟨"a", "f", .null⟩, .result ⟨"a", "f", "1", false⟩] :=
  ⟨(checkPairing_decides_rule _).2 _ rfl,
    (checkPairing_decides_rule
      [⟨.assistant, [.call ⟨"a", "f", .null⟩, .result ⟨"a", "f", "1", false⟩]⟩]).1.mp rfl⟩

end Conversation

end PromptScript
